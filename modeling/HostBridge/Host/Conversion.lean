import HostBridge.Codec.Table
import HostBridge.Host.ValueType
import HostBridge.Slot.Lossy
import HostBridge.Slot.Text

/-!
# Conversion between slots and host values

Decoding never fails: a slot of the wrong shape yields the default of the type.
Encoding a shared object lends it under a fresh handle.

## Main definitions

- `ValueType.decode` — the value in a slot
- `Args.decode` — the values of arguments; a missing argument is an empty slot
- `Outcome.encode` — the slot of a result
-/

namespace HostBridge

/-- The codecs of a host. -/
abbrev Codecs (ε : Type) [Embedding ε] := CodecTable (HostType ε) HostType.schema

namespace Slot

/-- Whether a text is the word `true` in any case. -/
def isTrueText (s : String) : Bool :=
  s.toList.map Char.toLower = ['t', 'r', 'u', 'e']

/-- The slot as a truth value. -/
def toBool : Slot → Bool
  | bool b => b
  | string s => isTrueText s
  | s => s.toFloat?.any (· != 0)

/-- The slot as an integer between two bounds, the nearest bound for one outside them. -/
def toIntWithin (low high : Int) (s : Slot) : Int :=
  match s.toInt64? with
  | some n => max low (min high n.toInt)
  | none => 0

/-- The slot as text; anything but text is written as for people. -/
def toText : Slot → String
  | null => ""
  | string s => s
  | json s => s
  | s => s.text

/-- The numbers of the given keys of an object in a slot; a missing one is zero. -/
def keyedLanes? (keys : List String) (s : Slot) : Option (List Float32) :=
  s.members?.map fun m => keys.map fun key => (m.float32? key).getD 0

/-- The slot as a vector of three lanes. -/
def toVec3 : Slot → Vec3
  | vector3 v => v
  | vector4 v => v.truncate
  | s =>
    match s.keyedLanes? ["x", "y", "z"] with
    | some [x, y, z] => ⟨x, y, z⟩
    | _ => .zero

/-- The slot as a vector of four lanes. -/
def toVec4 : Slot → Vec4
  | vector4 v => v
  | vector3 v => v.extend 0
  | s =>
    match s.keyedLanes? ["x", "y", "z", "w"] with
    | some [x, y, z, w] => ⟨x, y, z, w⟩
    | _ => .zero

/-- The slot as a rotation; a vector of three lanes is none. -/
def toQuat : Slot → Quat
  | vector4 v => .ofVec4 v
  | s =>
    match s.members? with
    | some m =>
      ⟨(m.float32? "x").getD 0, (m.float32? "y").getD 0, (m.float32? "z").getD 0,
        (m.float32? "w").getD 1⟩
    | none => .identity

end Slot

variable {ε : Type} [Embedding ε]

/-- The value of a type in a slot. -/
def ValueType.decode (codecs : Codecs ε) (handles : Handles ε) :
    (t : ValueType ε) → Slot → t.Carrier
  | .bool, s => s.toBool
  | .int32, s => Int32.ofInt (s.toIntWithin (-0x80000000) 0x7FFFFFFF)
  | .uint32, s => UInt32.ofNat (s.toIntWithin 0 0xFFFFFFFF).toNat
  | .int64, s => s.toInt64?.getD 0
  | .uint64, s => UInt64.ofNat (s.toIntWithin 0 0x7FFFFFFFFFFFFFFF).toNat
  | .float32, s => (s.toFloat?.getD 0).toFloat32
  | .float64, s => s.toFloat?.getD 0
  | .string, s => s.toText
  | .optString, s => if s.isNull then none else some s.toText
  | .vec2, s => s.toVec3.truncate
  | .vec3, s => s.toVec3
  | .vec4, s => s.toVec4
  | .quat, s => s.toQuat
  | .slot, s => s
  | .struct t, s => codecs.decode t s
  | .optHandle, s => s.handle?
  | .optShared t, s => s.handle?.bind (handles.resolveAs? t)

/-- The values of arguments in a list of slots. -/
def Args.decode (codecs : Codecs ε) (handles : Handles ε) :
    (ts : List (ValueType ε)) → List Slot → Args ts
  | [], _ => ()
  | t :: ts, slots =>
    (t.decode codecs handles (slots.headD .null), decode codecs handles ts slots.tail)

/-- Lends an object under a fresh handle. Where there is none left, the slot is empty. -/
def Handles.lend (handles : Handles ε) (t : HostType ε) (ref : ObjectRef) :
    Logged (Slot × Handles ε) :=
  match handles.register ⟨ref, t, t.name⟩ with
  | .ok (h, handles) => return (.object h (some t.name), handles)
  | .error e => do
    Logged.emit (.cannotLend t.name e)
    return (.null, handles)

/-- The slot of a value. -/
def ValueType.encode (codecs : Codecs ε) (handles : Handles ε) :
    (t : ValueType ε) → t.Carrier → Logged (Slot × Handles ε)
  | .bool, b => return (.bool b, handles)
  | .int32, n => return (.int32 n, handles)
  | .uint32, n => return (.int64 (Int64.ofNat n.toNat), handles)
  | .int64, n => return (.int64 n, handles)
  | .uint64, n => return (.int64 (Int64.ofNat (min n.toNat 0x7FFFFFFFFFFFFFFF)), handles)
  | .float32, x => return (.float32 x, handles)
  | .float64, x => return (.double x, handles)
  | .string, s => return (.string s, handles)
  | .optString, s => return ((s.map Slot.string).getD .null, handles)
  | .vec2, v => return (.vector3 (v.extend 0), handles)
  | .vec3, v => return (.vector3 v, handles)
  | .vec4, v => return (.vector4 v, handles)
  | .quat, q => return (.vector4 q.toVec4, handles)
  | .slot, s => return (s, handles)
  | .struct t, x => return (codecs.encode t x, handles)
  | .optHandle, h => return ((h.map fun h => Slot.object h none).getD .null, handles)
  | .optShared t, ref =>
    match ref with
    | some ref => handles.lend t ref
    | none => return (.null, handles)

/-- The slot of a result. -/
def Outcome.encode (codecs : Codecs ε) (handles : Handles ε) :
    Outcome ε → Logged (Slot × Handles ε)
  | .unit => return (.null, handles)
  | .value t x => t.encode codecs handles x
  | .handle h => return (.object h none, handles)
  | .shared t ref => handles.lend t ref

end HostBridge
