import HostBridge.Handle.Basic
import HostBridge.Spatial.Vector

/-!
# Slots

A slot carries one argument or one result across the boundary between a script and
its host.

## Main definitions

- `Slot` — the value in a slot
- `Slot.Kind` — the kind of a slot, with its name and its number on the wire
-/

namespace HostBridge

/-- The value that crosses the boundary in one slot. -/
inductive Slot where
  | null
  | bool (b : Bool)
  | int32 (n : Int32)
  | int64 (n : Int64)
  | float32 (x : Float32)
  | double (x : Float)
  | string (s : String)
  /-- Text of object notation. -/
  | json (s : String)
  | vector3 (v : Vec3)
  | vector4 (v : Vec4)
  /-- A host object; the hint names its type for diagnostics. -/
  | object (handle : Handle) (hint : Option String)

namespace Slot

/-- The kind of a slot. -/
inductive Kind where
  | null
  | bool
  | int32
  | double
  | string
  | object
  | int64
  | float32
  | json
  | vector3
  | vector4
deriving DecidableEq, Repr

namespace Kind

/-- Every kind, in the order of the numbers on the wire. -/
def all : List Kind :=
  [null, bool, int32, double, string, object, int64, float32, json, vector3, vector4]

/-- The number of a kind on the wire; the number eight is not used. -/
def tag : Kind → Nat
  | null => 0
  | bool => 1
  | int32 => 2
  | double => 3
  | string => 4
  | object => 5
  | int64 => 6
  | float32 => 7
  | json => 9
  | vector3 => 10
  | vector4 => 11

/-- The kind with a number on the wire. -/
def ofTag? (tag : Int) : Option Kind :=
  all.find? fun k => k.tag = tag

/-- The name of a kind. -/
def name : Kind → String
  | null => "null"
  | bool => "bool"
  | int32 => "int32"
  | double => "double"
  | string => "string"
  | object => "object"
  | int64 => "int64"
  | float32 => "float32"
  | json => "json"
  | vector3 => "vector3"
  | vector4 => "vector4"

theorem ofTag?_tag (k : Kind) : ofTag? k.tag = some k := by
  cases k <;> decide

end Kind

/-- The kind of a slot. -/
def kind : Slot → Kind
  | null => .null
  | bool _ => .bool
  | int32 _ => .int32
  | int64 _ => .int64
  | float32 _ => .float32
  | double _ => .double
  | string _ => .string
  | json _ => .json
  | vector3 _ => .vector3
  | vector4 _ => .vector4
  | object .. => .object

/-- Whether a slot is empty. -/
def isNull : Slot → Bool
  | null => true
  | _ => false

/-- The text in a slot of text or of object notation. -/
def text? : Slot → Option String
  | string s => some s
  | json s => some s
  | _ => none

/-- The handle in a slot; a positive 32-bit integer counts as one. -/
def handle? : Slot → Option Handle
  | object h _ => some h
  | int32 n => Handle.ofInt? n.toInt
  | _ => none

end Slot

end HostBridge
