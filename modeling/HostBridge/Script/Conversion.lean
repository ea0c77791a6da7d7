import HostBridge.Script.Text

/-!
# Conversion between slots and script values

The host reads and writes object notation with the functions that the script has under
the global variable `JSON`, and it makes text with the global function `String`. A
script may have set them to something else, which then has its say. Arrays and objects
that are neither vectors nor handles become object notation.

## Main definitions

- `Script.stringify`, `Script.describe` — what the host reads of a value
- `ScriptValue.ofSlot`, `Script.fromSlot` — the script value of a slot
- `Script.handle?`, `Script.vector?` — what objects stand for
- `Script.toSlot` — the slot of a script value
- `Place`, `Scope.items` — where values stand that are read later
- `Script.convertArgs` — the slots of the arguments of a call
-/

namespace HostBridge

namespace ScriptValue

/-- An object with the given properties. -/
def ofPairs (pairs : List (String × ScriptValue)) : ScriptValue :=
  .object (pairs.map fun (key, v) => (CodePoints.ofString key, some v))

/-- An object whose properties are the lanes of a vector. -/
def ofLanes (lanes : List (String × Float32)) : ScriptValue :=
  ofPairs (lanes.map fun (key, x) => (key, .number (.float x.toFloat)))

/-- The script value of a slot. Object notation is text until it is read. -/
def ofSlot : Slot → ScriptValue
  | .null => .null
  | .bool b => .bool b
  | .int32 n => .number (.int n)
  | .int64 n => .number ((ScriptNumber.ofInt? n.toInt).getD (.float n.toFloat))
  | .float32 x => .number (.float x.toFloat)
  | .double x => .number (.float x)
  | .string s | .json s => text s
  | .vector3 v => ofLanes [("x", v.x), ("y", v.y), ("z", v.z)]
  | .vector4 v => ofLanes [("x", v.x), ("y", v.y), ("z", v.z), ("w", v.w)]
  | .object h hint =>
    ofPairs <| ("__handle", ofNat h.number) ::
      match hint with
      | some name => [("__type", text name)]
      | none => []

end ScriptValue

/-- The slot of a number: an integer if it is one that fits 32 bits, and then without
    the sign of zero. -/
def ScriptNumber.slot : ScriptNumber → Slot
  | int n => .int32 n
  | float x =>
    let n := Decimal.int32OfFloat x
    if Decimal.floatOfInt32 n == x then .int32 n else .double x

namespace Scope

/-- The number under a key of a value; a getter that throws has none. -/
def numberAt? (s : Scope) (v : ScriptValue) (key : String) : Option ScriptNumber :=
  (s.property (CodePoints.ofString key) v).value?.bind ScriptValue.number?

/-- The numbers under some keys of an object, as lanes of a vector. -/
def lanes? (s : Scope) (v : ScriptValue) (keys : List String) : Option (List Float32) :=
  keys.mapM fun key => (s.numberAt? v key).map fun n => n.toFloat.toFloat32

/-- Whether a value has a property, be it inherited or a getter that throws. -/
def has (s : Scope) (v : ScriptValue) (key : String) : Bool :=
  (s.property (CodePoints.ofString key) v).isFound

/-- The handle that a number or an object with a number under `__handle` stands for. -/
def handle? (s : Scope) (v : ScriptValue) : Option Handle :=
  let number : Option ScriptNumber := match v with
    | .number n => some n
    | v => if v.isObject then s.numberAt? v "__handle" else none
  number.bind fun n => Handle.ofInt? n.toInt32.toInt

/-- The vector whose lanes stand under the keys of positions or colors. -/
def vector? (s : Scope) (v : ScriptValue) : Option Slot :=
  match s.lanes? v ["x", "y", "z"] with
  | some [x, y, z] =>
    match s.lanes? v ["w"] with
    | some [w] => some (.vector4 ⟨x, y, z, w⟩)
    | _ => some (.vector3 ⟨x, y, z⟩)
  | _ =>
    match s.lanes? v ["r", "g", "b"] with
    | some [r, g, b] =>
      match s.lanes? v ["a"] with
      | some [a] => some (.vector4 ⟨r, g, b, a⟩)
      | _ => some (.vector4 ⟨r, g, b, 1⟩)
    | _ => none

end Scope

/-- Where a value stands that is read later. -/
abbrev Place := Scope → ScriptValue

namespace Scope

/-- The items of an array, as they are now; what is no array has none. -/
def items (s : Scope) : ScriptValue → List ScriptValue
  | .array items => items
  | .seen => s.seen
  | _ => []

/-- Where the items of an array stand: there are as many as it has now, and one that is gone
    by the time that it is read is undefined. -/
def places (s : Scope) (array : ScriptValue) : List Place :=
  (List.range (s.items array).length).map fun i later => (later.items array).getD i .undefined

end Scope

namespace Script

variable {ε : Type} [Embedding ε]

/-- Refuses a value where the host needs one of another type. -/
def refuse {α : Type} (v : ScriptValue) (needed : String) : ScriptM ε α :=
  throw (.fault (.conversion v.engineType needed))

/-- The function that a value is, where the host needs one. -/
def hostFunction : ScriptValue → ScriptM ε Code
  | .function code => return code
  | v => refuse v "function"

/-- The text that a value is, where the host needs one. -/
def hostString : ScriptValue → ScriptM ε String
  | .string s => hostText s
  | v => refuse v "string"

/-- Reads a global variable for the host: one that is missing is undefined. -/
def hostGlobal (name : String) : ScriptM ε ScriptValue := do
  found ((← get).scope.global (CodePoints.ofString name))

/-- The function with a name for object notation, as the script has it. -/
def jsonFunction (name : String) : ScriptM ε Code := do
  let functions ← hostGlobal "JSON"
  if functions.isObject then
    hostFunction (← readProperty functions (CodePoints.ofString name))
  else refuse functions "object"

/-- The object notation of a value, as the host reads it; a value without any is `null`. -/
def stringify (inner : Inner ε) (v : ScriptValue) : ScriptM ε String := do
  match ← inner.apply (← jsonFunction "stringify") .undefined [v] with
  | .string s => hostText s
  | _ => return "null"

/-- What people read of a value: text as it is, objects in their notation, and anything
    else, objects without listed properties included, as text. -/
def describe (inner : Inner ε) (v : ScriptValue) : ScriptM ε String := do
  if let .string s := v then hostText s
  else
    let written ← if v.isPlainObject then stringify inner v else pure "\x7b\x7d"
    if written ≠ "\x7b\x7d" then return written
    else
      let code ← hostFunction (← hostGlobal "String")
      hostString (← inner.apply code .undefined [v])

/-- The script value of a slot. Object notation that cannot be read stays text. -/
def fromSlot (inner : Inner ε) (slot : Slot) : ScriptM ε ScriptValue := do
  let v := ScriptValue.ofSlot slot
  match slot with
  | .json _ =>
    let code ← jsonFunction "parse"
    tryCatch (inner.apply code .undefined [v]) fun
      | .exception _ => return v
      | fault => throw fault
  | _ => return v

/-- The script values of slots, in order. -/
def fromSlots (inner : Inner ε) : List Slot → ScriptM ε (List ScriptValue)
  | [] => return []
  | slot :: rest => do return (← fromSlot inner slot) :: (← fromSlots inner rest)

/-- The slot of a script value. -/
def toSlot (inner : Inner ε) (v : ScriptValue) : ScriptM ε Slot := do
  match v with
  | .undefined | .null | .function _ | .symbol _ | .bigint _ => return .null
  | .bool b => return .bool b
  | .number n => return n.slot
  | .string s => return .string (← hostText s)
  | v =>
    if v.isArray then return .json (← stringify inner v)
    let scope := (← get).scope
    if scope.has v "__handle" then
      return ((scope.handle? v).map fun h => Slot.object h none).getD .null
    else
      match scope.vector? v with
      | some slot => return slot
      | none => return .json (← stringify inner v)

/-- The slot of what stands at a place now. -/
def slotAt (inner : Inner ε) (place : Place) : ScriptM ε Slot := do
  toSlot inner (place (← get).scope)

/-- How many arguments fit the buffer of a call. -/
def bufferSize : Nat := 8

/-- Fills a buffer with the slots of arguments, from the front on. An argument is read when
    those in front of it have been converted. -/
def fillSlots (inner : Inner ε) : List Slot → List Place → ScriptM ε (List Slot)
  | _ :: buffer, arg :: rest => do
    return (← slotAt inner arg) :: (← fillSlots inner buffer rest)
  | buffer, _ => return buffer

/-- Appends the slots of arguments to a list, each read when its turn comes. -/
def pushSlots (inner : Inner ε) (slots : List Slot) : List Place → ScriptM ε (List Slot)
  | [] => return slots
  | arg :: rest => do pushSlots inner (slots ++ [← slotAt inner arg]) rest

/-- The slots of the arguments of a call, in order: the front of a buffer if they fit it, or
    else a list of their own. -/
def convertArgs (inner : Inner ε) (args : List Place) : ScriptM ε (List Slot) :=
  if args.length ≤ bufferSize then do
    return (← fillSlots inner (List.replicate bufferSize .null) args).take args.length
  else pushSlots inner [] args

end Script

end HostBridge
