import HostBridge.Script.Basic

/-!
# Text of script values

How values are written: as object notation and as the language makes text of them.
Writing a value may call functions of the script or of the language; what they do
happens one level of calls further in.

## Main definitions

- `Script.Writing` — how object notation is to be written
- `Script.Inner` — what may be used one level further in
- `Script.written` — the object notation of a value
- `Script.toPrimitive` — the value without parts that stands for a value
- `Script.textOf` — the text of a value
- `Script.sum` — the sum of two values
-/

namespace HostBridge.Script

variable {ε : Type} [Embedding ε]

/-- How a script wants object notation to be written. -/
structure Writing where
  /-- The function that says what is written for a value. -/
  replacer : Option Code := none
  /-- The keys that are written; without any all are that an object lists. -/
  keys : Option (List CodePoints) := none

/-- The objects by reference that are being written, and that cannot contain themselves. -/
structure Enclosing where
  seen : Bool := false
  cyclic : Bool := false
  scope : Bool := false

/-- What may be used one level of calls further in. -/
structure Inner (ε : Type) [Embedding ε] where
  /-- Calls a function on a value with arguments. -/
  apply : Code → ScriptValue → List ScriptValue → ScriptM ε ScriptValue
  /-- The object notation of a value, given what it is enclosed by, whether the script
      has had its say on it, the object that holds it and the key under which it stands. -/
  written : Writing → Enclosing → Bool → ScriptValue → CodePoints → ScriptValue →
    ScriptM ε (Option Json.Document)

/-- The key under which an object says how it is written. -/
def toJsonKey : CodePoints := CodePoints.ofString "toJSON"

/-- The complaint about an object that contains itself. -/
def circular {α : Type} : ScriptM ε α := typeError "circular reference"

/-- What the script wants to be written for a value, if it has a say: an object with a
    function under `toJSON` is replaced by what that returns for the key, and any value
    by what the replacer returns. -/
def replaced (inner : Inner ε) (w : Writing) (holder : ScriptValue) (key : CodePoints)
    (v : ScriptValue) : ScriptM ε (Option ScriptValue) := do
  let own ← if v.isObject then readProperty v toJsonKey else pure .undefined
  let said ← match own with
    | .function code => do pure (some (← inner.apply code v [.string key]))
    | _ => pure none
  match w.replacer with
  | none => return said
  | some code => return some (← inner.apply code holder [.string key, said.getD v])

/-- The object notation of an object around a value that is none. -/
def writtenBox : ScriptValue → ScriptM ε (Option Json.Document)
  | .bool b => return some (.bool b)
  | .number n => return some n.document
  | .string s => return some (.string s)
  | .bigint _ => typeError "Do not know how to serialize a BigInt"
  | _ => return some (.object [])

/-- The object notation of the properties of an object under some keys. -/
def writtenUnder (inner : Inner ε) (w : Writing) (e : Enclosing) (holder : ScriptValue) :
    List CodePoints → ScriptM ε (List (CodePoints × Json.Document))
  | [] => return []
  | key :: rest => do
    match ← inner.written w e false holder key (← readProperty holder key) with
    | some d => return (key, d) :: (← writtenUnder inner w e holder rest)
    | none => writtenUnder inner w e holder rest

mutual

/-- The object notation of a value, if it has one. -/
def written (inner : Inner ε) (w : Writing) (e : Enclosing) (said : Bool)
    (holder : ScriptValue) (key : CodePoints) (v : ScriptValue) :
    ScriptM ε (Option Json.Document) := do
  match ← if said then pure none else replaced inner w holder key v with
  | some result => inner.written w e true holder key result
  | none =>
    match v with
    | .null => return some .null
    | .bool b => return some (.bool b)
    | .number n => return some n.document
    | .string s => return some (.string s)
    | .bigint _ => typeError "Do not know how to serialize a BigInt"
    | .array items => return some (.array (← writtenItems inner w e v 0 items))
    | .seen =>
      if e.seen then circular
      else do
        let items ← (← get).scope.seen.zipIdx.mapM fun (item, i) => do
          let d ← inner.written w { e with seen := true } false v (Properties.indexKey i) item
          return d.getD .null
        return some (.array items)
    | .undefined | .symbol _ | .function _ => return none
    | .fixture (.shared .array) => return some (.array [])
    | .box x own =>
      if let some .symbol := x.primitiveKind? then
        return some (.object (← writtenMembers inner w e v own))
      else writtenBox x
    | .object own | .derived _ own =>
      return some (.object (← match w.keys with
        | some keys => writtenUnder inner w e v keys
        | none => writtenMembers inner w e v own))
    | .cyclic | .fixture .scope =>
      let isScope := Scope.isScope v
      if if isScope then e.scope else e.cyclic then circular
      else do
        let e := if isScope then { e with scope := true } else { e with cyclic := true }
        let keys := ((← get).scope.listed v).map (·.1)
        return some (.object (← writtenUnder inner w e v (w.keys.getD keys)))
    | .error .. | .fixture _ =>
      return some (.object (← writtenUnder inner w e v (w.keys.getD [])))

/-- The object notation of the items of an array, from a position on. -/
def writtenItems (inner : Inner ε) (w : Writing) (e : Enclosing) (holder : ScriptValue)
    (i : Nat) : List ScriptValue → ScriptM ε (List Json.Document)
  | [] => return []
  | v :: rest => do
    let d ← written inner w e false holder (Properties.indexKey i) v
    return d.getD .null :: (← writtenItems inner w e holder (i + 1) rest)

/-- The object notation of the properties of an object. -/
def writtenMembers (inner : Inner ε) (w : Writing) (e : Enclosing) (holder : ScriptValue) :
    List (CodePoints × Option ScriptValue) → ScriptM ε (List (CodePoints × Json.Document))
  | [] => return []
  | (_, none) :: _ => throwGetter
  | (key, some v) :: rest => do
    match ← written inner w e false holder key v with
    | some d => return (key, d) :: (← writtenMembers inner w e holder rest)
    | none => writtenMembers inner w e holder rest

end

/-- The text of a value that is no object; a symbol has none. -/
def primitiveText : ScriptValue → ScriptM ε CodePoints
  | .undefined => return CodePoints.ofString "undefined"
  | .null => return CodePoints.ofString "null"
  | .bool b => return CodePoints.ofString (boolText b)
  | .number n => return CodePoints.ofString n.text
  | .string s => return s
  | .bigint n => return CodePoints.ofString (toString n)
  | .symbol _ => typeError "cannot convert symbol to string"
  | _ => typeError "toPrimitive"

/-- Calls the functions that an object has under the given keys, until one returns a
    value that is no object. -/
def firstPrimitive (inner : Inner ε) (v : ScriptValue) : List String → ScriptM ε ScriptValue
  | [] => typeError "toPrimitive"
  | key :: rest => do
    match ← readProperty v (CodePoints.ofString key) with
    | .function code => do
      let result ← inner.apply code v []
      if result.isObject then firstPrimitive inner v rest else return result
    | _ => firstPrimitive inner v rest

/-- The value without parts that stands for a value: itself, or what the functions of
    the object under the given keys return. -/
def toPrimitive (inner : Inner ε) (keys : List String) (v : ScriptValue) :
    ScriptM ε ScriptValue :=
  match v with
  | .box (.symbol s) _ => return .symbol s
  | v => if v.isObject then firstPrimitive inner v keys else return v

/-- The text of a value, as the language makes it. -/
def textOf (inner : Inner ε) (v : ScriptValue) : ScriptM ε CodePoints := do
  primitiveText (← toPrimitive inner ["toString", "valueOf"] v)

/-- The value without parts that stands for a value in arithmetic. -/
def operand (inner : Inner ε) (v : ScriptValue) : ScriptM ε ScriptValue :=
  toPrimitive inner ["valueOf", "toString"] v

/-- The number that a value without parts counts as, if it is neither text nor a large
    integer. -/
def summandNumber : ScriptValue → ScriptM ε ScriptNumber
  | .undefined => return .nan
  | .null => return .int 0
  | .bool b => return .int (if b then 1 else 0)
  | .number n => return n
  | .symbol _ => typeError "cannot convert symbol to number"
  | _ => typeError "cannot convert to BigInt"

/-- The sum of two values: their texts joined if one of them is text. Large integers are
    added to their like only. -/
def sum (inner : Inner ε) (a b : ScriptValue) : ScriptM ε ScriptValue := do
  match ← operand inner a, ← operand inner b with
  | .string s, y => return .string (CodePoints.append s (← primitiveText y))
  | x, .string s => return .string (CodePoints.append (← primitiveText x) s)
  | .bigint n, .bigint m => return .bigint (n + m)
  | .bigint _, y => do
    let _ ← summandNumber y
    typeError "cannot convert to BigInt"
  | x, y => return .number ((← summandNumber x).add (← summandNumber y))

/-- The text that the language makes of any value, a symbol included. -/
def anyText (inner : Inner ε) : ScriptValue → ScriptM ε CodePoints
  | .symbol s => return CodePoints.ofString "Symbol(" ++ s ++ CodePoints.ofString ")"
  | v => textOf inner v

end HostBridge.Script
