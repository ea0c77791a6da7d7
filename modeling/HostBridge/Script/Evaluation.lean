import HostBridge.Script.Language

/-!
# Values of descriptions

A description makes a new value each time it is evaluated. What it names is looked up
then, so that it may throw.

## Main definitions

- `Script.readPath`, `Script.readCallee` — what a name with points in it stands for
- `Script.evaluate` — the value that is described
-/

namespace HostBridge.Script

variable {ε : Type} [Embedding ε]

/-- The parts of a name that points separate. -/
def pathParts (name : CodePoints) : List CodePoints :=
  name.splitBy fun _ next => next != .scalar '.'

/-- A part of a name without the point before it. -/
def withoutPoint (part : CodePoints) : CodePoints :=
  if part.head? = some (.scalar '.') then part.tail else part

/-- The property that the rest of a name stands for, and the value that has it. -/
def followPath (this v : ScriptValue) :
    List CodePoints → ScriptM ε (ScriptValue × ScriptValue)
  | [] => return (this, v)
  | part :: rest => do
    let key := withoutPoint part
    let _ ← match v with
      | .undefined | .null => readMember v ((key.toString?).getD "")
      | _ => pure .undefined
    followPath v (← readProperty v key) rest

/-- What a name stands for: a global variable, or a property of one. The answer also
    has the value on which it is called as a function. -/
def readCallee (name : CodePoints) : ScriptM ε (ScriptValue × ScriptValue) := do
  match pathParts name with
  | first :: second :: rest => followPath .undefined (← readGlobal first) (second :: rest)
  | _ => return (.undefined, ← readGlobal name)

/-- What a name stands for. -/
def readPath (name : CodePoints) : ScriptM ε ScriptValue := do
  return (← readCallee name).2

mutual

/-- Makes the value that is described. -/
def evaluate (inner : Inner ε) : Expr → ScriptM ε ScriptValue
  | .undefined => return .undefined
  | .null => return .null
  | .bool b => return .bool b
  | .number x => return .number (.ofLiteral x)
  | .string s => return .string s
  | .symbol s => return .symbol s
  | .bigint n => return .bigint n
  | .array items => return .array (← evaluateItems inner items)
  | .object own => return .object (← evaluateOwn inner own [])
  | .derived parent own => do
    let parent ← evaluate inner parent
    requireParent parent "not a prototype"
    return .derived parent (← evaluateOwn inner own [])
  | .error name message stack => do
    let made ← construct inner (← readPath name) [.string message]
    return made.withOwn (CodePoints.ofString "stack") (.string stack)
  | .cyclic => return .cyclic
  | .seen => return .seen
  | .global name => readPath name
  | .function code => return .function code

/-- Makes the items of an array. -/
def evaluateItems (inner : Inner ε) : List Expr → ScriptM ε (List ScriptValue)
  | [] => return []
  | e :: rest => do return (← evaluate inner e) :: (← evaluateItems inner rest)

/-- Makes the properties of an object, behind those that are made already. -/
def evaluateOwn (inner : Inner ε) :
    List (CodePoints × Option Expr) → Properties → ScriptM ε Properties
  | [], made => return made
  | (key, none) :: rest, made => evaluateOwn inner rest (Properties.put made key none)
  | (key, some e) :: rest, made => do
    let v ← evaluate inner e
    evaluateOwn inner rest (Properties.put made key (some v))

end

end HostBridge.Script
