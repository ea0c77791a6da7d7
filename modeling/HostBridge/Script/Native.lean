import HostBridge.Bridge.Lifecycle
import HostBridge.Script.Conversion

/-!
# Native functions

The functions by which a script reaches its host. Arguments are converted before
anything is called; a miss throws. A conversion may run code of the script. It cannot
change the arguments of the function any more, but it may rewrite an array in one of them,
whose items are therefore read one by one.

## Main definitions

- `Script.invoke`, `Script.invokeById` — calls by name and by number
- `Script.resolveBinding` — gives a number to a binding
- `Script.runNative` — a call of any native function
-/

namespace HostBridge.Script

variable {ε : Type} [Embedding ε]

/-- The text of an argument, if it is text. -/
def textArg? (args : List ScriptValue) (i : Nat) : ScriptM ε (Option String) := do
  match args[i]? with
  | some (.string s) => return some (← hostText s)
  | _ => return none

/-- The number of an argument as a 32-bit integer; zero if it is no number. -/
def intArg (args : List ScriptValue) (i : Nat) : Int :=
  match args[i]?.bind ScriptValue.number? with
  | some x => x.toInt32.toInt
  | none => 0

/-- The truth value of an argument; false if it is none. -/
def boolArg (args : List ScriptValue) (i : Nat) : Bool :=
  match args[i]? with
  | some (.bool b) => b
  | _ => false

/-- Where the items of an argument stand, if it is an array. They are not read yet. -/
def itemsArg (args : List ScriptValue) (i : Nat) : ScriptM ε (List Place) := do
  return (← get).scope.places (args.getD i .undefined)

/-- The kind of a call, given by its number; the complaint names the function. -/
def kindArg (name : String) (args : List ScriptValue) (i : Nat) : ScriptM ε CallKind :=
  match CallKind.ofTag? (intArg args i) with
  | .ok kind => return kind
  | .error e => typeError (name ++ ": " ++ e.message)

/-- Makes a call and returns its result; a miss throws. -/
def callBridge (inner : Inner ε) (callee : Callee ε) (slots : List Slot) (miss : String) :
    ScriptM ε ScriptValue := do
  match ← withBridge (Bridge.call Bridge.ensureReady slots callee) with
  | some slot => fromSlot inner slot
  | none => typeError miss

/-- Calls a member by name: the type, the member, the kind, whether it is static, the
    target and an array of arguments. -/
def invoke (inner : Inner ε) (args : List ScriptValue) : ScriptM ε ScriptValue := do
  let typeName := (← textArg? args 0).getD ""
  let some member ← textArg? args 1
    | typeError "__invoke: member name must be a string"
  let kind ← kindArg "__invoke" args 2
  let isStatic := boolArg args 3
  let scope := (← get).scope
  let target := if isStatic then none else args[4]?.bind scope.handle?
  let slots ← convertArgs inner (← itemsArg args 5)
  callBridge inner (.named typeName member kind isStatic target) slots
    ("No host binding for " ++ Bridge.bindingText typeName member kind)

/-- Gives a number to a binding: the type, the member, the kind and whether it is static. -/
def resolveBinding (args : List ScriptValue) : ScriptM ε ScriptValue := do
  let typeName := (← textArg? args 0).getD ""
  let member := (← textArg? args 1).getD ""
  let kind ← kindArg "__resolveBinding" args 2
  match ← withBridge
      (Bridge.resolveId (Bridge.ensureReady []) typeName member kind (boolArg args 3)) with
  | .ok id => return .ofNat id
  | .error e => typeError ("__resolveBinding: " ++ e.message)

/-- The arguments behind the number of a binding: all of them, or a fixed number. -/
def positional (arity : Option Nat) (rest : List ScriptValue) : ScriptM ε (List ScriptValue) :=
  match arity with
  | none => return rest
  | some n =>
    if rest.length < n then
      typeError ("__zaInvoke" ++ toString n ++ " requires bindingId + " ++ toString n ++ " args")
    else return rest.take n

/-- Calls a binding by number. -/
def invokeById (inner : Inner ε) (arity : Option Nat) :
    List ScriptValue → ScriptM ε ScriptValue
  | [] => typeError "__zaInvoke requires bindingId"
  | first :: rest => do
    let some x := first.number?
      | typeError "bindingId must be an integer"
    let id := x.toInt32.toInt
    let slots ← convertArgs inner ((← positional arity rest).map (Function.const Scope))
    callBridge inner (.byId id) slots ("No host binding with id " ++ toString id)

/-- Takes an object back. While the host uses the bridge nothing is taken back. -/
def releaseHandle (v : ScriptValue) : ScriptM ε ScriptValue := do
  match (← get).scope.handle? v with
  | none => return .bool false
  | some h =>
    if (← get).busy then
      log (.releaseIgnored h.number)
      return .bool false
    else return .bool (← withBridge (Bridge.release h))

/-- Registers a function as a callback. -/
def registerCallback : ScriptValue → ScriptM ε ScriptValue
  | .function code => do
    match (← get).callbacks.register code with
    | .ok (id, callbacks) =>
      modify fun s => { s with callbacks }
      log (.callbackRegistered id)
      return .ofNat id
    | .error e => raise .range e.message
  | v => refuse v "function"

/-- Gives the number of a callback back. -/
def unregisterCallback (v : ScriptValue) : ScriptM ε ScriptValue := do
  let some n := v.number?.filter ScriptNumber.isInteger
    | refuse v "i32"
  let (removed, callbacks) := (← get).callbacks.remove n.toInt32.toInt
  modify fun s => { s with callbacks }
  return .bool removed

/-- What people read of some values, in order. -/
def describeAll (inner : Inner ε) : List ScriptValue → ScriptM ε (List String)
  | [] => return []
  | v :: rest => do return (← describe inner v) :: (← describeAll inner rest)

/-- Writes values to the console, with blanks between them. -/
def writeConsole (inner : Inner ε) (level : Level) (args : List ScriptValue) :
    ScriptM ε ScriptValue := do
  log (.console level (" ".intercalate (← describeAll inner args)))
  return .undefined

/-- Hands the first argument to a function that needs one. -/
def withFirst (args : List ScriptValue) (f : ScriptValue → ScriptM ε ScriptValue) :
    ScriptM ε ScriptValue :=
  match args with
  | [] => throw (.fault (.missingArguments 0 1))
  | v :: _ => f v

/-- The body of a native function. -/
def nativeBody (inner : Inner ε) (args : List ScriptValue) : Native → ScriptM ε ScriptValue
  | .invoke => invoke inner args
  | .resolveBinding => resolveBinding args
  | .invokeById arity => invokeById inner arity args
  | .releaseHandle => withFirst args releaseHandle
  | .registerCallback => withFirst args registerCallback
  | .unregisterCallback => withFirst args unregisterCallback
  | .console level => writeConsole inner level args

/-- Calls a native function. A refusal of the engine becomes a type error. -/
def runNative (inner : Inner ε) (args : List ScriptValue) (f : Native) :
    ScriptM ε ScriptValue :=
  tryCatch (nativeBody inner args f) fun
    | .fault e => typeError e.message
    | thrown => throw thrown

end HostBridge.Script
