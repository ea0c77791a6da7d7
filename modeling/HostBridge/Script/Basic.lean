import HostBridge.Bridge.Basic
import HostBridge.Script.Callbacks
import HostBridge.Script.Property
import HostBridge.Text.Utf8

/-!
# Script contexts

A script context is a bridge together with the state of the script: global variables,
registered callbacks, pending jobs.

## Main definitions

- `ScriptConfig` — the limits of a context
- `Job` — a pending job
- `Script` — a context
- `ScriptM` — computations of the script, which may throw and which log
- `Script.raise`, `Script.framed` — errors and the stacks that they take down
- `Script.readGlobal`, `Script.assignGlobal` — global variables
-/

namespace HostBridge

/-- The limits of a context. -/
structure ScriptConfig where
  /-- How many callbacks a script may register. -/
  maxCallbacks : Nat := 4096
  /-- How many jobs run in one go; without a limit all do. -/
  maxJobsPerTick : Option Nat := none
  /-- Memory of the engine in bytes. -/
  memoryLimit : Option Nat := none
  /-- How many bytes of an exception's text are kept. -/
  exceptionMessageLimit : Nat := 2048
deriving DecidableEq, Repr

/-- What a job does. -/
inductive JobEffect where
  /-- Appends a value to the list of seen values. -/
  | see (v : ScriptValue)
  /-- Adds one to a global variable. -/
  | increment (name : CodePoints)
  /-- Throws a value. -/
  | throw (v : ScriptValue)

/-- A pending job: what it does, and the jobs that it queues after that. -/
inductive Job where
  | mk (effect : JobEffect) (queues : List Job)

/-- What a job does. -/
def Job.effect : Job → JobEffect
  | mk effect _ => effect

/-- The jobs that a job queues. -/
def Job.queues : Job → List Job
  | mk _ queues => queues

/-- Jobs that see some numbers, side by side. -/
def Job.seeing (ns : List Nat) : List Job :=
  ns.map fun n => .mk (.see (.ofNat n)) []

/-- Jobs that see some numbers, each queued by the one before. -/
def Job.seeingInTurn : List Nat → List Job
  | [] => []
  | n :: rest => [.mk (.see (.ofNat n)) (seeingInTurn rest)]

/-- A script context. -/
structure Script (ε : Type) [Embedding ε] where
  config : ScriptConfig := {}
  bridge : Bridge ε
  /-- Whether the host is using the bridge, so that the script cannot. -/
  busy : Bool := false
  callbacks : CallbackTable Code := .new config.maxCallbacks
  scope : Scope := {}
  jobs : List Job := []

/-- Why a computation of the script ended early: the script threw a value, or the
    engine refused something. -/
inductive Thrown where
  | exception (v : ScriptValue)
  | fault (f : EngineFault)

/-- Computations of the script. What they have done stays done when they throw. -/
abbrev ScriptM (ε : Type) [Embedding ε] := ExceptT Thrown (StateT (Script ε) Logged)

namespace Script

variable {ε : Type} [Embedding ε]

/-- Logs one event. -/
def log (e : Event) : ScriptM ε Unit :=
  ExceptT.lift (StateT.lift (Logged.emit e))

/-- How many bytes of a message the engine keeps. -/
def maxMessage : Nat := 255

/-- The message that the engine keeps: text up to a NUL, cut between characters. -/
def keptMessage (message : CodePoints) : CodePoints :=
  (message.takeBytes maxMessage).takeWhile (· ≠ .scalar '\x00')

/-- Throws an error object, which has no stack yet. -/
def raiseText {α : Type} (kind : ErrorKind) (message : CodePoints) : ScriptM ε α :=
  throw (.exception (.error kind (keptMessage message) none))

/-- Throws an error object with a message in plain text. -/
def raise {α : Type} (kind : ErrorKind) (message : String) : ScriptM ε α :=
  raiseText kind (CodePoints.ofString message)

/-- Throws a type error. -/
def typeError {α : Type} (message : String) : ScriptM ε α :=
  raise .type message

/-- The line of a stack that stands for one function of the script. -/
def frame : CodePoints := CodePoints.ofString "    at <anonymous> (script)\n"

/-- How deep calls may nest. -/
def maxNesting : Nat := 300

/-- What happens when calls nest too deep: the stack names all functions on the way. -/
def overflow {α : Type} : ScriptM ε α :=
  let stack := (List.replicate maxNesting frame).flatten
  throw (.exception (.error .internal (CodePoints.ofString "stack overflow") (some stack)))

/-- Runs code inside a function of the script: an error that leaves it takes down the
    stack, unless it has one. Functions of the host leave no trace. -/
def framed {α : Type} (code : ScriptM ε α) : ScriptM ε α :=
  tryCatch code fun
    | .exception (.error kind message none) =>
      throw (.exception (.error kind message (some frame)))
    | thrown => throw thrown

/-- What a getter that throws comes to. -/
def throwGetter {α : Type} : ScriptM ε α :=
  framed (raise .error "thrower")

/-- What comes of asking for a property that nobody may ask for. -/
def refuseAccess {α : Type} : ScriptM ε α :=
  framed (typeError "invalid property access")

/-- What a lookup comes to: a property that is missing is undefined. -/
def found : Lookup → ScriptM ε ScriptValue
  | .value v | .constant v | .computed v => return v
  | .throws => throwGetter
  | .forbidden => refuseAccess
  | .missing | .parent => return .undefined

/-- Reads a property of a value. -/
def readProperty (v : ScriptValue) (key : CodePoints) : ScriptM ε ScriptValue := do
  found ((← get).scope.property key v)

/-- Reads a property of a value that a script names; `undefined` and `null` have none. -/
def readMember (v : ScriptValue) (key : String) : ScriptM ε ScriptValue :=
  match v with
  | .undefined => typeError ("cannot read property '" ++ key ++ "' of undefined")
  | .null => typeError ("cannot read property '" ++ key ++ "' of null")
  | v => readProperty v (CodePoints.ofString key)

/-- The text of a string, if the host can hold it. -/
def hostText (s : CodePoints) : ScriptM ε String :=
  match s.toString? with
  | some text => return text
  | none =>
    let before := s.takeWhile fun p => match p with
      | .scalar _ => true
      | .surrogate _ => false
    throw (.fault (.notText (CodePoints.byteLength before)))

/-- Works on the bridge, unless the host is using it. -/
def withBridge {α : Type} (code : BridgeM ε α) : ScriptM ε α := do
  if (← get).busy then raise .internal "re-entrant host dispatch"
  else
    ExceptT.lift fun s => do
      let (a, bridge) ← code.run s.bridge
      return (a, { s with bridge })

/-- The native functions by their names. -/
def natives : List (String × Native) :=
  ("__resolveBinding", .resolveBinding) ::
    ((List.range 9).map fun n => ("__zaInvoke" ++ toString n, .invokeById (some n))) ++
    [("__zaInvoke", .invokeById none), ("__invoke", .invoke), ("__releaseHandle", .releaseHandle),
      ("__registerCallback", .registerCallback),
      ("__unregisterCallback", .unregisterCallback)]

/-- The console object. -/
def console : ScriptValue :=
  .object <| [("log", Level.info), ("info", .info), ("warn", .warn), ("error", .error)].map
    fun (name, level) => (CodePoints.ofString name, some (.function (.native (.console level))))

/-- The global variables that every context starts with. -/
def initialGlobals : List (CodePoints × ScriptValue) :=
  (natives.map fun (name, f) => (CodePoints.ofString name, .function (.native f))) ++
    [(CodePoints.ofString "console", console)]

/-- A context over a bridge. -/
def new (config : ScriptConfig) (bridge : Bridge ε) : Logged (Script ε) := do
  Logged.emit .scriptReady
  return { config, bridge, scope := { globals := initialGlobals } }

/-- Number of bytes in which a unit is encoded on its own. -/
def unitSize (unit : UInt16) : Nat :=
  if unit < 0x80 then 1 else if unit < 0x800 then 2 else 3

/-- The units from the start of a text, as long as fewer than `limit` bytes are used up. -/
def takeUnits (limit : Nat) : List UInt16 → List UInt16
  | [] => []
  | unit :: rest => if limit = 0 then [] else unit :: takeUnits (limit - unitSize unit) rest

/-- A name in a message: whole if it is ASCII, or else as many units as fit a buffer,
    where half of a pair may stay behind. -/
def nameText (name : CodePoints) : CodePoints :=
  let units := name.units
  if units.all (· < 0x80) then name else CodePoints.ofUnits (takeUnits 58 units)

/-- A name in quotes, and what is wrong with it. -/
def complaint (name : CodePoints) (problem : String) : CodePoints :=
  CodePoints.ofString "'" ++ nameText name ++ CodePoints.ofString ("' " ++ problem)

/-- Assigns to a global variable. -/
def assignGlobal (name : CodePoints) (v : ScriptValue) : ScriptM ε Unit := do
  match (← get).scope.assign name v with
  | .ok scope => modify fun s => { s with scope }
  | .error .readOnly => raiseText .type (complaint name "is read-only")
  | .error .noSetter => typeError "no setter for property"
  | .error .forbidden => refuseAccess
  | .error .circular => typeError "circular prototype chain"

/-- Reads a global variable. -/
def readGlobal (name : CodePoints) : ScriptM ε ScriptValue := do
  match (← get).scope.global name with
  | .missing => raiseText .reference (complaint name "is not defined")
  | lookup => found lookup

end Script

end HostBridge
