import HostBridge.Script.Function
import HostBridge.Text.Utf8

/-!
# Script sessions

What a host does with a script context: it runs scripts, calls global functions and
callbacks, and lets pending jobs run. A script that throws becomes an error with the
text of what it threw.

## Main definitions

- `SessionM` — computations of the host on a context
- `Session.evaluateText`, `execute`, `callFunction`, `invokeCallback` — running scripts
- `Session.drain`, `Session.tick` — running jobs
- `Session.exceptionText` — the text of what was thrown
-/

namespace HostBridge

/-- Computations of the host on a script context. -/
abbrev SessionM (ε : Type) [Embedding ε] := StateT (Script ε) Logged

namespace Session

open Script

variable {ε : Type} [Embedding ε]

/-- Logs one event. -/
def log (e : Event) : SessionM ε Unit :=
  StateT.lift (Logged.emit e)

/-- Runs code of the script; what it threw is a value of the answer. -/
def attempt {α : Type} (code : ScriptM ε α) : SessionM ε (Except Thrown α) :=
  ExceptT.run code

/-- The text under a key of a value, if the host can hold it. -/
def textAt? (v : ScriptValue) (key : String) : SessionM ε (Option String) := do
  match ((← get).scope.property (CodePoints.ofString key) v).value? with
  | some (.string s) => return s.toString?
  | _ => return none

/-- What people read of a value; nothing if that fails. -/
def described (v : ScriptValue) : SessionM ε String := do
  match ← attempt (describe engine v) with
  | .ok text => return text
  | .error _ => return ""

/-- The whole text of what was thrown: its message and its stack, or else what people
    read of it. -/
def fullText (v : ScriptValue) : SessionM ε String := do
  if v.isObject then
    match ← textAt? v "message", ← textAt? v "stack" with
    | some message, some stack =>
      return if stack.isEmpty then message else message ++ "\n" ++ stack
    | some message, none => return message
    | none, _ => described v
  else described v

/-- The text of what was thrown, cut to the limit of the context. -/
def exceptionText (v : ScriptValue) : SessionM ε String := do
  let text ← fullText v
  return String.ofList (Text.cutBytes text.toList (← get).config.exceptionMessageLimit)

/-- Runs code of the engine and tells the host of a failure. -/
def guarded {α : Type} (code : ScriptM ε α) : SessionM ε (Except ScriptError α) := do
  match ← attempt code with
  | .ok a => return .ok a
  | .error (.fault f) => return .error (.engine f)
  | .error (.exception v) =>
    let text ← exceptionText v
    log (.scriptException text)
    return .error (.exception text)

/-- What people read of a value that a script makes. -/
def evaluateText (e : Expr) : SessionM ε (Except ScriptError String) :=
  guarded do describe engine (← framed (evaluate engine e))

/-- Runs a script. -/
def execute (script : ScriptM ε Unit) : SessionM ε (Except ScriptError Unit) :=
  guarded (framed script)

/-- Runs a script that sets a global variable. -/
def executeSet (name : CodePoints) (e : Expr) : SessionM ε (Except ScriptError Unit) :=
  execute do assignGlobal name (← evaluate engine e)

/-- Runs a script that throws a value. -/
def executeThrow (e : Expr) : SessionM ε (Except ScriptError Unit) :=
  execute do throw (.exception (← evaluate engine e))

/-- Runs a script that calls a function of the console. -/
def executeConsole (method : String) (args : List Expr) :
    SessionM ε (Except ScriptError Unit) :=
  execute do
    let console ← readGlobal (CodePoints.ofString "console")
    let callee ← readMember console method
    let _ ← callValue engine callee console (← evaluateItems engine args)

/-- Runs a script that queues jobs. -/
def executeQueue (jobs : List Job) : SessionM ε (Except ScriptError Unit) :=
  execute do modify fun s => { s with jobs := s.jobs ++ jobs }

/-- Runs a script from a file, if there is one. -/
def executeFile (path : String) (script : Option (ScriptM ε Unit)) :
    SessionM ε (Except ScriptError Unit) := do
  match script with
  | none => return .error .missingFile
  | some script =>
    log (.executing path)
    execute script

/-- Whether a global variable is a function; a getter that throws is none. -/
def hasFunction (s : Script ε) (name : String) : Bool :=
  match (s.scope.global (CodePoints.ofString name)).value? with
  | some (.function _) => true
  | _ => false

/-- Calls a function with slots, and makes a slot of its result. -/
def callWith (code : Code) (args : List Slot) : ScriptM ε Slot := do
  let values ← fromSlots engine args
  toSlot engine (← engine.apply code .undefined values)

/-- Calls a global function. -/
def callFunction (name : String) (args : List Slot) : SessionM ε (Except ScriptError Slot) := do
  match ← attempt (hostGlobal name) with
  | .ok (.function code) => guarded (callWith code args)
  | .ok _ => return .error (.notAFunction name)
  | .error thrown => guarded (throw thrown)

/-- Calls a registered callback. -/
def invokeCallback (id : Int) (args : List Slot) : SessionM ε (Except ScriptError Slot) := do
  match (← get).callbacks.get? id with
  | some code => guarded (callWith code args)
  | none => return .error (.unknownCallback id)

/-- Calls a global function with script values, inside the script. -/
def callGlobal (name : CodePoints) (args : List Expr) : ScriptM ε ScriptValue :=
  runCode engine .undefined [] (.call name args)

/-- Does what a job does. -/
def runEffect : JobEffect → ScriptM ε Unit
  | .see v => do
    let _ ← see v
  | .increment name => do
    let _ ← increment name
  | .throw v => throw (.exception v)

mutual

/-- Number of jobs that come of a job, itself included. -/
def jobSize : Job → Nat
  | .mk _ queues => jobSizes queues + 1

/-- Number of jobs that come of jobs. -/
def jobSizes : List Job → Nat
  | [] => 0
  | j :: rest => jobSize j + jobSizes rest

end

theorem jobSizes_append (a b : List Job) : jobSizes (a ++ b) = jobSizes a + jobSizes b := by
  induction a with
  | nil => simp [jobSizes]
  | cons j a ih => simp [jobSizes, ih, Nat.add_assoc]

/-- The outcome of running jobs: how many ran, the jobs that are pending still, and what
    the last one threw if it threw. -/
structure Drained where
  ran : Nat
  pending : List Job
  thrown : Option Thrown := none

/-- Runs pending jobs from the front until none is left, the limit is reached or one
    throws. -/
def drain (limit : Option Nat) (ran : Nat) (pending : List Job) : SessionM ε Drained := do
  if limit.any (· ≤ ran) then return { ran, pending }
  else
    match pending with
    | [] => return { ran, pending := [] }
    | job :: rest =>
      match ← attempt (framed (runEffect job.effect)) with
      | .error thrown => return { ran, pending := rest, thrown := some thrown }
      | .ok () => drain limit (ran + 1) (rest ++ job.queues)
termination_by jobSizes pending
decreasing_by
  cases job
  simp [jobSizes, jobSize, jobSizes_append, Job.queues]
  omega

/-- Lets pending jobs run. The answer is how many ran. -/
def tick : SessionM ε (Except ScriptError Nat) := do
  let s ← get
  let drained ← drain s.config.maxJobsPerTick 0 s.jobs
  modify fun s => { s with jobs := drained.pending }
  match drained.thrown with
  | none => return .ok drained.ran
  | some thrown =>
    let text ← match thrown with
      | .exception v => exceptionText v
      | .fault f => pure f.message
    log (.jobFailed text)
    return .error (.job text)

end Session

end HostBridge
