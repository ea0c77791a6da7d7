import HostBridge.Binding.Key
import HostBridge.Text.Quoted

/-!
# Log

Every operation of the bridge returns the events that it logs along with its value.
An event is a cause; its level, its target and its wording are functions of it.

## Main definitions

- `Event` — what can be logged
- `Logged` — a value with the events logged on the way to it
-/

namespace HostBridge

/-- How serious an event is. -/
inductive Level where
  | error
  | warn
  | info
  | debug
  | trace
deriving DecidableEq, Repr

namespace Level

/-- The name of a level. -/
def name : Level → String
  | error => "ERROR"
  | warn => "WARN"
  | info => "INFO"
  | debug => "DEBUG"
  | trace => "TRACE"

/-- Every level, from the most serious one on. -/
def all : List Level :=
  [error, warn, info, debug, trace]

/-- The level with a name. -/
def ofName? (name : String) : Option Level :=
  all.find? fun level => level.name = name

/-- How detailed a level is; a log of some level holds what is no more detailed. -/
def detail : Level → Nat
  | error => 0
  | warn => 1
  | info => 2
  | debug => 3
  | trace => 4

end Level

/-- What diagnostics say about the request of a call. -/
structure RequestSummary where
  typeName : Option String
  member : String
  kind : CallKind
  isStatic : Bool
  hasTarget : Bool
  args : Nat

/-- A truth value in diagnostics. -/
def boolText (b : Bool) : String :=
  if b then "true" else "false"

/-- The diagnostic text of a request. -/
def RequestSummary.text (r : RequestSummary) : String :=
  let name := match r.typeName with
    | some name => "Some(" ++ Text.quoted name ++ ")"
    | none => "None"
  "DispatchRequest \x7b type_name: " ++ name ++ ", member: " ++ Text.quoted r.member ++
    ", kind: " ++ r.kind.diagnostic ++ ", is_static: " ++ boolText r.isStatic ++
    ", has_target: " ++ boolText r.hasTarget ++ ", args: " ++ toString r.args ++ " \x7d"

/-- What can be logged. -/
inductive Event where
  /-- A built-in binding gave way to the host's. -/
  | keptBinding (old new : String)
  /-- A binding replaced one of the same member. -/
  | rebound (member : String) (kind : CallKind)
  /-- A binding replaced one of another member with the same key. -/
  | collision (new old : String) (key : BitVec 32)
  /-- A type name passed from one host type to another. -/
  | nameMoved (hash : UInt32)
  /-- A built-in codec gave way to the host's. -/
  | keptCodec (type : String)
  /-- A codec replaced another. -/
  | replacedCodec (type : String)
  /-- A type without fields cannot be packed. -/
  | nothingToPack (type : String)
  /-- A type has more fields than lanes. -/
  | lossyPacking (type : String) (fields : Nat)
  /-- The initializer has run. -/
  | bindingsReady (handlers structs : Nat)
  /-- A call found no binding. -/
  | dispatchMiss (request : RequestSummary)
  /-- The binding that a call found declined it. -/
  | handlerDeclined (request : RequestSummary)
  /-- A binding id is unknown. -/
  | unknownId (id : Int)
  /-- An instance binding was called by id without a live object. -/
  | noLiveTarget (id : Int)
  /-- The binding of an id is gone. -/
  | unboundId (id : Int)
  /-- The bundled bindings are installed. -/
  | builtinsInstalled (count : Nat)
  /-- An object could not be lent to a script. -/
  | cannotLend (type : String) (error : BridgeError)
  /-- A script context is ready. -/
  | scriptReady
  /-- A script file is run. -/
  | executing (path : String)
  /-- A script callback was registered. -/
  | callbackRegistered (id : Nat)
  /-- A handle was released while the bridge was in use. -/
  | releaseIgnored (handle : Nat)
  /-- A script left an exception uncaught. -/
  | scriptException (text : String)
  /-- A pending job failed. -/
  | jobFailed (text : String)
  /-- A script wrote to its console. -/
  | console (level : Level) (line : String)
  /-- The command line started. -/
  | started (version : String)
  /-- The script has no frame function. -/
  | noUpdate
  /-- The command line ran all its frames. -/
  | finished (frames : Nat) (seconds : String) (bindings handles : Nat)

namespace Event

/-- How serious an event is. -/
def level : Event → Level
  | keptBinding .. | rebound .. | keptCodec .. | replacedCodec .. | builtinsInstalled ..
  | executing .. | callbackRegistered .. => .debug
  | collision .. | nameMoved .. | nothingToPack .. | lossyPacking .. | cannotLend ..
  | releaseIgnored .. | noUpdate => .warn
  | bindingsReady .. | scriptReady | started .. | finished .. => .info
  | dispatchMiss .. | handlerDeclined .. | unknownId .. | noLiveTarget .. | unboundId .. => .trace
  | scriptException .. | jobFailed .. => .error
  | console level _ => level

/-- The name under which an event is logged. -/
def target : Event → String
  | keptBinding .. | rebound .. | collision .. | nameMoved .. => "tether_interop::registry"
  | keptCodec .. | replacedCodec .. | nothingToPack .. | lossyPacking .. =>
    "tether_interop::marshal"
  | bindingsReady .. => "tether_interop::runtime"
  | dispatchMiss .. | handlerDeclined .. | unknownId .. | noLiveTarget .. | unboundId .. =>
    "tether_interop::dispatch"
  | builtinsInstalled .. => "tether_interop::hot"
  | cannotLend .. => "tether_interop::convert"
  | callbackRegistered .. | releaseIgnored .. => "tether_script::ffi"
  | scriptReady | executing .. | scriptException .. | jobFailed .. => "tether_script::runtime"
  | console .. => "script"
  | started .. | noUpdate | finished .. => "tether"

/-- The wording of an event. -/
def message : Event → String
  | keptBinding old new => "Keeping host binding '" ++ old ++ "' over built-in '" ++ new ++ "'"
  | rebound member kind => "Rebound " ++ member ++ " (" ++ kind.word ++ ")"
  | collision new old key =>
    "Member hash collision: '" ++ new ++ "' replaces '" ++ old ++ "' (key 0x" ++
      Key.hexText key ++ ")"
  | nameMoved hash =>
    "Type name hash 0x" ++ Key.hexText hash.toBitVec ++ " now refers to a different type"
  | keptCodec type => "Keeping host codec for " ++ type
  | replacedCodec type => "Replaced struct codec for " ++ type
  | nothingToPack type => type ++ " has no blittable fields; using JSON fallback"
  | lossyPacking type fields =>
    type ++ " has " ++ toString fields ++ " fields; only the first 4 are packed"
  | bindingsReady handlers structs =>
    "Interop bindings ready: " ++ toString handlers ++ " handlers, " ++ toString structs ++
      " struct types"
  | dispatchMiss request => "Dispatch miss: " ++ request.text
  | handlerDeclined request => "Handler declined: " ++ request.text
  | unknownId id => "Unknown binding id " ++ toString id
  | noLiveTarget id => "Binding id " ++ toString id ++ " called without a live target"
  | unboundId id => "Binding id " ++ toString id ++ " is no longer bound"
  | builtinsInstalled count => "Installed " ++ toString count ++ " built-in bindings"
  | cannotLend type error => "Cannot hand " ++ type ++ " to script: " ++ error.message
  | scriptReady => "Script runtime ready"
  | executing path => "Executing " ++ path
  | callbackRegistered id => "Registered script callback " ++ toString id
  | releaseIgnored handle =>
    "Handle " ++ toString handle ++ " released during dispatch; ignored"
  | scriptException text => "Script exception: " ++ text
  | jobFailed text => "Pending job failed: " ++ text
  | console _ line => line
  | started version => "Tether v" ++ version
  | noUpdate => "Script defines no update function; only jobs will run"
  | finished frames seconds bindings handles =>
    "Ran " ++ toString frames ++ " frames (" ++ seconds ++ "s), " ++ toString bindings ++
      " bindings, " ++ toString handles ++ " live handles"

end Event

/-- A value with the events logged on the way to it, the first one first. -/
structure Logged (α : Type) where
  value : α
  events : List Event := []

namespace Logged

variable {α β : Type}

/-- Goes on with a value and keeps the events of both parts. -/
def andThen (x : Logged α) (f : α → Logged β) : Logged β :=
  let y := f x.value
  ⟨y.value, x.events ++ y.events⟩

instance : Monad Logged where
  pure a := ⟨a, []⟩
  bind := andThen

/-- Logs one event. -/
def emit (e : Event) : Logged Unit := ⟨(), [e]⟩

@[simp] theorem value_pure (a : α) : (pure a : Logged α).value = a := rfl

@[simp] theorem value_bind (x : Logged α) (f : α → Logged β) :
    (x >>= f).value = (f x.value).value := rfl

@[simp] theorem value_map (f : α → β) (x : Logged α) : (f <$> x).value = f x.value := rfl

@[simp] theorem value_emit (e : Event) : (emit e).value = () := rfl

end Logged

end HostBridge
