import HostBridge.Bridge.Builtins
import HostBridge.Script.Program
import HostBridge.Settings

/-!
# Command line

The command line loads settings, sets up a host with the bundled bindings, loads a
script and runs a fixed number of frames: it advances the clock, calls the script's
function `update` and lets pending jobs run.

## Main definitions

- `CommandLine.Request` — what a run is asked to do
- `CommandLine.Failure` — why a run failed
- `CommandLine.run` — a run
-/

namespace HostBridge.CommandLine

/-- The command line adds no types of its own. -/
instance : HostTypes Empty where
  decEq := inferInstance
  name := nofun
  State := nofun
  schema := nofun

instance : Embedding Empty where
  World := Unit
  Report := Unit

/-- The contents of a settings file. -/
inductive SettingsFile where
  | missing
  | text (s : String)

/-- The script of a run. -/
inductive ScriptFile where
  | missing
  | program (p : Program)

/-- What a run is asked to do. Files come with their paths. -/
structure Request where
  settings : Option (String × SettingsFile) := none
  script : Option (String × ScriptFile) := none

/-- Why a run failed. -/
inductive Failure where
  | settings (path : String)
  | scriptFile (path : String)
  | script (e : ScriptError)

/-- The text of a failure. -/
def Failure.message : Failure → String
  | settings path => "Error: loading settings from " ++ path
  | scriptFile path => "Error: running " ++ path
  | script e => "Error: " ++ e.message

/-- The version that the command line tells. -/
def version : String := "0.1.0"

/-- The settings of a run. -/
def settingsOf (request : Request) : Except Failure Settings :=
  match request.settings with
  | none => .ok {}
  | some (path, .missing) => .error (.settings path)
  | some (path, .text s) =>
    match Settings.parse? s with
    | some settings => .ok settings
    | none => .error (.settings path)

/-- The host of a run. -/
def hostOf (settings : Settings) : Host Empty where
  environment := { Environment.new settings.seed with screen := settings.screen }
  own := ()

/-- Loads the script of a run. -/
def loadScript (request : Request) : SessionM Empty (Except Failure Unit) := do
  match request.script with
  | none =>
    match ← Session.execute Program.demo.load with
    | .ok () => return .ok ()
    | .error e => return .error (.script e)
  | some (path, file) =>
    let script := match file with
      | .missing => none
      | .program p => some p.load
    match ← Session.executeFile path script with
    | .ok () => return .ok ()
    | .error _ => return .error (.scriptFile path)

/-- Advances the clock of the host and returns the seconds of the frame. -/
def advanceClock (seconds : Float32) : SessionM Empty Float32 :=
  modifyGet fun s =>
    let host := s.bridge.host
    let clock := host.environment.clock.advance seconds
    let environment := { host.environment with clock }
    (clock.deltaTime, { s with bridge := { s.bridge with host := { host with environment } } })

/-- Runs one frame. -/
def runFrame (seconds : Float32) (hasUpdate : Bool) : SessionM Empty (Except ScriptError Unit) := do
  let delta ← advanceClock seconds
  let updated ← if hasUpdate then Session.callFunction "update" [.float32 delta]
    else pure (.ok .null)
  match updated with
  | .error e => return .error e
  | .ok _ =>
    match ← Session.tick with
    | .error e => return .error e
    | .ok _ => return .ok ()

/-- Runs frames until one fails. -/
def runFrames (seconds : Float32) (hasUpdate : Bool) :
    Nat → SessionM Empty (Except ScriptError Unit)
  | 0 => return .ok ()
  | n + 1 => do
    match ← runFrame seconds hasUpdate with
    | .error e => return .error e
    | .ok () => runFrames seconds hasUpdate n

/-- The last line of a run. -/
def summary (s : Script Empty) : Event :=
  let clock := s.bridge.host.environment.clock
  .finished clock.frameCount.toNat (Decimal.fixedText 3 .even (.ofFloat clock.time))
    s.bridge.registry.size s.bridge.handles.size

/-- Loads the script and runs all frames. -/
def runSession (request : Request) (settings : Settings) :
    SessionM Empty (Except Failure Unit) := do
  match ← loadScript request with
  | .error f => return .error f
  | .ok () =>
    let hasUpdate := Session.hasFunction (← get) "update"
    unless hasUpdate do
      Session.log .noUpdate
    match ← runFrames settings.deltaTime hasUpdate settings.frames with
    | .error e => return .error (.script e)
    | .ok () =>
      Session.log (summary (← get))
      return .ok ()

/-- A run: why it failed, if it did, and what it logged. -/
def run (request : Request) : Logged (Option Failure) := do
  Logged.emit (.started version)
  match settingsOf request with
  | .error f => return some f
  | .ok settings =>
    let script ← Script.new settings.script (.bundled settings.bridge (hostOf settings))
    let (result, _) ← (runSession request settings).run script
    match result with
    | .error f => return some f
    | .ok () => return none

/-- The events that a run shows: those of the run and of the script, at level `info`
    or above. -/
def shown (events : List Event) : List Event :=
  events.filter fun e =>
    e.level.detail ≤ Level.info.detail && (e.target = "tether" || e.target = "script")

end HostBridge.CommandLine
