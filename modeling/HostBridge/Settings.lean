import HostBridge.Bridge.Basic
import HostBridge.Json.Source
import HostBridge.Script.Basic

/-!
# Settings

What a settings file says about a run. Every setting may be missing; unknown ones are
passed over.

## Main definitions

- `Settings` — the settings of a run
- `Settings.parse?` — reads a settings file
-/

namespace HostBridge

/-- The settings of a run. -/
structure Settings where
  bridge : BridgeConfig := {}
  script : ScriptConfig := {}
  screen : Screen := {}
  /-- Frames to run. -/
  frames : Nat := 60
  /-- Seconds of a frame, before scaling. -/
  deltaTime : Float32 := FrameClock.tickSeconds
  seed : UInt64 := Environment.defaultSeed

namespace Settings

open Json

/-- Reads the settings of the bridge. -/
def readBridge? (t : Tree) : Option BridgeConfig := do
  let s ← Source.ofTree? 2 t
  let d : BridgeConfig := {}
  let installBundled ← s.field? 0 "install_hot_bindings" Tree.readBool? d.installBundled
  let warnOnLossy ← s.field? 1 "warn_on_lossy_structs" Tree.readBool? d.warnOnLossy
  return { installBundled, warnOnLossy }

/-- Reads the settings of the script context. -/
def readScript? (t : Tree) : Option ScriptConfig := do
  let s ← Source.ofTree? 4 t
  let d : ScriptConfig := {}
  let limit? := Tree.readOption? Tree.readWord?
  let maxCallbacks ← s.field? 0 "max_callbacks" Tree.readWord? d.maxCallbacks
  let maxJobsPerTick ← s.field? 1 "max_jobs_per_tick" limit? (some d.maxJobsPerTick)
  let memoryLimit ← s.field? 2 "memory_limit" limit? (some d.memoryLimit)
  let exceptionMessageLimit ←
    s.field? 3 "exception_message_limit" Tree.readWord? d.exceptionMessageLimit
  return { maxCallbacks, maxJobsPerTick, memoryLimit, exceptionMessageLimit }

/-- Reads a natural number of at most 32 bits. -/
def readWord32? (t : Tree) : Option UInt32 :=
  (t.readInt? 0 0xFFFFFFFF).map fun n => UInt32.ofNat n.toNat

/-- Reads the settings of the screen. -/
def readScreen? (t : Tree) : Option Screen := do
  let s ← Source.ofTree? 3 t
  let d : Screen := {}
  let width ← s.field? 0 "width" readWord32? d.width
  let height ← s.field? 1 "height" readWord32? d.height
  let dpi ← s.field? 2 "dpi" Tree.readFloat32? d.dpi
  return { width, height, dpi }

/-- Reads settings. -/
def read? (t : Tree) : Option Settings := do
  let s ← Source.ofTree? 6 t
  let d : Settings := {}
  let bridge ← s.field? 0 "interop" readBridge? d.bridge
  let script ← s.field? 1 "script" readScript? d.script
  let screen ← s.field? 2 "screen" readScreen? d.screen
  let frames ← s.field? 3 "frames" Tree.readWord? d.frames
  let deltaTime ← s.field? 4 "delta_time" Tree.readFloat32? d.deltaTime
  let seed ← s.field? 5 "seed" Tree.readWord? (some d.seed.toNat)
  return { bridge, script, screen, frames, deltaTime, seed := UInt64.ofNat seed }

/-- Reads a settings file. -/
def parse? (text : String) : Option Settings :=
  (Tree.parse? text).bind read?

/-- The complaint about a settings file that does not exist. -/
def missingFile : String :=
  "failed to read settings: No such file or directory (os error 2)"

end Settings

end HostBridge
