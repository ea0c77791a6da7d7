import HostBridge.Host.Objects
import HostBridge.Host.Types

/-!
# Host state

Everything that host code can read and write during a call.

## Main definitions

- `Host` — shared objects, the environment, and the embedder's own state
- `HostM` — computations of host code
-/

namespace HostBridge

/-- What host code can read and write. -/
structure Host (ε : Type) [Embedding ε] where
  objects : Objects (HostType ε) HostType.State := {}
  environment : Environment
  own : Embedding.World ε

/-- Computations of host code. -/
abbrev HostM (ε : Type) [Embedding ε] := StateM (Host ε)

namespace Host

variable {ε : Type} [Embedding ε]

/-- Makes a new shared object. -/
def newObject (t : HostType ε) (state : t.State) : HostM ε ObjectRef := do
  let host ← get
  let (ref, objects) := host.objects.add t state
  set { host with objects }
  return ref

/-- Reads the state of a shared object that no writer has. -/
def readObject? (t : HostType ε) (ref : ObjectRef) : HostM ε (Option t.State) := do
  return (← get).objects.read? t ref

/-- Works on the clock. -/
def withClock {α : Type} (f : FrameClock → α × FrameClock) : HostM ε α :=
  modifyGet fun host =>
    let (a, clock) := f host.environment.clock
    (a, { host with environment := { host.environment with clock } })

/-- Works on the random stream. -/
def withRandom {α : Type} (f : RandomStream → α × RandomStream) : HostM ε α :=
  modifyGet fun host =>
    let (a, random) := f host.environment.random
    (a, { host with environment := { host.environment with random } })

end Host

end HostBridge
