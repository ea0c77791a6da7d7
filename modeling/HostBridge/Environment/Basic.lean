import HostBridge.Environment.Clock
import HostBridge.Environment.Random
import HostBridge.Environment.Screen

/-!
# Host environment

The state that the bundled bindings read and write: clock, screen and random stream.
-/

namespace HostBridge

/-- Host state behind the bundled bindings. -/
structure Environment where
  clock : FrameClock := {}
  screen : Screen := {}
  random : RandomStream

/-- The seed of an environment for which none is given. -/
def Environment.defaultSeed : UInt64 := 0x5EED

/-- A fresh environment. -/
def Environment.new (seed : UInt64) : Environment :=
  { random := .new seed }

end HostBridge
