/-!
# Random stream

A linear congruential generator with a 64-bit state, reduced to 32 bits at each step.
A stream can be restarted from its seed.

## Main definitions

- `RandomStream` — seed and state
- `RandomStream.next` — the next 32-bit value
- `RandomStream.unit`, `RandomStream.range` — the next float in an interval
-/

namespace HostBridge

/-- A random stream: where it started and where it stands. -/
structure RandomStream where
  seed : UInt64
  state : UInt64
deriving DecidableEq, Repr

namespace RandomStream

/-- A fresh stream. -/
def new (seed : UInt64) : RandomStream := ⟨seed, seed⟩

/-- The stream at its start. -/
def reset (r : RandomStream) : RandomStream := new r.seed

/-- The state after a state. -/
def advance (state : UInt64) : UInt64 :=
  (1664525 * state + 1013904223) % 4294967296

/-- The next 32-bit value. -/
def next (r : RandomStream) : UInt32 × RandomStream :=
  let state := advance r.state
  (state.toUInt32, { r with state })

/-- The next float in the unit interval. -/
def unit (r : RandomStream) : Float32 × RandomStream :=
  let (n, r) := r.next
  (n.toFloat32 / (0xFFFFFFFF : UInt32).toFloat32, r)

/-- The next float between two bounds, given in either order. -/
def range (r : RandomStream) (a b : Float32) : Float32 × RandomStream :=
  let (low, high) := if a ≤ b then (a, b) else (b, a)
  let (t, r) := r.unit
  (low + (high - low) * t, r)

end RandomStream

end HostBridge
