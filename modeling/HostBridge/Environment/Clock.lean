import HostBridge.Spatial.Number

/-!
# Frame clock

The clock that scripts read every frame. The host advances it by a number of seconds,
which the clock scales.
-/

namespace HostBridge

/-- A frame clock. -/
structure FrameClock where
  frameCount : UInt64 := 0
  /-- Seconds covered by the last frame, after scaling. -/
  deltaTime : Float32 := 0
  /-- Seconds since the clock started, after scaling. -/
  time : Float := 0
  timeScale : Float32 := 1

namespace FrameClock

/-- Seconds in one tick of fixed length. -/
def tickSeconds : Float32 := 16666000 / 1000000000

/-- Sets the scale; a negative one pauses the clock. -/
def setTimeScale (c : FrameClock) (scale : Float32) : FrameClock :=
  { c with timeScale := Spatial.nonnegative scale }

/-- Advances by one frame of `seconds`, before scaling; a negative time counts as zero. -/
def advance (c : FrameClock) (seconds : Float32) : FrameClock :=
  let delta := Spatial.nonnegative seconds * c.timeScale
  { c with
    frameCount := c.frameCount + 1
    deltaTime := delta
    time := c.time + delta.toFloat }

/-- Advances by a number of ticks. -/
def advanceTicks (c : FrameClock) : Nat → FrameClock
  | 0 => c
  | n + 1 => (c.advance tickSeconds).advanceTicks n

end FrameClock

end HostBridge
