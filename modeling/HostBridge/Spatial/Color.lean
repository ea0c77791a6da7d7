import HostBridge.Spatial.Number

/-!
# Colors

Linear colors of four channels.
-/

namespace HostBridge

/-- A linear color. -/
structure Color where
  r : Float32 := 1
  g : Float32 := 1
  b : Float32 := 1
  a : Float32 := 1

namespace Color

/-- Opaque white. -/
def white : Color := {}

/-- Opaque black. -/
def black : Color := ⟨0, 0, 0, 1⟩

/-- The color at `t` between two colors; `t` is moved into the unit interval. -/
def lerp (p q : Color) (t : Float32) : Color :=
  let t := Spatial.clampUnit t
  let mix (x y : Float32) : Float32 := x + (y - x) * t
  ⟨mix p.r q.r, mix p.g q.g, mix p.b q.b, mix p.a q.a⟩

end Color

end HostBridge
