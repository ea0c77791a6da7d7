/-!
# Screen

The output surface that scripts can ask about.
-/

namespace HostBridge

/-- Size and density of the output surface, in pixels. -/
structure Screen where
  width : UInt32 := 1280
  height : UInt32 := 720
  dpi : Float32 := 96

namespace Screen

/-- Width over height; zero for a surface without height. -/
def aspect (s : Screen) : Float32 :=
  if s.height = 0 then 0 else s.width.toFloat32 / s.height.toFloat32

/-- The surface with another size. -/
def resize (s : Screen) (width height : UInt32) : Screen :=
  { s with width, height }

end Screen

end HostBridge
