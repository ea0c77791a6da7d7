import HostBridge.Spatial.Number

/-!
# Vectors

Vectors of three and four 32-bit floats. Every operation is rounded on its own, in
the order in which it is written.

## Main definitions

- `Vec2`, `Vec3`, `Vec4` — vectors
- `Vec3.dot`, `Vec3.cross`, `Vec3.normalizeOrZero`, `Vec3.lerp` — operations
-/

namespace HostBridge

/-- A vector of two lanes. -/
structure Vec2 where
  x : Float32
  y : Float32

/-- A vector of three lanes. -/
structure Vec3 where
  x : Float32
  y : Float32
  z : Float32

/-- A vector of four lanes. -/
structure Vec4 where
  x : Float32
  y : Float32
  z : Float32
  w : Float32

namespace Vec3

/-- The zero vector. -/
def zero : Vec3 := ⟨0, 0, 0⟩

/-- The vector with all lanes one. -/
def one : Vec3 := ⟨1, 1, 1⟩

/-- The second axis. -/
def up : Vec3 := ⟨0, 1, 0⟩

/-- The third axis. -/
def forward : Vec3 := ⟨0, 0, 1⟩

/-- Sum by lanes. -/
def add (a b : Vec3) : Vec3 := ⟨a.x + b.x, a.y + b.y, a.z + b.z⟩

/-- Difference by lanes. -/
def sub (a b : Vec3) : Vec3 := ⟨a.x - b.x, a.y - b.y, a.z - b.z⟩

/-- Product with a number. -/
def scale (a : Vec3) (s : Float32) : Vec3 := ⟨a.x * s, a.y * s, a.z * s⟩

/-- Scalar product. -/
def dot (a b : Vec3) : Float32 := a.x * b.x + a.y * b.y + a.z * b.z

/-- Vector product. -/
def cross (a b : Vec3) : Vec3 :=
  ⟨a.y * b.z - b.y * a.z, a.z * b.x - b.z * a.x, a.x * b.y - b.x * a.y⟩

/-- Euclidean length. -/
def length (a : Vec3) : Float32 := (a.dot a).sqrt

/-- Euclidean distance. -/
def distance (a b : Vec3) : Float32 := (a.sub b).length

/-- The vector of length one in the same direction. -/
def normalize (a : Vec3) : Vec3 := a.scale (1 / a.length)

/-- The vector of length one in the same direction, or zero where there is none. -/
def normalizeOrZero (a : Vec3) : Vec3 :=
  let r := 1 / a.length
  if r.isFinite && r > 0 then a.scale r else zero

/-- The point at `s` on the line from `a` at zero to `b` at one. -/
def lerp (a b : Vec3) (s : Float32) : Vec3 := (a.scale (1 - s)).add (b.scale s)

/-- A vector at a right angle to a vector of length one. -/
def orthonormal (v : Vec3) : Vec3 :=
  let s := Spatial.signum v.z
  let a := -1 / (s + v.z)
  let b := v.x * v.y * a
  ⟨b, s + v.y * v.y * a, -v.y⟩

/-- The first two lanes. -/
def truncate (v : Vec3) : Vec2 := ⟨v.x, v.y⟩

/-- The vector with a fourth lane. -/
def extend (v : Vec3) (w : Float32) : Vec4 := ⟨v.x, v.y, v.z, w⟩

end Vec3

namespace Vec2

/-- The vector with a third lane. -/
def extend (v : Vec2) (z : Float32) : Vec3 := ⟨v.x, v.y, z⟩

end Vec2

namespace Vec4

/-- The zero vector. -/
def zero : Vec4 := ⟨0, 0, 0, 0⟩

/-- The first three lanes. -/
def truncate (v : Vec4) : Vec3 := ⟨v.x, v.y, v.z⟩

end Vec4

end HostBridge
