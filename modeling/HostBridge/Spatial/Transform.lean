import HostBridge.Spatial.Vector

/-!
# Rotations and placements

A rotation is a quaternion; a placement is a position, a rotation and a scale.

## Main definitions

- `Quat` — quaternions, `Quat.rotate`, `Quat.normalize`, `Quat.fromArc`
- `Transform` — the placement of a host object
-/

namespace HostBridge

/-- A quaternion. -/
structure Quat where
  x : Float32
  y : Float32
  z : Float32
  w : Float32

namespace Quat

/-- The rotation that moves nothing. -/
def identity : Quat := ⟨0, 0, 0, 1⟩

/-- The quaternion with each lane divided by its length. -/
def normalize (q : Quat) : Quat :=
  let length := (q.x * q.x + q.z * q.z + (q.y * q.y + q.w * q.w)).sqrt
  ⟨q.x / length, q.y / length, q.z / length, q.w / length⟩

/-- A vector turned by a quaternion of length one. -/
def rotate (q : Quat) (v : Vec3) : Vec3 :=
  let b : Vec3 := ⟨q.x, q.y, q.z⟩
  let along := v.scale (q.w * q.w - b.dot b)
  let axis := b.scale (v.dot b * 2)
  (along.add axis).add ((b.cross v).scale (q.w * 2))

/-- The rotation about an axis of length one. -/
def fromAxisAngle (axis : Vec3) (angle : Float32) : Quat :=
  let half := angle * 0.5
  let v := axis.scale half.sin
  ⟨v.x, v.y, v.z, half.cos⟩

/-- The shortest rotation that turns one vector of length one into another. -/
def fromArc (a b : Vec3) : Quat :=
  let almostOne := 1 - 2 * Spatial.epsilon
  let d := a.dot b
  if d > almostOne then identity
  else if d < -almostOne then fromAxisAngle a.orthonormal Spatial.pi
  else
    let c := a.cross b
    normalize ⟨c.x, c.y, c.z, 1 + d⟩

/-- The lanes as a vector. -/
def toVec4 (q : Quat) : Vec4 := ⟨q.x, q.y, q.z, q.w⟩

/-- The quaternion with the lanes of a vector. -/
def ofVec4 (v : Vec4) : Quat := ⟨v.x, v.y, v.z, v.w⟩

end Quat

/-- Position, rotation and scale of a host object. -/
structure Transform where
  position : Vec3 := .zero
  rotation : Quat := .identity
  scale : Vec3 := .one

namespace Transform

/-- Moves the object in world space. -/
def translate (t : Transform) (offset : Vec3) : Transform :=
  { t with position := t.position.add offset }

/-- The object's third axis in world space. -/
def forward (t : Transform) : Vec3 :=
  t.rotation.rotate .forward

/-- Turns the object's third axis towards a point, unless it is at that point. -/
def lookAt (t : Transform) (target : Vec3) : Transform :=
  let direction := target.sub t.position
  if direction.dot direction > Spatial.epsilon then
    { t with rotation := .fromArc .forward direction.normalize }
  else t

end Transform

end HostBridge
