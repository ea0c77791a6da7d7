/-!
# Choice between numbers

Maximum, minimum and clamping of 32-bit floats. A number that is not a number loses
against any other; clamping keeps it.
-/

namespace HostBridge.Spatial

/-- The greater of two numbers, the second of two equal ones, such as the two zeros. -/
def maxNumber (a b : Float32) : Float32 :=
  if b.isNaN || a > b then a else b

/-- The smaller of two numbers, the second of two equal ones. -/
def minNumber (a b : Float32) : Float32 :=
  if b.isNaN || a < b then a else b

/-- A number that is not positive, replaced by zero. -/
def nonnegative (a : Float32) : Float32 :=
  if a > 0 then a else 0

/-- A number moved into the unit interval. -/
def clampUnit (t : Float32) : Float32 :=
  let t := if t < 0 then 0 else t
  if t > 1 then 1 else t

/-- One with the sign of a number. -/
def signum (a : Float32) : Float32 :=
  if a.isNaN then a else if a.toBits &&& 0x80000000 = 0 then 1 else -1

/-- The distance from one to the next greater float. -/
def epsilon : Float32 := Float32.ofBits 0x34000000

/-- The ratio of a circle's circumference to its diameter. -/
def pi : Float32 := Float32.ofBits 0x40490fdb

end HostBridge.Spatial
