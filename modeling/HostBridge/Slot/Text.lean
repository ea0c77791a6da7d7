import HostBridge.Decimal.Layout
import HostBridge.Slot.Basic
import HostBridge.Text.Quoted

/-!
# Text of slots

How a slot is written for people: numbers in positional notation with the fewest
digits that read back, text in quotes, vectors in parentheses, objects by type and
number.
-/

namespace HostBridge.Slot

/-- Numbers are written positionally, integers without a point, with the sign of zero. -/
def numberLayout : Decimal.Layout where
  selection := ⟨.up, false⟩
  leastPositional := none
  greatestPositional := none
  pointZero := false
  plusSign := false
  signedZero := true
  nan := "NaN"
  infinity := "inf"

/-- Text of a 64-bit float. -/
def floatText (x : Float) : String :=
  numberLayout.write (.ofFloat x)

/-- Text of a 32-bit float. -/
def float32Text (x : Float32) : String :=
  numberLayout.write (.ofFloat32 x)

/-- Text of a list of lanes. -/
def lanesText (lanes : List Float32) : String :=
  "(" ++ String.intercalate ", " (lanes.map float32Text) ++ ")"

/-- Text of a slot. -/
def text : Slot → String
  | null => "null"
  | bool b => if b then "true" else "false"
  | int32 n => toString n.toInt
  | int64 n => toString n.toInt
  | float32 x => float32Text x
  | double x => floatText x
  | string s => Text.quoted s
  | json s => s
  | vector3 v => lanesText [v.x, v.y, v.z]
  | vector4 v => lanesText [v.x, v.y, v.z, v.w]
  | object h hint => "<" ++ hint.getD "object" ++ " #" ++ h.text ++ ">"

end HostBridge.Slot
