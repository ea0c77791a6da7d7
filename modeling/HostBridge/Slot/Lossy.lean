import HostBridge.Decimal.Numeral
import HostBridge.Slot.Basic
import HostBridge.Text.Blank

/-!
# Numbers in slots

The numeric views of a slot. Truth values count as one and zero, and text is read as
a number after trimming; vectors, objects and object notation have no numeric view.

## Main definitions

- `Slot.toFloat?` — the view as a float
- `Slot.toInt64?` — the view as an integer; floats lose their fraction and saturate
-/

namespace HostBridge.Slot

/-- A text without blanks at its ends. -/
def trimmed (s : String) : List Char :=
  Text.trim s.toList

/-- The numeric view of a slot as a float. -/
def toFloat? : Slot → Option Float
  | bool b => some (if b then 1 else 0)
  | int32 n => some n.toFloat
  | int64 n => some n.toFloat
  | float32 x => some x.toFloat
  | double x => some x
  | string s => Decimal.readFloat? (trimmed s)
  | _ => none

/-- Text as an integer: exactly if it is written as an integer in range, otherwise
    through a float. -/
def textToInt64? (s : List Char) : Option Int64 :=
  match Decimal.readInt64? s with
  | some n => some n
  | none => (Decimal.readFloat? s).map Float.toInt64

/-- The numeric view of a slot as an integer. -/
def toInt64? : Slot → Option Int64
  | bool b => some (if b then 1 else 0)
  | int32 n => some n.toInt64
  | int64 n => some n
  | float32 x => some x.toInt64
  | double x => some x.toInt64
  | string s => textToInt64? (trimmed s)
  | _ => none

end HostBridge.Slot
