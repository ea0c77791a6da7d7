import HostBridge.Decimal.Layout
import HostBridge.Json.Document
import HostBridge.Json.Source

/-!
# Fields of struct values

A field of a struct value has one of a few types. Fields of the numeric types convert
to and from one lane of a vector, and are read leniently from object notation.

## Main definitions

- `LaneKind` — the numeric types; `LaneKind.toLane`, `LaneKind.ofLane`, `LaneKind.ofJson?`
- `FieldType` — all field types; `FieldType.read?`, `FieldType.document`
-/

namespace HostBridge

/-- A numeric type whose values fit a float lane. -/
inductive LaneKind where
  | bool
  | int32
  | float32
  | float64
deriving DecidableEq, Repr

namespace LaneKind

/-- The values of a numeric type. -/
abbrev Carrier : LaneKind → Type
  | bool => Bool
  | int32 => Int32
  | float32 => Float32
  | float64 => Float

/-- The name of a numeric type. -/
def name : LaneKind → String
  | bool => "Bool"
  | int32 => "Int32"
  | float32 => "Float32"
  | float64 => "Float64"

/-- False or zero. -/
def zero : (k : LaneKind) → k.Carrier
  | bool => false
  | int32 => (0 : Int32)
  | float32 => (0 : Float32)
  | float64 => (0 : Float)

/-- The lane form of a value. -/
def toLane : (k : LaneKind) → k.Carrier → Float32
  | bool, b => if b then 1 else 0
  | int32, n => n.toFloat32
  | float32, x => x
  | float64, x => x.toFloat32

/-- The value of a lane; integers lose their fraction and saturate. -/
def ofLane : (k : LaneKind) → Float32 → k.Carrier
  | bool, lane => lane != 0
  | int32, lane => lane.toInt32
  | float32, lane => lane
  | float64, lane => lane.toFloat

/-- The nearest 32-bit integer of a 64-bit one. -/
def clampInt32 (n : Int64) : Int32 :=
  Int32.ofInt (max (-0x80000000) (min 0x7FFFFFFF n.toInt))

/-- A value of object notation read leniently: any number is a truth value or an
    integer, and a truth value is no number. -/
def ofJson? : (k : LaneKind) → Json.Value → Option k.Carrier
  | bool, v =>
    match v.toBool? with
    | some b => some b
    | none => v.toFloat?.map (· != 0)
  | int32, v =>
    match v.toInt64? with
    | some n => some (clampInt32 n)
    | none => v.toFloat?.map Decimal.int32OfFloat
  | float32, v => v.toFloat?.map Decimal.narrow
  | float64, v => v.toFloat?

end LaneKind

/-- The type of a field. -/
inductive FieldType where
  | lane (k : LaneKind)
  | uint32
  | strings
deriving DecidableEq, Repr

namespace FieldType

/-- The values of a field type. -/
abbrev Carrier : FieldType → Type
  | lane k => k.Carrier
  | uint32 => UInt32
  | strings => List String

/-- Zero, false or empty. -/
def zero : (t : FieldType) → t.Carrier
  | lane k => k.zero
  | uint32 => (0 : UInt32)
  | strings => ([] : List String)

/-- The numeric type of a field, if it has one. -/
def laneKind? : FieldType → Option LaneKind
  | lane k => some k
  | _ => none

/-- Floats are written with the fewest digits that read back, integers with `.0`;
    64-bit floats positionally from the exponent -5 to the exponent 15. -/
def floatLayout : Decimal.Layout where
  selection := ⟨.even, false⟩
  leastPositional := some (-5)
  greatestPositional := some 15
  pointZero := true
  plusSign := true
  signedZero := true
  nan := "null"
  infinity := "null"

/-- As `floatLayout`; 32-bit floats positionally from the exponent -6 to the exponent 12. -/
def float32Layout : Decimal.Layout :=
  { floatLayout with leastPositional := some (-6), greatestPositional := some 12 }

/-- The document of a float; one that is not finite is `null`. -/
def floatDocument (layout : Decimal.Layout) : Decimal.Binary → Json.Document
  | .finite negative x => .number (layout.write (.finite negative x))
  | _ => .null

/-- What is written for a value. -/
def document : (t : FieldType) → t.Carrier → Json.Document
  | lane .bool, b => .bool b
  | lane .int32, n => .number (toString n.toInt)
  | lane .float32, x => floatDocument float32Layout (.ofFloat32 x)
  | lane .float64, x => floatDocument floatLayout (.ofFloat x)
  | uint32, n => .number (toString n.toNat)
  | strings, l => .array (l.map fun s => .string (CodePoints.ofString s))

/-- Reads a value strictly. -/
def read? : (t : FieldType) → Json.Tree → Option t.Carrier
  | lane .bool, v => v.readBool?
  | lane .int32, v => (v.readInt? (-0x80000000) 0x7FFFFFFF).map Int32.ofInt
  | lane .float32, v => v.readFloat32?
  | lane .float64, v => v.readFloat?
  | uint32, v => (v.readInt? 0 0xFFFFFFFF).map fun n => UInt32.ofNat n.toNat
  | strings, v => v.readList? Json.Tree.readString?

end FieldType

end HostBridge
