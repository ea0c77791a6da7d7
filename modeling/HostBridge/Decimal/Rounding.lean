/-!
# Rounding between number formats

Conversions between floats and integers for which the language has an instruction but no
definition. They are defined here by what a float stands for: a sign, a mantissa and an
exponent, rounded to the nearest number of a format, to the even one of two.

## Main definitions

- `Decimal.narrow` — a 64-bit float as a 32-bit one
- `Decimal.floatOfInt32`, `Decimal.floatOfInt64`, `Decimal.float32OfInt64` — integers as floats
- `Decimal.int32OfFloat` — a float as an integer
-/

namespace HostBridge.Decimal

/-- The 32-bit float nearest to a 64-bit one. -/
def narrow (x : Float) : Float32 :=
  .ofModel <| .pack <| match x.toModel.unpack with
    | .finite sign mantissa exponent _ => .round .binary32 sign mantissa exponent
    | special => special

/-- A 32-bit integer as a 64-bit float. -/
def floatOfInt32 (n : Int32) : Float :=
  .ofModel (.ofInt32 n)

/-- The 64-bit float nearest to a 64-bit integer. -/
def floatOfInt64 (n : Int64) : Float :=
  .ofModel (.ofInt64 n)

/-- The 32-bit float nearest to a 64-bit integer. -/
def float32OfInt64 (n : Int64) : Float32 :=
  .ofModel (.ofInt64 n)

/-- A 64-bit float without its fraction, moved into the range of the 32-bit integers. -/
def int32OfFloat (x : Float) : Int32 :=
  x.toModel.toInt32

end HostBridge.Decimal
