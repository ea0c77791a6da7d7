/-!
# Finite binary numbers

A finite binary float is a sign and a magnitude `mantissa * 2 ^ exponent`. This
module reads both out of the bits of a float, so that the text of a number can be
chosen in exact arithmetic.

## Main definitions

- `Decimal.Format` — widths of the stored mantissa and exponent
- `Decimal.Magnitude` — a nonnegative finite value and the shape of its rounding interval
- `Decimal.Format.decode` — the number that a bit pattern stands for
-/

namespace HostBridge.Decimal

/-- Widths of the stored mantissa and of the exponent field of a binary format. -/
structure Format where
  mantissaBits : Nat
  exponentBits : Nat

/-- The 32-bit format. -/
def Format.single : Format := ⟨23, 8⟩

/-- The 64-bit format. -/
def Format.double : Format := ⟨52, 11⟩

/-- A nonnegative finite value `mantissa * 2 ^ exponent`.

    `narrowBelow` says that the next smaller float is only half a unit away, as it
    is below every power of two except the least. -/
structure Magnitude where
  mantissa : Nat
  exponent : Int
  narrowBelow : Bool
deriving DecidableEq, Repr

/-- What a bit pattern stands for. -/
inductive Binary where
  | nan
  | infinite (negative : Bool)
  | finite (negative : Bool) (magnitude : Magnitude)
deriving DecidableEq, Repr

/-- The number that the bit pattern `bits` of the format stands for. -/
def Format.decode (f : Format) (bits : Nat) : Binary :=
  let stored := bits % Nat.pow 2 f.mantissaBits
  let biased := bits / Nat.pow 2 f.mantissaBits % Nat.pow 2 f.exponentBits
  let negative := bits / Nat.pow 2 (f.mantissaBits + f.exponentBits) % 2 == 1
  let least : Int := 2 - (Nat.pow 2 (f.exponentBits - 1) : Nat) - f.mantissaBits
  if biased = Nat.pow 2 f.exponentBits - 1 then
    if stored = 0 then .infinite negative else .nan
  else if biased = 0 then
    .finite negative ⟨stored, least, false⟩
  else
    .finite negative
      ⟨Nat.pow 2 f.mantissaBits + stored, least + (biased - 1 : Nat), stored = 0 && 1 < biased⟩

/-- The number in a 32-bit float. -/
def Binary.ofFloat32 (x : Float32) : Binary :=
  Format.single.decode x.toBits.toNat

/-- The number in a 64-bit float. -/
def Binary.ofFloat (x : Float) : Binary :=
  Format.double.decode x.toBits.toNat

/-- The value as a fraction `numerator / denominator` of whole numbers. -/
def Magnitude.fraction (x : Magnitude) : Nat × Nat :=
  if 0 ≤ x.exponent then (x.mantissa * Nat.pow 2 x.exponent.toNat, 1)
  else (x.mantissa, Nat.pow 2 (-x.exponent).toNat)

end HostBridge.Decimal
