import HostBridge.Proofs.JsonLexing
import HostBridge.Proofs.Rounding
import HostBridge.Script.Number
import Mathlib.Data.Rat.Cast.Order
import Mathlib.Tactic.FieldSimp
import Mathlib.Tactic.NormNum

/-!
# Numerals that denote integers

A script keeps a number that fits 32 bits as an integer, however it was written: `100`, `1e2` and
`1000e-1` are one number. A numeral goes through a float on the way. It is the float of the
integer, because an integer that a float holds is not rounded, whatever product or quotient of
powers it is computed from; and the float gives the integer back.

## Main definitions

- `Decimal.Numeral.value`, `Json.Number.value` — the number that is written

## Main results

- `Decimal.Numeral.toFloat_of_value` — a numeral that denotes an integer is the float of it
- `Decimal.int32OfFloat_ofInt` — the float of an integer gives it back
- `ScriptNumber.document_ofNumber` — integers of 32 bits are written by their digits
-/

namespace HostBridge

namespace Decimal

open Float.Model (UnpackedFloat totalExponent)
open Float.Model.UnpackedFloat

variable {m n k : Nat} {e : Int}

-- ════════════════════════════════════════════════════════════════════════
-- Products and quotients of powers
-- ════════════════════════════════════════════════════════════════════════

/-- A mantissa with digits enough is rounded as it is. -/
theorem roundWithAccuracy_of_le {spec : Float.Model.Format} {sign : Sign}
    (h : e ≤ exponentIn spec m e) :
    roundWithAccuracy spec sign m e .exact = round spec sign m e := by
  have hzero : (e - exponentIn spec m e).toNat = 0 := by omega
  have hsame : decreaseExponent m e (exponentIn spec m e) = (m, e) := by
    rw [decreaseExponent, hzero, Nat.shiftLeft_zero, Int.natCast_zero, Int.sub_zero]
  change _ = roundWithAccuracy spec sign (decreaseExponent m e (exponentIn spec m e)).1
    (decreaseExponent m e (exponentIn spec m e)).2 .exact
  rw [hsame]

/-- An integer that stands in front of zeros is rounded as the integer. -/
theorem roundWithAccuracy_mul_two_pow {sign : Sign} (hn : 0 < n)
    (h : -(k : Int) ≤ exponentIn .binary64 n 0) :
    roundWithAccuracy .binary64 sign (n * 2 ^ k) (-k) .exact = round .binary64 sign n 0 := by
  have hexponent : exponentIn .binary64 (n * 2 ^ k) (-k) = exponentIn .binary64 n 0 := by
    have htotal := totalExponent_shiftLeft hn 0 k
    rw [Nat.shiftLeft_eq, Int.zero_sub] at htotal
    rw [exponentIn, exponentIn, htotal]
  rw [roundWithAccuracy_of_le (h.trans_eq hexponent.symm), ← Int.zero_sub, round_mul_two_pow hn]

theorem targetExponent_binary64 (t : Int) :
    Float.Model.Format.binary64.targetExponent t = max (t - 53) (-1074) := rfl

theorem le_exponentIn (n : Nat) : -52 ≤ exponentIn .binary64 n 0 := by
  rw [exponentIn, targetExponent_binary64, totalExponent]
  omega

theorem shiftLeft_pos (hm : 0 < m) (k : Nat) : 0 < m <<< k := by
  rw [Nat.shiftLeft_eq]
  exact Nat.mul_pos hm (Nat.pow_pos (by decide))

/-- An integer that is a multiple of a power of ten. -/
theorem mul_pow_ten (hm : 0 < m) (k : Nat) :
    mul .binary64 (.finite .positive (m <<< 53) (-53) (shiftLeft_pos hm 53))
        (.finite .positive (10 ^ k) 0 (Nat.pow_pos (by decide))) =
      round .binary64 .positive (m * 10 ^ k) 0 := by
  have hpos : 0 < m * 10 ^ k := Nat.mul_pos hm (Nat.pow_pos (by decide))
  have hdigits : m <<< 53 * 10 ^ k = m * 10 ^ k * 2 ^ 53 := by
    rw [Nat.shiftLeft_eq]
    ring
  have hround := @roundWithAccuracy_mul_two_pow (m * 10 ^ k) 53 .positive hpos
    ((by decide : -((53 : Nat) : Int) ≤ -52).trans (le_exponentIn _))
  rw [mul, hdigits]
  exact hround

theorem log2_mul_le (hm : 0 < m) (hn : 0 < n) : (m * n).log2 ≤ m.log2 + n.log2 + 1 := by
  have hlt : m * n < 2 ^ (m.log2 + 1) * 2 ^ (n.log2 + 1) :=
    Nat.mul_lt_mul'' ((Nat.log2_lt hm.ne').mp (Nat.lt_succ_self _))
      ((Nat.log2_lt hn.ne').mp (Nat.lt_succ_self _))
  rw [← Nat.pow_add, ← Nat.log2_lt (Nat.mul_pos hm hn).ne'] at hlt
  omega

/-- An integer that a multiple of a power of ten is divided down to. -/
theorem div_pow_ten (hn : 0 < n) (k : Nat) :
    div .binary64 (.finite .positive (n * 10 ^ k) 0 (Nat.mul_pos hn (Nat.pow_pos (by decide))))
        (.finite .positive (10 ^ k) 0 (Nat.pow_pos (by decide))) =
      round .binary64 .positive n 0 := by
  have hten : 0 < 10 ^ k := Nat.pow_pos (by decide)
  let t : Int := min (0 - 0) (Float.Model.Format.binary64.targetExponent
    (totalExponent (n * 10 ^ k) 0 - totalExponent (10 ^ k) 0))
  obtain ⟨j, hj⟩ := Int.eq_ofNat_of_zero_le (show 0 ≤ -t by omega)
  have ht : t = -(j : Int) := by omega
  -- The quotient has a digit more than the integer at most, so no digit of the integer is lost.
  have hle : -(j : Int) ≤ exponentIn .binary64 n 0 := by
    have hlog := log2_mul_le hn hten
    rw [← ht, exponentIn, targetExponent_binary64, totalExponent]
    simp only [t, targetExponent_binary64, totalExponent]
    omega
  have hshift : (0 - 0 - t).toNat = j := by omega
  have hproduct : (n * 10 ^ k) <<< j = n * 2 ^ j * 10 ^ k := by
    rw [Nat.shiftLeft_eq]
    ring
  have hcore : divCore .binary64 (n * 10 ^ k) 0 (10 ^ k) 0 = (n * 2 ^ j, -(j : Int), .exact) := by
    change ((n * 10 ^ k) <<< (0 - 0 - t).toNat / 10 ^ k, t,
      accuracyOfFraction ((n * 10 ^ k) <<< (0 - 0 - t).toNat % 10 ^ k) (10 ^ k)) = _
    rw [hshift, hproduct, Nat.mul_div_cancel _ hten, Nat.mul_mod_left, ht]
    rfl
  rw [div, hcore]
  exact roundWithAccuracy_mul_two_pow hn hle

-- ════════════════════════════════════════════════════════════════════════
-- Numerals
-- ════════════════════════════════════════════════════════════════════════

/-- A multiple of a power of ten that is an integer is rounded as the integer. -/
theorem ofScientific_of_nonneg (hm : 0 < m) (hk : k ≤ 310) :
    ofScientific .binary64 m k = round .binary64 .positive (m * 10 ^ k) 0 := by
  have hhuge : ¬(k : Int) > 2 ^ Float.Model.Format.binary64.exponentBits := by
    change ¬(k : Int) > 2048
    omega
  have htiny : ¬(k : Int) < -((2 ^ Float.Model.Format.binary64.exponentBits : Int) + m.log2) := by
    change ¬(k : Int) < -(2048 + (m.log2 : Int))
    omega
  rw [ofScientific, dif_neg hm.ne', if_neg hhuge, if_neg htiny, if_pos (Int.natCast_nonneg k)]
  exact mul_pow_ten hm k

theorem ofScientific_of_neg (hn : 0 < n) (hk : 0 < k) :
    ofScientific .binary64 (n * 10 ^ k) (-k) = round .binary64 .positive n 0 := by
  have hpos : 0 < n * 10 ^ k := Nat.mul_pos hn (Nat.pow_pos (by decide))
  have hlog : k ≤ (n * 10 ^ k).log2 := by
    rw [Nat.le_log2 hpos.ne']
    calc 2 ^ k ≤ 10 ^ k := Nat.pow_le_pow_left (by decide) k
      _ ≤ n * 10 ^ k := Nat.le_mul_of_pos_left _ hn
  have hhuge : ¬-(k : Int) > 2 ^ Float.Model.Format.binary64.exponentBits := by
    change ¬-(k : Int) > 2048
    omega
  have htiny : ¬-(k : Int) <
      -((2 ^ Float.Model.Format.binary64.exponentBits : Int) + (n * 10 ^ k).log2) := by
    change ¬-(k : Int) < -(2048 + ((n * 10 ^ k).log2 : Int))
    omega
  rw [ofScientific, dif_neg hpos.ne', if_neg hhuge, if_neg htiny, if_neg (by omega)]
  have hdiv := div_pow_ten hn k
  simpa only [Int.neg_neg, Int.toNat_natCast] using hdiv

/-- The number that a numeral denotes. -/
def Numeral.value (n : Numeral) : ℚ :=
  n.toInt * 10 ^ n.scale

namespace Numeral

variable {x : Numeral} {i : Int}

theorem natAbs_toInt (x : Numeral) : x.toInt.natAbs = x.digits := by
  unfold toInt
  split
  · rw [Int.natAbs_neg, Int.natAbs_natCast]
  · exact Int.natAbs_natCast _

theorem digits_mul_of_value (hv : x.value = i) (hk : x.scale = k) :
    x.digits * 10 ^ k = i.natAbs := by
  have hint : x.toInt * 10 ^ k = i := by
    rw [value, hk, zpow_natCast] at hv
    exact_mod_cast hv
  rw [← hint, Int.natAbs_mul, natAbs_toInt, Int.natAbs_pow]
  rfl

theorem digits_of_value (hv : x.value = i) (hk : x.scale = -(k : Int)) :
    x.digits = i.natAbs * 10 ^ k := by
  have hint : x.toInt = i * 10 ^ k := by
    rw [value, hk, zpow_neg, zpow_natCast, mul_inv_eq_iff_eq_mul₀ (by positivity)] at hv
    exact_mod_cast hv
  rw [← natAbs_toInt, hint, Int.natAbs_mul, Int.natAbs_pow]
  rfl

theorem negative_of_value (hdigits : x.digits ≠ 0) (hv : x.value = i) :
    x.negative = decide (i < 0) := by
  have hpow : (0 : ℚ) < 10 ^ x.scale := zpow_pos (by norm_num) _
  have hiff : i < 0 ↔ x.toInt < 0 := by
    rw [← @Int.cast_lt_zero ℚ, ← @Int.cast_lt_zero ℚ, ← hv, value]
    exact ⟨fun h => neg_of_mul_neg_left h hpow.le, fun h => mul_neg_of_neg_of_pos h hpow⟩
  rw [Bool.eq_iff_iff, decide_eq_true_iff, hiff, toInt]
  split
  · next hneg => exact iff_of_true hneg (by omega)
  · next hpos => exact iff_of_false hpos (by omega)

theorem size_le_iff (hk : 0 < k) : x.size ≤ k ↔ x.digits < 10 ^ k := by
  rw [size, Int.ofNat_le, Nat.length_toDigits_le_iff (by decide) hk]

/-- The magnitude of a numeral that denotes an integer is rounded as the integer. -/
theorem ofScientific_of_value (hi : i ≠ 0) (hle : i.natAbs ≤ 2 ^ 53) (hv : x.value = i) :
    x.digits ≠ 0 ∧ ¬310 < x.scale + x.size ∧ ¬x.scale + x.size < -330 ∧
      ofScientific .binary64 x.digits x.scale = round .binary64 .positive i.natAbs 0 := by
  have hpos : 0 < i.natAbs := Int.natAbs_pos.mpr hi
  have hlt : i.natAbs < 10 ^ 16 := Nat.lt_of_le_of_lt hle (by decide)
  rcases Int.lt_or_le x.scale 0 with hscale | hscale
  · obtain ⟨k, hk⟩ := Int.eq_ofNat_of_zero_le (show 0 ≤ -x.scale by omega)
    have hneg : x.scale = -(k : Int) := by omega
    have hdigits := digits_of_value hv hneg
    have hkpos : 0 < k := by omega
    have hsize : x.size ≤ (16 + k : Nat) := by
      rw [size_le_iff (by omega), hdigits, Nat.pow_add]
      exact Nat.mul_lt_mul_of_pos_right hlt (Nat.pow_pos (by decide))
    have hleast : ¬x.size ≤ k := by
      rw [size_le_iff hkpos, hdigits, Nat.not_lt]
      exact Nat.le_mul_of_pos_left _ hpos
    refine ⟨?_, by omega, by omega, ?_⟩
    · rw [hdigits]
      exact (Nat.mul_pos hpos (Nat.pow_pos (by decide))).ne'
    · rw [hdigits, hneg, ofScientific_of_neg hpos hkpos]
  · obtain ⟨k, hk⟩ := Int.eq_ofNat_of_zero_le hscale
    have hdigits := digits_mul_of_value hv hk
    have hne : x.digits ≠ 0 := by
      rintro hzero
      rw [hzero, Nat.zero_mul] at hdigits
      exact hpos.ne hdigits
    have hk16 : k < 16 := by
      rw [← Nat.pow_lt_pow_iff_right (show 1 < 10 by decide)]
      calc 10 ^ k ≤ x.digits * 10 ^ k := Nat.le_mul_of_pos_left _ (Nat.pos_of_ne_zero hne)
        _ < 10 ^ 16 := hdigits ▸ hlt
    have hsize : x.size ≤ (16 : Nat) := by
      rw [size_le_iff (by decide)]
      calc x.digits ≤ x.digits * 10 ^ k := Nat.le_mul_of_pos_right _ (Nat.pow_pos (by decide))
        _ < 10 ^ 16 := hdigits ▸ hlt
    have hnonneg : 0 ≤ x.size := Int.natCast_nonneg _
    refine ⟨hne, by omega, by omega, ?_⟩
    rw [hk, ofScientific_of_nonneg (Nat.pos_of_ne_zero hne) (by omega), hdigits]

end Numeral

theorem ofInt_natCast (hn : 0 < n) (spec : Float.Model.Format) :
    ofInt spec n = round spec .positive n 0 := by
  rw [ofInt, UnpackedFloat.normalize, Int.compare_eq_gt.mpr (Int.natCast_pos.mpr hn)]
  rfl

theorem ofInt_neg_natCast (hn : 0 < n) (spec : Float.Model.Format) :
    ofInt spec (-n) = round spec .negative n 0 := by
  have hneg : -(n : Int) < 0 := Int.neg_neg_of_pos (Int.natCast_pos.mpr hn)
  rw [ofInt, UnpackedFloat.normalize, Int.compare_eq_lt.mpr hneg]
  simp only [Int.neg_neg, Int.toNat_natCast]

/-- The float of a positive integer with its sign changed. -/
theorem neg_ofInt (hn : 0 < n) (hle : n ≤ 2 ^ 53) :
    -(Float.ofModel (.ofInt n)) = .ofModel (.ofInt (-n)) := by
  obtain ⟨m, e, hnormal, -, hsame⟩ := exists_normal_of_le hn hle
  have hunpack : (Float.Model.ofInt n).unpack = ofInt .binary64 n :=
    unpack_pack_ofInt (by rwa [Int.natAbs_natCast])
  have hneg : (ofInt .binary64 n).neg = ofInt .binary64 (-n) := by
    rw [ofInt_natCast hn, ofInt_neg_natCast hn, hsame, hsame, hnormal.round_eq, hnormal.round_eq]
    rfl
  change Float.ofModel (.pack (Float.Model.ofInt n).unpack.neg) = .ofModel (.pack _)
  rw [hunpack, hneg]

/-- A numeral that denotes an integer is the float of it. -/
theorem Numeral.toFloat_of_value {x : Numeral} {i : Int} (hi : i ≠ 0) (hle : i.natAbs ≤ 2 ^ 53)
    (hv : x.value = i) : x.toFloat = .ofModel (.ofInt i) := by
  obtain ⟨hdigits, hlarge, hsmall, hround⟩ := ofScientific_of_value hi hle hv
  have hpos : 0 < i.natAbs := Int.natAbs_pos.mpr hi
  have hmagnitude : Float.ofModel (.ofScientific x.digits x.scale) =
      .ofModel (.ofInt i.natAbs) := by
    rw [Float.Model.ofScientific, hround, ← ofInt_natCast hpos]
    rfl
  rw [toFloat, if_neg hdigits, if_neg hlarge, if_neg hsmall, hmagnitude,
    negative_of_value hdigits hv]
  by_cases hneg : i < 0
  · rw [decide_eq_true hneg, if_pos rfl, neg_ofInt hpos hle]
    congr
    omega
  · rw [decide_eq_false hneg, if_neg Bool.false_ne_true]
    congr
    omega

-- ════════════════════════════════════════════════════════════════════════
-- Integers of floats
-- ════════════════════════════════════════════════════════════════════════

theorem roundToInt_eq (sign : Sign) (m : Nat) (e : Int) :
    roundToInt sign m e = sign.apply (align m e 0).1.mantissa := rfl

/-- An integer that a float holds is what the float stands for. -/
theorem toInt_ofInt {i : Int} (h : i.natAbs ≤ 2 ^ 53) (least greatest : Int) :
    (ofInt .binary64 i).toInt least greatest = i := by
  rcases ofInt_cases i with ⟨rfl, hzero⟩ | ⟨hpos, sign, hsign, hround⟩
  · rw [hzero]
    rfl
  · obtain ⟨m, e, hnormal, halign, hsame⟩ := exists_normal_of_le hpos h
    rw [hround, hsame, hnormal.round_eq, UnpackedFloat.toInt, roundToInt_eq, ← halign,
      align_of_le le_rfl, Int.sub_self, Int.toNat_zero, Nat.shiftLeft_zero]
    exact hsign

/-- The float of an integer gives it back. -/
theorem int32OfFloat_ofInt {i : Int} (hlow : -0x80000000 ≤ i) (hhigh : i ≤ 0x7FFFFFFF) :
    int32OfFloat (.ofModel (.ofInt i)) = Int32.ofInt i := by
  have hle : i.natAbs ≤ 2 ^ 53 := by omega
  have hunpack : (Float.Model.ofInt i).unpack = ofInt .binary64 i := unpack_pack_ofInt hle
  change Int32.ofIntClamp ((Float.Model.ofInt i).unpack.toInt _ _) = _
  rw [hunpack, toInt_ofInt hle]
  exact Int32.toInt_inj.mp ((Int32.toInt_ofIntClamp hlow hhigh).trans
    (Int32.toInt_ofInt_of_le hlow (by omega)).symm)

end Decimal

-- ════════════════════════════════════════════════════════════════════════
-- Numbers of scripts
-- ════════════════════════════════════════════════════════════════════════

/-- The number that is written. Without a fraction and an exponent it is the integer that its
    digits denote. -/
def Json.Number.value (n : Json.Number) : ℚ :=
  if n.isInteger then n.numeral.toInt else n.numeral.value

namespace ScriptNumber

theorem ofFloat_ofInt {i : Int} (hlow : -0x80000000 ≤ i) (hhigh : i ≤ 0x7FFFFFFF) :
    ofFloat (.ofModel (.ofInt i)) = int (Int32.ofInt i) := by
  have hi : (Int32.ofInt i).toInt = i := Int32.toInt_ofInt_of_le hlow (by omega)
  have hback : Decimal.floatOfInt32 (Int32.ofInt i) = .ofModel (.ofInt i) := by
    change Float.ofModel (.ofInt (Int32.ofInt i).toInt) = _
    rw [hi]
  rw [ofFloat, Decimal.int32OfFloat_ofInt hlow hhigh]
  exact if_pos (congrArg Float.toBits hback)

/-- A numeral with no digit but zero is a zero with its sign. -/
theorem ofNumber_of_digits {n : Json.Number} (h : n.numeral.digits = 0) :
    ofNumber n = if n.numeral.negative then ofFloat (-0) else int 0 := by
  have hfloat : n.numeral.toFloat = if n.numeral.negative then -0 else 0 := by
    rw [Decimal.Numeral.toFloat, if_pos h]
  have hzero : ofFloat 0 = int 0 := by rfl
  have hsigned : (!n.numeral.negative || n.numeral.digits != 0) = !n.numeral.negative := by
    simp [h]
  simp only [ofNumber, hsigned, hfloat]
  cases hnegative : n.numeral.negative with
  | true => simp
  | false =>
    have hint : n.numeral.toInt = 0 := by simp [Decimal.Numeral.toInt, hnegative, h]
    cases n.isInteger with
    | true => simp [hint, ofInt?]
    | false => simpa using hzero

/-- The numbers that are written as an integer of 32 bits: the integer, and for zero the float
    with a minus sign, too. -/
theorem ofNumber_of_value {n : Json.Number} {i : Int} (hv : n.value = i)
    (hlow : -0x80000000 ≤ i) (hhigh : i ≤ 0x7FFFFFFF) :
    ofNumber n = int (Int32.ofInt i) ∨ i = 0 ∧ ofNumber n = ofFloat (-0) := by
  by_cases hdigits : n.numeral.digits = 0
  · have hint : n.numeral.toInt = 0 := by simp [Decimal.Numeral.toInt, hdigits]
    have hzero : n.value = 0 := by simp [Json.Number.value, Decimal.Numeral.value, hint]
    obtain rfl : i = 0 := by exact_mod_cast hv.symm.trans hzero
    rw [ofNumber_of_digits hdigits]
    split
    · exact Or.inr ⟨rfl, rfl⟩
    · exact Or.inl rfl
  · left
    have hsigned : (!n.numeral.negative || n.numeral.digits != 0) = true := by simp [hdigits]
    rw [Json.Number.value] at hv
    split at hv
    · next hinteger =>
      have hi : n.numeral.toInt = i := by exact_mod_cast hv
      simp only [ofNumber, hinteger, hsigned, Bool.and_true, if_true, hi]
      rw [ofInt?, if_pos ⟨hlow, hhigh⟩, Option.getD_some]
    · next hfraction =>
      have hi : i ≠ 0 := by
        rintro rfl
        have hpow : (10 : ℚ) ^ n.numeral.scale ≠ 0 := zpow_ne_zero _ (by norm_num)
        have hzero : n.numeral.toInt = 0 := by
          simpa [Decimal.Numeral.value, hpow] using hv
        exact hdigits (by rw [← Decimal.Numeral.natAbs_toInt, hzero, Int.natAbs_zero])
      have hfloat := Decimal.Numeral.toFloat_of_value hi (by omega) hv
      simp only [ofNumber, Bool.eq_false_iff.mpr hfraction, Bool.false_and, Bool.false_eq_true,
        if_false]
      rw [hfloat, ofFloat_ofInt hlow hhigh]

/-- A number that is an integer of 32 bits is written by the digits of the integer. -/
theorem document_ofNumber {n : Json.Number} {i : Int} (hv : n.value = i)
    (hlow : -0x80000000 ≤ i) (hhigh : i ≤ 0x7FFFFFFF) :
    (ofNumber n).document = .number (toString i) := by
  rcases ofNumber_of_value hv hlow hhigh with h | ⟨rfl, h⟩
  · rw [h]
    change Json.Document.number (toString (Int32.ofInt i).toInt) = _
    rw [Int32.toInt_ofInt_of_le hlow (by omega)]
  · rw [h]
    rfl

end ScriptNumber

end HostBridge
