import HostBridge.Decimal.Rounding
import Mathlib

/-!
# Integers as floats

A float is a sign, a mantissa and an exponent, and rounding depends on the number that a mantissa
and an exponent stand for alone. So an integer that a 64-bit float holds exactly may go through
one on its way into a shorter format: it is rounded once.

## Main results

- `Decimal.round_mul_two_pow` — rounding depends on the number alone
- `Decimal.unpack_pack_finite` — a float with all its digits comes back from its bits
- `Decimal.narrow_ofInt` — integers up to 2 ^ 53 are rounded once
-/

namespace HostBridge.Decimal

open Float.Model (UnpackedFloat totalExponent)
open Float.Model.UnpackedFloat

variable {spec : Float.Model.Format} {sign : Sign} {m n : Nat} {e t : Int}

-- ════════════════════════════════════════════════════════════════════════
-- Alignment
-- ════════════════════════════════════════════════════════════════════════

/-- A mantissa brought to an exponent, with what its digits below that come to. -/
def align (m : Nat) (e t : Int) : ExtendedMantissa × Int :=
  let p := decreaseExponent m e t
  shiftToExponent p.1 p.2 .exact t

theorem shiftRight_succ (em : ExtendedMantissa) (n : Nat) :
    em >>> (n + 1) = em.shiftRightOne >>> n := by
  change (n + 1).repeat ExtendedMantissa.shiftRightOne em =
    n.repeat ExtendedMantissa.shiftRightOne em.shiftRightOne
  induction n with
  | zero => rfl
  | succ n ih => exact congrArg ExtendedMantissa.shiftRightOne ih

theorem shiftRightOne_double (m : Nat) :
    (ExtendedMantissa.ofMantissaAndAccuracy (2 * m) .exact).shiftRightOne =
      .ofMantissaAndAccuracy m .exact := by
  simp [ExtendedMantissa.ofMantissaAndAccuracy, ExtendedMantissa.shiftRightOne]

/-- A digit zero behind a mantissa makes no difference. -/
theorem align_double (m : Nat) (e t : Int) : align (2 * m) (e - 1) t = align m e t := by
  unfold align decreaseExponent shiftToExponent
  rcases Int.lt_or_le t e with h | h
  · obtain ⟨k, hk⟩ := Int.eq_ofNat_of_zero_le (show 0 ≤ e - 1 - t by omega)
    have hpred : (e - 1 - t).toNat = k := by omega
    have hshift : (e - t).toNat = k + 1 := by omega
    have hdigits : (2 * m) <<< k = m <<< (k + 1) := by
      simp only [Nat.shiftLeft_eq]
      ring
    have hrest : e - 1 - (k : Int) = e - ((k + 1 : Nat) : Int) := by omega
    simp only [hpred, hshift, hdigits, hrest]
  · have hpred : (e - 1 - t).toNat = 0 := by omega
    have hzero : (e - t).toNat = 0 := by omega
    have hshift : (t - (e - 1)).toNat = (t - e).toNat + 1 := by omega
    have hsum : e - 1 + (((t - e).toNat + 1 : Nat) : Int) = e + ((t - e).toNat : Int) := by omega
    simp only [hpred, hzero, Nat.shiftLeft_zero, Int.natCast_zero, Int.sub_zero, hshift,
      shiftRight_succ, shiftRightOne_double, hsum]

theorem align_mul_two_pow (m k : Nat) (e t : Int) :
    align (m * 2 ^ k) (e - k) t = align m e t := by
  induction k with
  | zero => simp
  | succ k ih =>
    have hdigits : m * 2 ^ (k + 1) = 2 * (m * 2 ^ k) := by ring
    have hrest : e - ((k + 1 : Nat) : Int) = e - k - 1 := by omega
    rw [hdigits, hrest, align_double, ih]

/-- A mantissa that reaches below the exponent keeps its digits. -/
theorem align_of_le (h : t ≤ e) :
    align m e t = (.ofMantissaAndAccuracy (m <<< (e - t).toNat) .exact, t) := by
  have hstart : e - ((e - t).toNat : Int) = t := by omega
  unfold align decreaseExponent shiftToExponent
  simp only [hstart, Int.sub_self, Int.toNat_zero, Int.natCast_zero, Int.add_zero]
  rfl

-- ════════════════════════════════════════════════════════════════════════
-- Rounding
-- ════════════════════════════════════════════════════════════════════════

/-- The exponent that a format has for a number. -/
def exponentIn (spec : Float.Model.Format) (m : Nat) (e : Int) : Int :=
  spec.targetExponent (totalExponent m e)

theorem totalExponent_double (hm : 0 < m) (e : Int) :
    totalExponent (2 * m) (e - 1) = totalExponent m e := by
  rw [totalExponent, totalExponent, Nat.log2_two_mul hm.ne']
  omega

theorem totalExponent_shiftLeft (hm : 0 < m) (e : Int) (k : Nat) :
    totalExponent (m <<< k) (e - k) = totalExponent m e := by
  induction k with
  | zero => simp
  | succ k ih =>
    have hdigits : m <<< (k + 1) = 2 * (m <<< k) := by
      simp only [Nat.shiftLeft_eq]
      ring
    have hrest : e - ((k + 1 : Nat) : Int) = e - k - 1 := by omega
    rw [hdigits, hrest, totalExponent_double (by simpa [Nat.shiftLeft_eq] using hm), ih]

/-- What is left to do once a mantissa is aligned: it is rounded, and if that gives it a digit
    more it is aligned again. -/
def settle (spec : Float.Model.Format) (sign : Sign) (p : ExtendedMantissa × Int) : UnpackedFloat :=
  let q := shiftToTargetExponent spec p.1.roundedMantissa p.2 .exact
  if h : q.1.mantissa = 0 then .zero sign
  else .finite sign q.1.mantissa q.2 (Nat.pos_of_ne_zero h)

theorem roundWithAccuracy_eq_settle (acc : Accuracy) :
    roundWithAccuracy spec sign m e acc =
      settle spec sign (shiftToTargetExponent spec m e acc) := rfl

theorem round_eq_settle (hm : 0 < m) :
    round spec sign m e = settle spec sign (align m e (exponentIn spec m e)) := by
  let p := decreaseExponent m e (exponentIn spec m e)
  have htotal : totalExponent p.1 p.2 = totalExponent m e := totalExponent_shiftLeft hm e _
  change roundWithAccuracy spec sign p.1 p.2 .exact = _
  rw [roundWithAccuracy_eq_settle, shiftToTargetExponent, htotal]
  rfl

/-- Rounding depends on the number alone that a mantissa and an exponent stand for. -/
theorem round_mul_two_pow (hm : 0 < m) (k : Nat) :
    round spec sign (m * 2 ^ k) (e - k) = round spec sign m e := by
  have htotal := totalExponent_shiftLeft hm e k
  rw [Nat.shiftLeft_eq] at htotal
  rw [round_eq_settle (Nat.mul_pos hm (Nat.two_pow_pos k)), round_eq_settle hm, exponentIn, htotal,
    align_mul_two_pow, exponentIn]

theorem shiftToTargetExponent_of_exponentIn (h : exponentIn spec m e = e) :
    shiftToTargetExponent spec m e .exact = (.ofMantissaAndAccuracy m .exact, e) := by
  change shiftToExponent m e .exact (exponentIn spec m e) = _
  rw [h, shiftToExponent, Int.sub_self, Int.toNat_zero, Int.natCast_zero, Int.add_zero]
  rfl

/-- A number that has the exponent of its format is not rounded. -/
theorem round_of_exponentIn (hm : 0 < m) (h : exponentIn spec m e = e) :
    round spec sign m e = .finite sign m e hm := by
  have hkept := shiftToTargetExponent_of_exponentIn h
  have halign : align m e e = (.ofMantissaAndAccuracy m .exact, e) := by
    rw [align_of_le le_rfl, Int.sub_self, Int.toNat_zero, Nat.shiftLeft_zero]
  have hrounded : (ExtendedMantissa.ofMantissaAndAccuracy m .exact).roundedMantissa = m := rfl
  rw [round_eq_settle hm, h, halign, settle]
  simp only [hrounded, hkept]
  exact dif_neg hm.ne'

-- ════════════════════════════════════════════════════════════════════════
-- Floats with all their digits
-- ════════════════════════════════════════════════════════════════════════

/-- A mantissa and an exponent that 64 bits hold, with the first digit of the mantissa in the
    place that is not written. -/
structure Normal (m : Nat) (e : Int) : Prop where
  digits : m.log2 = 52
  least : -1074 ≤ e
  greatest : e ≤ 971

theorem Normal.pos (h : Normal m e) : 0 < m := by
  rcases Nat.eq_zero_or_pos m with rfl | hm
  · exact absurd h.digits (by decide)
  · exact hm

theorem Normal.round_eq (h : Normal m e) :
    round .binary64 sign m e = .finite sign m e h.pos := by
  have hleast := h.least
  refine round_of_exponentIn h.pos ?_
  rw [exponentIn, totalExponent, h.digits]
  change max (((52 : Nat) : Int) + 1 + e - 53) (-1074) = e
  omega

/-- The first digit of a mantissa need not be written. -/
theorem toNat_append_ofNat (h : m.log2 = 52) : (1#1 ++ BitVec.ofNat 52 m).toNat = m := by
  have hpos : m ≠ 0 := by
    rintro rfl
    exact absurd h (by decide)
  obtain ⟨hlow, hhigh⟩ := (Nat.log2_eq_iff hpos).mp h
  rw [BitVec.toNat_append, ← Nat.shiftLeft_add_eq_or_of_lt (BitVec.isLt _), BitVec.toNat_ofNat]
  simp only [Nat.shiftLeft_eq, BitVec.toNat_ofNat]
  omega

/-- A float with all its digits comes back from its bits. -/
theorem Normal.unpack_pack (h : Normal m e) :
    unpack .binary64 (pack .binary64 (.finite sign m e h.pos)) = .finite sign m e h.pos := by
  obtain ⟨b, hb⟩ := Int.eq_ofNat_of_zero_le (show 0 ≤ e + 1075 by have := h.least; omega)
  have hlow : 1 ≤ b := by have := h.least; omega
  have hhigh : b ≤ 2046 := by have := h.greatest; omega
  have hpack : pack .binary64 (.finite sign m e h.pos) =
      packComponents .binary64 sign (.ofNat 11 b) (.ofNat 52 m) := by
    have hbiased :
        (e + (Float.Model.Format.binary64.exponentBias : Int) + (52 : Nat)).toNat = b := by
      change (e + 1023 + 52).toNat = b
      omega
    rw [pack]
    simp only [hbiased, h.digits]
    rw [if_neg (by omega), if_pos (by rfl)]
  have hexponent : (BitVec.ofNat 11 b).toNat = b := by
    rw [BitVec.toNat_ofNat]
    omega
  have hspecial : BitVec.ofNat 11 b ≠ -1#11 := by
    refine fun heq => absurd (congrArg BitVec.toNat heq) ?_
    rw [hexponent]
    exact Nat.ne_of_lt (Nat.lt_of_le_of_lt hhigh (by decide))
  have hzero : BitVec.ofNat 11 b ≠ 0#11 := by
    refine fun heq => absurd (congrArg BitVec.toNat heq) ?_
    rw [hexponent]
    exact Nat.ne_of_gt hlow
  rw [hpack, unpack]
  simp only [unpackMantissa_packComponents, unpackExponent_packComponents,
    unpackSign_packComponents, Sign.ofBitVec_toBitVec, hexponent]
  rw [if_neg hspecial, if_neg hzero]
  simp only [toNat_append_ofNat h.digits]
  congr 1
  change (b : Int) - (1023 + 52) = e
  omega

-- ════════════════════════════════════════════════════════════════════════
-- Integers
-- ════════════════════════════════════════════════════════════════════════

/-- An integer of at most 53 digits is a mantissa with all its digits, and so is the next one. -/
theorem exists_normal_of_le (hn : 0 < n) (hle : n ≤ 2 ^ 53) :
    ∃ m e, Normal m e ∧ (∀ t, align n 0 t = align m e t) ∧
      ∀ spec sign, round spec sign n 0 = round spec sign m e := by
  rcases Nat.lt_or_eq_of_le hle with hlt | rfl
  · have hlog : n.log2 ≤ 52 := Nat.le_of_lt_succ ((Nat.log2_lt hn.ne').mpr hlt)
    refine ⟨n * 2 ^ (52 - n.log2), 0 - (52 - n.log2 : Nat), ⟨?_, by omega, by omega⟩,
      fun t => (align_mul_two_pow n _ 0 t).symm, fun spec sign => (round_mul_two_pow hn _).symm⟩
    have htotal := totalExponent_shiftLeft hn 0 (52 - n.log2)
    rw [totalExponent, totalExponent, Nat.shiftLeft_eq] at htotal
    omega
  · refine ⟨2 ^ 52, 1, ⟨Nat.log2_two_pow, by omega, by omega⟩, fun t => ?_, fun spec sign => ?_⟩
    · exact align_mul_two_pow (2 ^ 52) 1 1 t
    · exact @round_mul_two_pow spec sign (2 ^ 52) 1 (Nat.two_pow_pos 52) 1

/-- An integer is zero, or rounded by its size under its sign. -/
theorem ofInt_cases (i : Int) :
    (i = 0 ∧ ∀ spec, ofInt spec i = .zero .positive) ∨
      0 < i.natAbs ∧ ∃ sign, sign.apply i.natAbs = i ∧
        ∀ spec, ofInt spec i = round spec sign i.natAbs 0 := by
  rcases Int.lt_trichotomy i 0 with h | rfl | h
  · refine Or.inr ⟨by omega, .negative, by change -(i.natAbs : Int) = i; omega, fun spec => ?_⟩
    rw [ofInt, UnpackedFloat.normalize, Int.compare_eq_lt.mpr h]
    have habs : (-i).toNat = i.natAbs := by omega
    simp only [habs]
  · exact Or.inl ⟨rfl, fun _ => rfl⟩
  · refine Or.inr ⟨by omega, .positive, by change (i.natAbs : Int) = i; omega, fun spec => ?_⟩
    rw [ofInt, UnpackedFloat.normalize, Int.compare_eq_gt.mpr h]
    have habs : i.toNat = i.natAbs := by omega
    simp only [habs]

/-- Integers that a 64-bit float holds come back from its bits as they were rounded. -/
theorem unpack_pack_ofInt {i : Int} (h : i.natAbs ≤ 2 ^ 53) :
    unpack .binary64 (pack .binary64 (ofInt .binary64 i)) = ofInt .binary64 i := by
  rcases ofInt_cases i with ⟨-, hzero⟩ | ⟨hpos, sign, -, hround⟩
  · rw [hzero]
    exact unpack_packedZero
  · obtain ⟨m, e, hnormal, -, hsame⟩ := exists_normal_of_le hpos h
    rw [hround, hsame, hnormal.round_eq, hnormal.unpack_pack]

/-- Integers up to 2 ^ 53 are rounded once on their way through a 64-bit float. -/
theorem narrow_ofInt {i : Int} (h : i.natAbs ≤ 2 ^ 53) :
    narrow (.ofModel (.ofInt i)) = .ofModel (.ofInt i) := by
  have hunpack : (Float.ofModel (.ofInt i)).toModel.unpack = ofInt .binary64 i :=
    unpack_pack_ofInt h
  rw [narrow, hunpack, Float32.Model.ofInt]
  rcases ofInt_cases i with ⟨-, hzero⟩ | ⟨hpos, sign, -, hround⟩
  · rw [hzero, hzero]
  · obtain ⟨m, e, hnormal, -, hsame⟩ := exists_normal_of_le hpos h
    rw [hround, hround, hsame, hsame, hnormal.round_eq]

end HostBridge.Decimal
