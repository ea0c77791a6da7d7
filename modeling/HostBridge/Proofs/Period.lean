import HostBridge.Environment.Random
import Mathlib.Algebra.Ring.Periodic
import Mathlib.Data.UInt
import Mathlib.Dynamics.PeriodicPts.Lemmas
import Mathlib.Tactic.LinearCombination
import Mathlib.Tactic.Ring

/-!
# The period of a random stream

A stream steps from value to value by an affine map of 32-bit words. Its first state may have 64
bits, but the upper half has no say in any value. The factor of the map is one more than a multiple
of four, and its summand is odd. So `2 ^ k` steps move a word by an odd multiple of `2 ^ k`, which
is no step at all for `k = 32` only: no word comes back before all others have come.

## Main definitions

- `RandomStream.value` — the values of a stream, by their places
- `RandomStream.word`, `RandomStream.successor` — the word of a stream, and the one after a word
- `RandomStream.full_period` — all words come once before the stream repeats
-/

namespace HostBridge.RandomStream

open Function

-- ════════════════════════════════════════════════════════════════════════
-- Words
-- ════════════════════════════════════════════════════════════════════════

/-- The part of the state that has a say in values. -/
def word (r : RandomStream) : UInt32 :=
  r.state.toUInt32

/-- The word after a word. -/
def successor (w : UInt32) : UInt32 :=
  1664525 * w + 1013904223

theorem toUInt32_advance (state : UInt64) :
    (advance state).toUInt32 = successor state.toUInt32 := by
  have hreduced (x : UInt64) : (x % 4294967296).toUInt32 = x.toUInt32 := by
    apply UInt32.toNat_inj.mp
    simp
  rw [advance, hreduced, UInt64.toUInt32_add, UInt64.toUInt32_mul]
  rfl

theorem fst_next (r : RandomStream) : r.next.1 = successor r.word :=
  toUInt32_advance r.state

theorem word_next (r : RandomStream) : r.next.2.word = successor r.word :=
  toUInt32_advance r.state

/-- The stream after a number of values. -/
def skip (r : RandomStream) : ℕ → RandomStream
  | 0 => r
  | n + 1 => (r.skip n).next.2

/-- The value at a place, counted from zero. -/
def value (r : RandomStream) (n : ℕ) : UInt32 :=
  (r.skip n).next.1

theorem word_skip (r : RandomStream) (n : ℕ) : (r.skip n).word = successor^[n] r.word := by
  induction n with
  | zero => rfl
  | succ n ih => rw [skip, word_next, ih, ← iterate_succ_apply' successor]

theorem value_eq_iterate (r : RandomStream) (n : ℕ) :
    r.value n = successor^[n] (successor r.word) := by
  rw [value, fst_next, word_skip, ← iterate_succ_apply' successor, iterate_succ_apply]

-- ════════════════════════════════════════════════════════════════════════
-- Powers of two of steps
-- ════════════════════════════════════════════════════════════════════════

open scoped UInt32.CommRing

/-- `2 ^ k` steps of an affine map whose factor is one modulo four and whose summand is odd add an
odd multiple of `2 ^ k`. -/
theorem exists_iterate_two_pow {R : Type*} [CommRing R] (m n : R) (k : ℕ) :
    ∃ i j : R, ∀ x, (fun y => (1 + 4 * m) * y + (1 + 2 * n))^[2 ^ k] x =
      x + 2 ^ k * (1 + 2 * j + 4 * i * x) := by
  induction k with
  | zero =>
    refine ⟨m, n, fun x => ?_⟩
    simp only [pow_zero, iterate_one]
    ring
  | succ k ih =>
    obtain ⟨i, j, h⟩ := ih
    refine ⟨i + 2 ^ (k + 1) * i ^ 2, j + 2 ^ k * i * (1 + 2 * j), fun x => ?_⟩
    rw [pow_succ, mul_two, iterate_add_apply, h, h]
    ring

theorem iterate_successor_two_pow (k : ℕ) :
    ∃ i j : UInt32, ∀ w, successor^[2 ^ k] w = w + 2 ^ k * (1 + 2 * j + 4 * i * w) :=
  exists_iterate_two_pow 416131 506952111 k

theorem two_pow_thirtytwo : (2 : UInt32) ^ 32 = 0 := by
  decide +kernel

theorem iterate_successor_full (w : UInt32) : successor^[2 ^ 32] w = w := by
  obtain ⟨i, j, h⟩ := iterate_successor_two_pow 32
  rw [h, two_pow_thirtytwo, zero_mul, add_zero]

theorem iterate_successor_half (w : UInt32) : successor^[2 ^ 31] w ≠ w := by
  obtain ⟨i, j, h⟩ := iterate_successor_two_pow 31
  have hmoved : w + 2 ^ 31 * (1 + 2 * j + 4 * i * w) = w + 2 ^ 31 := by
    linear_combination (j + 2 * i * w) * two_pow_thirtytwo
  have hpow : (2 : UInt32) ^ 31 ≠ 0 := by
    decide +kernel
  rw [h, hmoved]
  intro hback
  exact hpow (add_eq_left.mp hback)

theorem minimalPeriod_successor (w : UInt32) : minimalPeriod successor w = 2 ^ 32 := by
  have : Fact (Nat.Prime 2) := ⟨Nat.prime_two⟩
  exact minimalPeriod_eq_prime_pow (iterate_successor_half w) (iterate_successor_full w)

theorem successor_injective : Injective successor := by
  intro v w h
  have hv : IsPeriodicPt successor (2 ^ 32) v := iterate_successor_full v
  have hw : IsPeriodicPt successor (2 ^ 32) w := iterate_successor_full w
  exact hv.eq_of_apply_eq_same hw (by norm_num) h

-- ════════════════════════════════════════════════════════════════════════
-- Values
-- ════════════════════════════════════════════════════════════════════════

theorem injOn_value (r : RandomStream) : Set.InjOn r.value (Set.Iio (2 ^ 32)) := by
  have hinj := iterate_injOn_Iio_minimalPeriod (f := successor) (x := successor r.word)
  rw [minimalPeriod_successor] at hinj
  intro m hm n hn h
  rw [value_eq_iterate, value_eq_iterate] at h
  exact hinj hm hn h

/-- There are as many places as words, so that every word has one. -/
theorem exists_value_eq (r : RandomStream) (w : UInt32) : ∃ n < 2 ^ 32, r.value n = w := by
  let places := Finset.range (2 ^ 32)
  have hinto : Set.MapsTo (fun n => (r.value n).toNat) places places := by
    intro n _
    simpa [places] using (r.value n).toNat_lt
  have hinj : Set.InjOn (fun n => (r.value n).toNat) places := by
    intro m hm n hn h
    exact r.injOn_value (by simpa [places] using hm) (by simpa [places] using hn)
      (UInt32.toNat_inj.mp h)
  have hw : w.toNat ∈ (places : Set ℕ) := by
    simpa [places] using w.toNat_lt
  obtain ⟨n, hn, hvalue⟩ := Finset.surjOn_of_injOn_of_card_le _ hinto hinj le_rfl hw
  exact ⟨n, by simpa [places] using hn, UInt32.toNat_inj.mp hvalue⟩

/-- A stream repeats after `2 ^ 32` values, among which every word comes exactly once, whatever the
seed. -/
theorem full_period (seed : UInt64) :
    Set.InjOn (new seed).value (Set.Iio (2 ^ 32)) ∧
      (∀ w, ∃! n, n < 2 ^ 32 ∧ (new seed).value n = w) ∧
      Periodic (new seed).value (2 ^ 32) := by
  have hinj := injOn_value (new seed)
  refine ⟨hinj, fun w => ?_, fun n => ?_⟩
  · obtain ⟨n, hn, hvalue⟩ := exists_value_eq (new seed) w
    refine ⟨n, ⟨hn, hvalue⟩, ?_⟩
    rintro m ⟨hm, hsame⟩
    exact hinj hm hn (hsame.trans hvalue.symm)
  · rw [value_eq_iterate, value_eq_iterate, iterate_add_apply, iterate_successor_full]

end HostBridge.RandomStream
