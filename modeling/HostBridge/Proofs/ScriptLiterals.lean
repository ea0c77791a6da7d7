import HostBridge.Proofs.JsonLexing
import HostBridge.Script.Literal
import Mathlib.Algebra.Group.Nat.Defs

/-!
# Literals that scripts read

The literals of scripts are longer than those of the host: a number may end with its point and may
have zeros behind its minus, and an unknown escape stands for the character behind the backslash.
So a literal that the host reads is one that scripts read, with the same value. A number must not
go on behind it, since scripts read as much of it as they can.

## Main results

- `Script.scanString_of_scanString` — string literals
- `Script.scanNumber_of_scanNumber` — numbers
-/

namespace HostBridge

-- ════════════════════════════════════════════════════════════════════════
-- Literals
-- ════════════════════════════════════════════════════════════════════════

namespace Text

theorem hexDigit?_lt {c : Char} {n : Nat} (h : hexDigit? c = some n) : n < 16 := by
  unfold hexDigit? at h
  simp only [Bool.and_eq_true, decide_eq_true_eq, Char.le_def, UInt32.le_iff_toNat_le] at h
  split at h
  · next hc =>
    obtain rfl := Option.some.inj h
    have hlow : 48 ≤ c.toNat := hc.1
    have hhigh : c.toNat ≤ 57 := hc.2
    change c.toNat - 48 < 16
    omega
  · split at h
    · next hc =>
      obtain rfl := Option.some.inj h
      have hhigh : c.toNat ≤ 102 := hc.2
      change c.toNat - 97 + 10 < 16
      omega
    · split at h
      · next hc =>
        obtain rfl := Option.some.inj h
        have hhigh : c.toNat ≤ 70 := hc.2
        change c.toNat - 65 + 10 < 16
        omega
      · nomatch h

/-- Hexadecimal digits are a number below the power of their number. -/
theorem foldlM_hexDigit?_lt {s : List Char} {start n k : Nat}
    (h : s.foldlM (fun n c => (hexDigit? c).map (16 * n + ·)) start = some n)
    (hstart : start < 16 ^ k) : n < 16 ^ (k + s.length) := by
  induction s generalizing start k with
  | nil =>
    obtain rfl := Option.some.inj h
    exact hstart
  | cons c s ih =>
    obtain ⟨next, hnext, hrest⟩ := Option.bind_eq_some_iff.mp h
    obtain ⟨digit, hdigit, rfl⟩ := Option.map_eq_some_iff.mp hnext
    have hlt := hexDigit?_lt hdigit
    have hk : 16 * start + digit < 16 ^ (k + 1) := by
      rw [Nat.pow_succ]
      omega
    rw [List.length_cons, Nat.add_comm s.length, ← Nat.add_assoc]
    exact ih hrest hk

/-- Four hexadecimal digits are a unit. -/
theorem hexValue?_lt {a b c d : Char} {n : Nat} (h : hexValue? [a, b, c, d] = some n) :
    n < 0x10000 := by
  have hlt := foldlM_hexDigit?_lt (k := 0) h Nat.one_pos
  simp only [List.length_cons, List.length_nil] at hlt
  omega

end Text

namespace Script

open Json

theorem scanHex_of_hexUnit? {a b c d : Char} {unit : UInt16}
    (h : Token.hexUnit? a b c d = some unit) (rest : List Char) :
    scanHex 4 (a :: b :: c :: d :: rest) = some ([CodePoints.ofUnit unit], rest) := by
  obtain ⟨n, hn, rfl⟩ := Option.map_eq_some_iff.mp h
  have hlt := Text.hexValue?_lt hn
  unfold scanHex
  rw [if_neg (by simp)]
  simp [hn, ofNumber, hlt]

theorem scanEscape_of_hexUnit? {a b c d : Char} {unit : UInt16}
    (h : Token.hexUnit? a b c d = some unit) (rest : List Char) :
    scanEscape ('u' :: a :: b :: c :: d :: rest) = some ([CodePoints.ofUnit unit], rest) := by
  have ha : a ≠ '\x7b' := by
    rintro rfl
    nomatch h
  rw [scanEscape]
  · exact scanHex_of_hexUnit? h rest
  · rintro rest' heq
    exact ha (List.cons.inj heq).1

theorem scanEscape_of_escaped? {e c : Char} (h : Token.escaped? e = some c) (rest : List Char) :
    scanEscape (e :: rest) = some ([.scalar c], rest) := by
  unfold Token.escaped? at h
  split at h
  case h_9 => nomatch h
  all_goals
    obtain rfl := Option.some.inj h
    rfl

theorem scanStringWithin_escape {rest behind : List Char} {s : CodePoints}
    (h : scanEscape rest = some (s, behind)) (fuel : Nat) :
    scanStringWithin (fuel + 1) ('\\' :: rest) =
      (scanStringWithin fuel behind).map fun (t, tail) => (s ++ t, tail) := by
  rw [scanStringWithin, h]
  rintro rfl
  nomatch h

theorem scanStringWithin_plain {c : Char} (hlow : 0x20 ≤ c.toNat) (hquote : c ≠ '"')
    (hslash : c ≠ '\\') (fuel : Nat) (rest : List Char) :
    scanStringWithin (fuel + 1) (c :: rest) =
      (scanStringWithin fuel rest).map fun (t, tail) => (.scalar c :: t, tail) := by
  rw [scanStringWithin, if_neg (Nat.not_lt.mpr hlow)]
  · exact hquote
  · exact fun heq _ => hslash heq
  · exact hslash

/-- A string literal that the host reads is read alike. -/
theorem scanStringWithin_of_scanString {text tail : List Char} {s : CodePoints} {fuel : Nat}
    (h : Token.scanString text = some (s, tail)) (hfuel : text.length ≤ fuel) :
    scanStringWithin fuel text = .ok (s, tail) := by
  fun_induction Token.scanString text generalizing s tail fuel with
  | case1 => cases h
  | case2 rest =>
    cases h
    cases fuel <;> rfl
  | case3 a b c d rest unit p q hs hunit ih =>
    cases h
    obtain ⟨fuel, rfl⟩ : ∃ n, fuel = n + 1 := ⟨fuel - 1, by simp at hfuel; omega⟩
    have hlen : rest.length ≤ fuel := by
      simp only [List.length_cons] at hfuel
      omega
    rw [scanStringWithin_escape (scanEscape_of_hexUnit? hunit rest), ih hs hlen]
    rfl
  | case4 => simp_all
  | case5 e rest _ c p q hs he ih =>
    cases h
    obtain ⟨fuel, rfl⟩ : ∃ n, fuel = n + 1 := ⟨fuel - 1, by simp at hfuel; omega⟩
    have hlen : rest.length ≤ fuel := by
      simp only [List.length_cons] at hfuel
      omega
    rw [scanStringWithin_escape (scanEscape_of_escaped? he rest), ih hs hlen]
    rfl
  | case6 => simp_all
  | case7 => cases h
  | case8 c rest hquote _ _ hc ih =>
    obtain ⟨⟨p, q⟩, hs, heq⟩ := Option.map_eq_some_iff.mp h
    cases heq
    obtain ⟨hlow, hslash⟩ : 0x20 ≤ c.toNat ∧ c ≠ '\\' := by simpa using hc
    obtain ⟨fuel, rfl⟩ : ∃ n, fuel = n + 1 := ⟨fuel - 1, by simp at hfuel; omega⟩
    rw [scanStringWithin_plain hlow hquote hslash, ih hs (Nat.le_of_succ_le_succ hfuel)]
    rfl

theorem scanString_of_scanString {text tail : List Char} {s : CodePoints}
    (h : Token.scanString text = some (s, tail)) :
    scanString text = .ok (CodePoints.joinPairs s, tail) := by
  rw [scanString, scanStringWithin_of_scanString h (Nat.le_refl _)]
  rfl

-- ════════════════════════════════════════════════════════════════════════
-- Numbers
-- ════════════════════════════════════════════════════════════════════════

theorem spanExponent_of_scanExponent {s tail : List Char} {exponent : Option Int}
    (h : Token.scanExponent s = some (exponent, tail)) :
    Decimal.spanExponent s = (exponent, tail) := by
  cases s with
  | nil =>
    cases h
    rfl
  | cons c rest =>
    rw [Token.scanExponent] at h
    rw [Decimal.spanExponent]
    split at h
    · next hmark =>
      simp only at h
      split at h
      · cases h
      · next hdigits =>
        cases h
        simp only [if_pos hmark]
        rw [if_neg hdigits]
    · next hmark =>
      cases h
      rw [if_neg hmark]

theorem spanFraction_of_scanFraction (whole : List Char) {s fraction tail : List Char}
    (h : Token.scanFraction s = some (fraction, tail)) :
    ∃ digits, Decimal.spanFraction whole s = (digits, tail) ∧ digits.getD [] = fraction ∧
      digits.isNone = fraction.isEmpty := by
  unfold Token.scanFraction at h
  split at h
  · next rest =>
    simp only at h
    split at h
    · nomatch h
    · next hdigits =>
      cases h
      refine ⟨some (Decimal.spanDigits rest).1, ?_, rfl, (Bool.eq_false_iff.mpr hdigits).symm⟩
      simp only [Decimal.spanFraction]
      rw [if_neg (by simp [hdigits])]
  · next hpoint =>
    cases h
    refine ⟨none, ?_, rfl, rfl⟩
    unfold Decimal.spanFraction
    split
    · next rest => exact absurd rfl (hpoint rest)
    · rfl

/-- Behind the digits before the point stands no digit. -/
theorem isDigit_eq_false_of_scan {c : Char} {rest fraction behind tail : List Char}
    {exponent : Option Int} (hfraction : Token.scanFraction (c :: rest) = some (fraction, behind))
    (hexponent : Token.scanExponent behind = some (exponent, tail)) (hstops : Token.Stops tail) :
    c.isDigit = false := by
  refine Bool.eq_false_iff.mpr fun hdigit => ?_
  have hpoint : Token.scanFraction (c :: rest) = some ([], c :: rest) := by
    unfold Token.scanFraction
    split
    · next heq =>
      rw [(List.cons.inj heq).1] at hdigit
      exact absurd hdigit (by decide)
    · rfl
  obtain ⟨-, rfl⟩ := Prod.mk.inj (Option.some.inj (hpoint.symm.trans hfraction))
  have hmark : ¬(c = 'e' ∨ c = 'E') := by
    rintro (rfl | rfl) <;> exact absurd hdigit (by decide)
  rw [Token.scanExponent, if_neg hmark] at hexponent
  obtain ⟨-, rfl⟩ := Prod.mk.inj (Option.some.inj hexponent)
  rw [(hstops c rfl).1] at hdigit
  exact absurd hdigit Bool.false_ne_true

/-- Digits before the point are all that there are, if none stands behind them. -/
theorem spanDigits_of_scanWhole {s whole behind : List Char}
    (h : Token.scanWhole s = some (whole, behind))
    (hbehind : ∀ c ∈ behind.head?, c.isDigit = false) :
    Decimal.spanDigits s = (whole, behind) := by
  unfold Token.scanWhole at h
  split at h
  · cases h
    unfold Decimal.spanDigits
    cases behind with
    | nil => rfl
    | cons c rest =>
      have hc : ¬c.isDigit = true := Bool.eq_false_iff.mp (hbehind c rfl)
      rw [List.takeWhile_cons_of_pos rfl, List.takeWhile_cons_of_neg hc,
        List.dropWhile_cons_of_pos rfl, List.dropWhile_cons_of_neg hc]
  · simp only at h
    split at h
    · nomatch h
    · exact Option.some.inj h

/-- The digits before the point start with a digit. -/
theorem exists_digit_of_scanWhole {s whole behind : List Char}
    (h : Token.scanWhole s = some (whole, behind)) :
    (∃ c rest, s = c :: rest ∧ c.isDigit = true) ∧ whole.isEmpty = false := by
  unfold Token.scanWhole at h
  split at h
  · cases h
    exact ⟨⟨'0', behind, rfl, rfl⟩, rfl⟩
  · simp only at h
    split at h
    · cases h
    · next hdigits =>
      cases h
      have hempty : (Decimal.spanDigits s).1.isEmpty = false := Bool.eq_false_iff.mpr hdigits
      refine ⟨?_, hempty⟩
      cases s with
      | nil => exact absurd hempty (by decide)
      | cons c rest =>
        refine ⟨c, rest, rfl, ?_⟩
        refine Bool.not_eq_false _ ▸ fun hc => ?_
        rw [Decimal.spanDigits, List.takeWhile_cons_of_neg (Bool.eq_false_iff.mp hc)] at hempty
        exact absurd hempty (by simp)

/-- What a number that the host reads consists of. -/
theorem exists_parts_of_scanUnsigned {negative : Bool} {s tail : List Char} {n : Number}
    (h : Token.scanUnsigned negative s = some (n, tail)) :
    ∃ whole behind fraction rest exponent,
      Token.scanWhole s = some (whole, behind) ∧
      Token.scanFraction behind = some (fraction, rest) ∧
      Token.scanExponent rest = some (exponent, tail) ∧
      n = ⟨Decimal.Numeral.ofParts negative whole fraction (exponent.getD 0),
        fraction.isEmpty && exponent.isNone⟩ := by
  obtain ⟨⟨whole, behind⟩, hwhole, h⟩ := Option.bind_eq_some_iff.mp h
  obtain ⟨⟨fraction, rest⟩, hfraction, h⟩ := Option.bind_eq_some_iff.mp h
  obtain ⟨⟨exponent, tail'⟩, hexponent, h⟩ := Option.bind_eq_some_iff.mp h
  cases h
  exact ⟨whole, behind, fraction, rest, exponent, hwhole, hfraction, hexponent, rfl⟩

/-- Behind a leading zero stands no digit, and behind the digits before the point none does. -/
theorem head_isDigit_of_scan {behind fraction rest tail : List Char} {exponent : Option Int}
    (hfraction : Token.scanFraction behind = some (fraction, rest))
    (hexponent : Token.scanExponent rest = some (exponent, tail)) (hstops : Token.Stops tail) :
    ∀ c ∈ behind.head?, c.isDigit = false := by
  cases behind with
  | nil => exact fun c hc => nomatch hc
  | cons c behind =>
    intro d hd
    obtain rfl := Option.some.inj hd
    exact isDigit_eq_false_of_scan hfraction hexponent hstops

theorem scanUnsigned_of_scanUnsigned {negative : Bool} {s tail : List Char} {n : Number}
    (h : Token.scanUnsigned negative s = some (n, tail)) (hstops : Token.Stops tail) :
    scanUnsigned negative s = some (n, tail) := by
  obtain ⟨whole, behind, fraction, rest, exponent, hwhole, hfraction, hexponent, rfl⟩ :=
    exists_parts_of_scanUnsigned h
  have hdigits := spanDigits_of_scanWhole hwhole (head_isDigit_of_scan hfraction hexponent hstops)
  obtain ⟨-, hne⟩ := exists_digit_of_scanWhole hwhole
  obtain ⟨digits, hspan, hgetD, hnone⟩ := spanFraction_of_scanFraction whole hfraction
  simp only [scanUnsigned, Decimal.spanNumeral?, hdigits, hspan, hne, Bool.false_and,
    Bool.false_eq_true, if_false, spanExponent_of_scanExponent hexponent, Option.map_some, hgetD,
    hnone]

/-- A number that the host reads is read alike, if no number goes on behind it. -/
theorem scanNumber_of_scanNumber {s tail : List Char} {n : Number}
    (h : Token.scanNumber s = some (n, tail)) (hstops : Token.Stops tail) :
    scanNumber s = some (n, tail) := by
  by_cases hsign : s.head? = some '-'
  · obtain ⟨rest, rfl⟩ := List.head?_eq_some_iff.mp hsign
    rw [Token.scanNumber_minus] at h
    obtain ⟨_, _, _, _, _, hwhole, -⟩ := exists_parts_of_scanUnsigned h
    obtain ⟨⟨c, behind, rfl, hc⟩, -⟩ := exists_digit_of_scanWhole hwhole
    rw [scanNumber, if_pos hc, scanUnsigned_of_scanUnsigned h hstops]
  · rw [Token.scanNumber_of_ne_minus hsign] at h
    have hread := scanUnsigned_of_scanUnsigned h hstops
    obtain ⟨whole, behind, fraction, rest, exponent, hwhole, hfraction, hexponent, -⟩ :=
      exists_parts_of_scanUnsigned h
    obtain ⟨⟨c, digits, rfl, hc⟩, -⟩ := exists_digit_of_scanWhole hwhole
    rw [← hread]
    unfold scanNumber
    split
    · next heq => exact absurd (congrArg some (List.cons.inj heq).1) hsign
    · next d digits heq =>
      rw [heq] at hwhole
      obtain ⟨-, rfl⟩ := Prod.mk.inj (Option.some.inj hwhole)
      have hd := head_isDigit_of_scan hfraction hexponent hstops d rfl
      rw [if_neg (Bool.eq_false_iff.mp hd), heq]
    · next heq =>
      cases heq
      rw [if_pos hc]
    · next heq => nomatch heq

end Script

end HostBridge
