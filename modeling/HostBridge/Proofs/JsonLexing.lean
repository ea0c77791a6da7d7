import HostBridge.Json.Document
import HostBridge.Json.Tree

/-!
# Tokens behind each other

The tokens of a text are read off it one by one, so what stands at its front decides the
first token. For each kind of token there is a law that says which text it is cut from: the
decimal digits of an integer, the escaped characters of a string literal, and the words.

## Main definitions

- `Json.Token.lex?_cons_of_scan` — the tokens of a text with a known first token
- `Json.Token.Stops` — a text with which no number goes on
- `Json.Token.scanNumber_int`, `Json.Token.scanString_escape` — integers and string literals
-/

namespace HostBridge.Json

/-- Integers that are written out. -/
def Number.ofInt (n : Int) : Number :=
  ⟨⟨n < 0, n.natAbs, 0⟩, true⟩

namespace Token

-- ════════════════════════════════════════════════════════════════════════
-- What a token leaves of a text
-- ════════════════════════════════════════════════════════════════════════

theorem length_scanWhole_lt {s whole tail : List Char} (h : scanWhole s = some (whole, tail)) :
    tail.length < s.length := by
  unfold scanWhole at h
  split at h
  · obtain ⟨-, rfl⟩ := Prod.mk.inj (Option.some.inj h)
    exact Nat.lt_succ_self _
  · simp only at h
    split at h
    · exact absurd h (by simp)
    · next hdigits =>
      obtain ⟨rfl, rfl⟩ := Prod.mk.inj (Option.some.inj h)
      have hsplit := congrArg List.length (Decimal.spanDigits_append s)
      have hpos : 0 < (Decimal.spanDigits s).1.length :=
        List.length_pos_iff.mpr fun hnil => hdigits (by rw [hnil]; rfl)
      rw [List.length_append] at hsplit
      omega

theorem length_scanFraction_le {s fraction tail : List Char}
    (h : scanFraction s = some (fraction, tail)) : tail.length ≤ s.length := by
  unfold scanFraction at h
  split at h
  · next rest =>
    simp only at h
    split at h
    · exact absurd h (by simp)
    · obtain ⟨-, rfl⟩ := Prod.mk.inj (Option.some.inj h)
      exact Nat.le_succ_of_le (Decimal.length_spanDigits_snd_le rest)
  · obtain ⟨-, rfl⟩ := Prod.mk.inj (Option.some.inj h)
    exact Nat.le_refl _

theorem length_splitSign_le (s : List Char) : (Decimal.splitSign s).2.length ≤ s.length := by
  unfold Decimal.splitSign
  split <;> simp

theorem length_scanExponent_le {s tail : List Char} {exponent : Option Int}
    (h : scanExponent s = some (exponent, tail)) : tail.length ≤ s.length := by
  unfold scanExponent at h
  split at h
  · next c rest =>
    split at h
    · simp only at h
      split at h
      · exact absurd h (by simp)
      · obtain ⟨-, rfl⟩ := Prod.mk.inj (Option.some.inj h)
        have hdigits := Decimal.length_spanDigits_snd_le (Decimal.splitSign rest).2
        have hsign := length_splitSign_le rest
        rw [List.length_cons]
        omega
    · obtain ⟨-, rfl⟩ := Prod.mk.inj (Option.some.inj h)
      exact Nat.le_refl _
  · obtain ⟨-, rfl⟩ := Prod.mk.inj (Option.some.inj h)
    exact Nat.le_refl _

/-- Reads a number behind its sign. -/
def scanUnsigned (negative : Bool) (s : List Char) : Option (Number × List Char) := do
  let (whole, afterWhole) ← scanWhole s
  let (fraction, afterFraction) ← scanFraction afterWhole
  let (exponent, tail) ← scanExponent afterFraction
  let numeral := Decimal.Numeral.ofParts negative whole fraction (exponent.getD 0)
  return (⟨numeral, fraction.isEmpty && exponent.isNone⟩, tail)

theorem scanNumber_minus (s : List Char) : scanNumber ('-' :: s) = scanUnsigned true s := rfl

theorem scanNumber_of_ne_minus {s : List Char} (h : s.head? ≠ some '-') :
    scanNumber s = scanUnsigned false s := by
  cases s with
  | nil => rfl
  | cons c rest =>
    have hc : c ≠ '-' := fun heq => h (congrArg some heq)
    unfold scanNumber
    split
    next hsign =>
      split at hsign
      · next heq => exact absurd (List.cons.inj heq).1 hc
      · obtain ⟨rfl, rfl⟩ := Prod.mk.inj hsign
        rfl

theorem length_scanUnsigned_lt {negative : Bool} {s tail : List Char} {n : Number}
    (h : scanUnsigned negative s = some (n, tail)) : tail.length < s.length := by
  obtain ⟨⟨whole, afterWhole⟩, hwhole, h⟩ := Option.bind_eq_some_iff.mp h
  obtain ⟨⟨fraction, afterFraction⟩, hfraction, h⟩ := Option.bind_eq_some_iff.mp h
  obtain ⟨⟨exponent, rest⟩, hexponent, h⟩ := Option.bind_eq_some_iff.mp h
  obtain ⟨-, rfl⟩ := Prod.mk.inj (Option.some.inj h)
  have h₁ := length_scanWhole_lt hwhole
  have h₂ := length_scanFraction_le hfraction
  have h₃ := length_scanExponent_le hexponent
  omega

theorem length_scanNumber_lt {s tail : List Char} {n : Number}
    (h : scanNumber s = some (n, tail)) : tail.length < s.length := by
  by_cases hsign : s.head? = some '-'
  · obtain ⟨rest, rfl⟩ := List.head?_eq_some_iff.mp hsign
    exact Nat.lt_succ_of_lt (length_scanUnsigned_lt h)
  · rw [scanNumber_of_ne_minus hsign] at h
    exact length_scanUnsigned_lt h

theorem length_scan_le {c : Char} {rest tail : List Char} {t : Token}
    (h : scan c rest = some (t, tail)) : tail.length ≤ rest.length := by
  unfold scan at h
  split at h
  case h_7 =>
    obtain ⟨⟨s, tail'⟩, hs, heq⟩ := Option.map_eq_some_iff.mp h
    obtain ⟨-, rfl⟩ := Prod.mk.inj heq
    exact Nat.le_of_lt (length_scanString_lt hs)
  case h_11 =>
    obtain ⟨⟨n, tail'⟩, hn, heq⟩ := Option.map_eq_some_iff.mp h
    obtain ⟨-, rfl⟩ := Prod.mk.inj heq
    exact Nat.le_of_lt_succ (length_scanNumber_lt hn)
  all_goals
    first
    | obtain ⟨-, rfl⟩ := Prod.mk.inj (Option.some.inj h)
      exact Nat.le_refl _
    | split at h
      · obtain ⟨-, rfl⟩ := Prod.mk.inj (Option.some.inj h)
        rw [List.length_drop]
        exact Nat.sub_le _ _
      · exact absurd h (by simp)

/-- A bound on the length of a text does not matter if the text keeps it. -/
theorem lexWithin?_of_length_le {fuel : Nat} {s : List Char} (h : s.length ≤ fuel) :
    lexWithin? fuel s = lex? s := by
  have hany (fuel fuel' : Nat) (s : List Char) (h : s.length ≤ fuel) (h' : s.length ≤ fuel') :
      lexWithin? fuel s = lexWithin? fuel' s := by
    induction fuel generalizing fuel' s with
    | zero =>
      obtain rfl := List.eq_nil_of_length_eq_zero (Nat.le_zero.mp h)
      cases fuel' <;> rfl
    | succ fuel ih =>
      cases s with
      | nil => cases fuel' <;> rfl
      | cons c rest =>
        obtain ⟨fuel', rfl⟩ : ∃ n, fuel' = n + 1 := ⟨fuel' - 1, by simp at h'; omega⟩
        have hrest : rest.length ≤ fuel := Nat.le_of_succ_le_succ h
        have hrest' : rest.length ≤ fuel' := Nat.le_of_succ_le_succ h'
        unfold lexWithin?
        rw [ih fuel' rest hrest hrest']
        split
        · rfl
        · refine Option.bind_congr fun ⟨t, tail⟩ hscan => ?_
          have htail : tail.length ≤ rest.length := length_scan_le hscan
          simp only [ih fuel' tail (Nat.le_trans htail hrest) (Nat.le_trans htail hrest')]
  exact hany fuel s.length s h (Nat.le_refl _)

@[simp] theorem lex?_nil : lex? [] = some [] := rfl

theorem lex?_cons_of_isSpace {c : Char} (hc : isSpace c = true) (rest : List Char) :
    lex? (c :: rest) = lex? rest := by
  rw [lex?, List.length_cons, lexWithin?, if_pos hc]
  rfl

/-- The token at the front of a text, and the tokens behind it. -/
theorem lex?_cons {c : Char} (hc : isSpace c = false) (rest : List Char) :
    lex? (c :: rest) = (scan c rest).bind fun (t, tail) => (lex? tail).map (t :: ·) := by
  rw [lex?, List.length_cons, lexWithin?, if_neg (Bool.eq_false_iff.mp hc)]
  refine Option.bind_congr fun ⟨t, tail⟩ hscan => ?_
  simp only [lexWithin?_of_length_le (length_scan_le hscan)]

theorem lex?_cons_of_scan {c : Char} {rest tail : List Char} {t : Token}
    (hc : isSpace c = false) (h : scan c rest = some (t, tail)) :
    lex? (c :: rest) = (lex? tail).map (t :: ·) := by
  rw [lex?_cons hc, h, Option.bind_some]

/-- The token that a character is by itself. -/
def mark? : Char → Option Token
  | '\x7b' => some .openObject
  | '\x7d' => some .closeObject
  | '[' => some .openArray
  | ']' => some .closeArray
  | ',' => some .comma
  | ':' => some .colon
  | _ => none

theorem lex?_mark {c : Char} {t : Token} (h : mark? c = some t) (rest : List Char) :
    lex? (c :: rest) = (lex? rest).map (t :: ·) := by
  unfold mark? at h
  split at h
  case h_7 => nomatch h
  all_goals
    obtain rfl := Option.some.inj h
    exact lex?_cons_of_scan rfl rfl

-- ════════════════════════════════════════════════════════════════════════
-- Integers
-- ════════════════════════════════════════════════════════════════════════

/-- A text with which a number does not go on. -/
def Stops (s : List Char) : Prop :=
  ∀ c ∈ s.head?, c.isDigit = false ∧ c ≠ '.' ∧ c ≠ 'e' ∧ c ≠ 'E'

theorem stops_nil : Stops [] :=
  fun _ h => absurd h (by simp)

theorem spanDigits_append_of_stops {digits rest : List Char}
    (hdigits : ∀ c ∈ digits, c.isDigit = true) (hrest : Stops rest) :
    Decimal.spanDigits (digits ++ rest) = (digits, rest) := by
  have hnone : rest.takeWhile Char.isDigit = [] ∧ rest.dropWhile Char.isDigit = rest := by
    cases rest with
    | nil => exact ⟨rfl, rfl⟩
    | cons c rest =>
      have hc : ¬c.isDigit = true := Bool.eq_false_iff.mp (hrest c rfl).1
      exact ⟨List.takeWhile_cons_of_neg hc, List.dropWhile_cons_of_neg hc⟩
  rw [Decimal.spanDigits, List.takeWhile_append_of_pos hdigits,
    List.dropWhile_append_of_pos hdigits, hnone.1, hnone.2, List.append_nil]

theorem isDigit_of_mem_toDigits {n : Nat} {c : Char} (h : c ∈ Nat.toDigits 10 n) :
    c.isDigit = true :=
  Nat.isDigit_of_mem_toDigits (by decide) (by decide) h

theorem exists_toDigits_eq_cons (n : Nat) :
    ∃ c tail, Nat.toDigits 10 n = c :: tail ∧ c.isDigit = true := by
  obtain ⟨c, tail, hdigits⟩ := List.exists_cons_of_ne_nil (Nat.toDigits_ne_nil (n := n) (b := 10))
  refine ⟨c, tail, hdigits, isDigit_of_mem_toDigits (n := n) ?_⟩
  rw [hdigits]
  exact List.mem_cons_self

/-- Only zero is written with a zero in front. -/
theorem toDigits_ne_zero_cons {n : Nat} (h : 0 < n) (tail : List Char) :
    Nat.toDigits 10 n ≠ '0' :: tail := by
  induction n using Nat.strongRecOn generalizing tail with
  | ind n ih =>
    by_cases hn : n < 10
    · have hone : ∀ m < 10, 0 < m → m.digitChar ≠ '0' := by decide
      rw [Nat.toDigits_of_lt_base hn]
      exact fun heq => hone n hn h (List.cons.inj heq).1
    · have hle : 10 ≤ n := Nat.not_lt.mp hn
      obtain ⟨c, front, hfront, -⟩ := exists_toDigits_eq_cons (n / 10)
      rw [Nat.toDigits_of_base_le (by decide) hle, hfront]
      rintro heq
      refine ih (n / 10) (Nat.div_lt_self h (by decide)) (Nat.div_pos hle (by decide)) front ?_
      rw [hfront, (List.cons.inj heq).1]

theorem scanWhole_toDigits (n : Nat) {rest : List Char} (hrest : Stops rest) :
    scanWhole (Nat.toDigits 10 n ++ rest) = some (Nat.toDigits 10 n, rest) := by
  rcases Nat.eq_zero_or_pos n with rfl | hpos
  · rfl
  · unfold scanWhole
    split
    · next heq =>
      obtain ⟨c, tail, hdigits, -⟩ := exists_toDigits_eq_cons n
      rw [hdigits] at heq
      exact absurd (hdigits.trans (by rw [(List.cons.inj heq).1]))
        (toDigits_ne_zero_cons hpos tail)
    · rw [spanDigits_append_of_stops (fun c => isDigit_of_mem_toDigits) hrest]
      simp

theorem scanFraction_of_stops {s : List Char} (h : Stops s) : scanFraction s = some ([], s) := by
  unfold scanFraction
  split
  · exact absurd rfl (h '.' rfl).2.1
  · rfl

theorem scanExponent_of_stops {s : List Char} (h : Stops s) :
    scanExponent s = some (none, s) := by
  cases s with
  | nil => rfl
  | cons c rest =>
    obtain ⟨-, -, hsmall, hlarge⟩ := h c rfl
    rw [scanExponent, if_neg (not_or.mpr ⟨hsmall, hlarge⟩)]

theorem valueOf_toDigits (n : Nat) : Decimal.valueOf (Nat.toDigits 10 n) = n :=
  Nat.ofDigitChars_eq_foldl.symm.trans Nat.ofDigitChars_ten_toDigits

theorem scanUnsigned_toDigits (negative : Bool) (n : Nat) {rest : List Char} (h : Stops rest) :
    scanUnsigned negative (Nat.toDigits 10 n ++ rest) = some (⟨⟨negative, n, 0⟩, true⟩, rest) := by
  simp only [scanUnsigned, Option.bind_eq_bind, Option.bind_some, scanWhole_toDigits n h,
    scanFraction_of_stops h, scanExponent_of_stops h, Decimal.Numeral.ofParts, List.append_nil,
    valueOf_toDigits]
  rfl

theorem toList_toString_int (n : Int) :
    (toString n).toList = if n < 0 then '-' :: Nat.toDigits 10 n.natAbs
      else Nat.toDigits 10 n.natAbs := by
  rw [Int.toString_eq_repr, Int.repr_eq_if]
  by_cases hn : n < 0
  · rw [if_neg (Int.not_le.mpr hn), if_pos hn, String.toList_append, Nat.toList_repr]
    have habs : (-n).toNat = n.natAbs := by omega
    rw [habs]
    rfl
  · rw [if_pos (Int.not_lt.mp hn), if_neg hn, Nat.toList_repr]
    have habs : n.toNat = n.natAbs := by omega
    rw [habs]

/-- The text of an integer is read as the integer. -/
theorem scanNumber_int (n : Int) {rest : List Char} (h : Stops rest) :
    scanNumber ((toString n).toList ++ rest) = some (Number.ofInt n, rest) := by
  rw [toList_toString_int]
  by_cases hn : n < 0
  · rw [if_pos hn, List.cons_append, scanNumber_minus, scanUnsigned_toDigits true _ h]
    simp [Number.ofInt, hn]
  · have hsign : (Nat.toDigits 10 n.natAbs ++ rest).head? ≠ some '-' := by
      obtain ⟨c, tail, hdigits, hc⟩ := exists_toDigits_eq_cons n.natAbs
      rw [hdigits]
      intro heq
      rw [Option.some.inj heq] at hc
      exact absurd hc (by decide)
    rw [if_neg hn, scanNumber_of_ne_minus hsign, scanUnsigned_toDigits false _ h]
    simp [Number.ofInt, hn]

/-- A text that starts with a digit or a minus sign is read as a number. -/
theorem scan_of_number {c : Char} {rest tail : List Char} {n : Number}
    (hc : c.isDigit = true ∨ c = '-') (h : scanNumber (c :: rest) = some (n, tail)) :
    scan c rest = some (.number n, tail) := by
  unfold scan
  split
  case h_11 => rw [h, Option.map_some]
  all_goals exact absurd hc (by decide)

theorem isSpace_of_number {c : Char} (hc : c.isDigit = true ∨ c = '-') : isSpace c = false := by
  refine Bool.eq_false_iff.mpr fun hspace => ?_
  simp only [isSpace, Bool.or_eq_true, decide_eq_true_eq] at hspace
  rcases hspace with ((rfl | rfl) | rfl) | rfl <;> exact absurd hc (by decide)

theorem lex?_int (n : Int) {rest : List Char} (h : Stops rest) :
    lex? ((toString n).toList ++ rest) = (lex? rest).map (.number (Number.ofInt n) :: ·) := by
  have hscan := scanNumber_int n h
  have hfront : ∃ c tail, (toString n).toList = c :: tail ∧ (c.isDigit = true ∨ c = '-') := by
    rw [toList_toString_int]
    split
    · exact ⟨'-', _, rfl, Or.inr rfl⟩
    · obtain ⟨c, tail, hdigits, hc⟩ := exists_toDigits_eq_cons n.natAbs
      exact ⟨c, tail, hdigits, Or.inl hc⟩
  obtain ⟨c, tail, htext, hc⟩ := hfront
  rw [htext, List.cons_append] at hscan ⊢
  exact lex?_cons_of_scan (isSpace_of_number hc) (scan_of_number hc hscan)

-- ════════════════════════════════════════════════════════════════════════
-- String literals
-- ════════════════════════════════════════════════════════════════════════

theorem scanString_quote (rest : List Char) : scanString ('"' :: rest) = some ([], rest) := by
  rw [scanString]

theorem scanString_escaped {e c : Char} (h : escaped? e = some c) (rest : List Char) :
    scanString ('\\' :: e :: rest) =
      (scanString rest).map fun (s, tail) => (.scalar c :: s, tail) := by
  have hunit : e ≠ 'u' := by
    rintro rfl
    nomatch h
  rw [scanString]
  · rw [h]
    cases scanString rest <;> rfl
  · rintro a b c d rest' heq -
    exact hunit heq

theorem scanString_unit {a b c d : Char} {unit : UInt16} (h : hexUnit? a b c d = some unit)
    (rest : List Char) :
    scanString ('\\' :: 'u' :: a :: b :: c :: d :: rest) =
      (scanString rest).map fun (s, tail) => (CodePoints.ofUnit unit :: s, tail) := by
  rw [scanString, h]
  cases scanString rest <;> rfl

theorem scanString_plain {c : Char} (hlow : 0x20 ≤ c.toNat) (hquote : c ≠ '"')
    (hslash : c ≠ '\\') (rest : List Char) :
    scanString (c :: rest) =
      (scanString rest).map fun (s, tail) => (.scalar c :: s, tail) := by
  rw [scanString]
  · rw [if_neg]
    simp [Nat.not_lt.mpr hlow, hslash]
  · exact hquote
  · rintro a b c' d rest' heq
    exact absurd heq hslash
  · rintro e rest' heq
    exact absurd heq hslash

/-- A control character is escaped by four digits that denote it. -/
theorem scanString_escapeUnit {n : Nat} (h : n < 0x20) (rest : List Char) :
    scanString (Document.escapeUnit n ++ rest) =
      (scanString rest).map fun (s, tail) => (.scalar (Char.ofNat n) :: s, tail) := by
  have hdigits : ∀ n < 0x20, Document.escapeUnit n =
      ['\\', 'u', '0', '0', Nat.digitChar (n / 16), Nat.digitChar (n % 16)] := by
    decide
  have hunits : ∀ n < 0x20, ∃ unit,
      hexUnit? '0' '0' (Nat.digitChar (n / 16)) (Nat.digitChar (n % 16)) = some unit ∧
        CodePoints.ofUnit unit = .scalar (Char.ofNat n) := by
    intro n hn
    refine ⟨UInt16.ofNat n, ?_, ?_⟩
    · revert n
      decide
    · revert n
      decide
  obtain ⟨unit, hunit, hpoint⟩ := hunits n h
  rw [hdigits n h, ← hpoint]
  exact scanString_unit hunit rest

/-- An escaped character is read as the character. -/
theorem scanString_escape (c : Char) (rest : List Char) :
    scanString (Document.escape (.scalar c) ++ rest) =
      (scanString rest).map fun (s, tail) => (.scalar c :: s, tail) := by
  unfold Document.escape
  simp only
  split
  case h_8 hquote hslash _ _ _ _ _ =>
    split
    · next hlow => rw [scanString_escapeUnit hlow, Char.ofNat_toNat]
    · next hlow => exact scanString_plain (Nat.not_lt.mp hlow) hquote hslash rest
  all_goals exact scanString_escaped rfl rest

theorem scanString_literal (s : List Char) (rest : List Char) :
    scanString ((CodePoints.ofChars s).flatMap Document.escape ++ '"' :: rest) =
      some (CodePoints.ofChars s, rest) := by
  induction s with
  | nil => exact scanString_quote rest
  | cons c s ih =>
    rw [CodePoints.ofChars, List.map_cons, List.flatMap_cons, List.append_assoc,
      scanString_escape]
    rw [show s.map CodePoint.scalar = CodePoints.ofChars s from rfl, ih]
    rfl

/-- The literal of a string is read as the string. -/
theorem lex?_literal (s : String) (rest : List Char) :
    lex? (Document.literal (CodePoints.ofString s) ++ rest) =
      (lex? rest).map (.string (CodePoints.ofString s) :: ·) := by
  have hscan : scan '"' ((CodePoints.ofString s).flatMap Document.escape ++ '"' :: rest) =
      some (.string (CodePoints.ofString s), rest) := by
    simp only [scan, CodePoints.ofString, scanString_literal, Option.map_some,
      CodePoints.joinPairs_ofChars]
  have htext : Document.literal (CodePoints.ofString s) ++ rest =
      '"' :: ((CodePoints.ofString s).flatMap Document.escape ++ '"' :: rest) := by
    simp [Document.literal]
  rw [htext]
  exact lex?_cons_of_scan rfl hscan

end Token

end HostBridge.Json
