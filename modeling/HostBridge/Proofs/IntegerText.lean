import HostBridge.Host.Conversion
import HostBridge.Playground.Codecs
import HostBridge.Proofs.JsonLexing

/-!
# Integers in text slots

A text slot that holds a written integer is read without going through a float, so large
ids keep their last digits. The reader of integers comes first and takes every such text;
decoding then only brings the integer into the range of the type.

## Main definitions

- `IntegerText` — the texts at hand: blanks, a sign that may be missing, digits, blanks
- `IntegerText.value` — the integer that is meant
- `Slot.ReadsAs` — what the numeric views of a slot are if it is read exactly

## Main results

- `Slot.integer_text_reads_exactly`
-/

namespace HostBridge

namespace Text

theorem not_isBlank_of_isDigit {c : Char} (h : c.isDigit) : ¬ isBlank c := by
  obtain ⟨hlow, hhigh⟩ : 48 ≤ c.toNat ∧ c.toNat ≤ 57 := Char.isDigit_iff_toNat.mp h
  simp only [isBlank, Bool.or_eq_true, Bool.and_eq_true, decide_eq_true_eq, beq_iff_eq]
  omega

/-- Text without a blank at its front keeps its front. -/
theorem dropWhile_isBlank_append {body : List Char} (hne : body ≠ [])
    (hbody : ∀ c ∈ body, ¬ isBlank c) (rest : List Char) :
    (body ++ rest).dropWhile isBlank = body ++ rest := by
  obtain ⟨c, tail, rfl⟩ := List.exists_cons_of_ne_nil hne
  exact List.dropWhile_cons_of_neg (hbody c List.mem_cons_self)

/-- Trimming finds the text between two runs of blanks. -/
theorem trim_of_blanks {before body after : List Char} (hbefore : ∀ c ∈ before, isBlank c)
    (hne : body ≠ []) (hbody : ∀ c ∈ body, ¬ isBlank c) (hafter : ∀ c ∈ after, isBlank c) :
    trim (before ++ (body ++ after)) = body := by
  have hfront : (before ++ (body ++ after)).dropWhile isBlank = body ++ after := by
    rw [List.dropWhile_append_of_pos hbefore, dropWhile_isBlank_append hne hbody]
  have hback : (body ++ after).reverse.dropWhile isBlank = body.reverse := by
    rw [List.reverse_append,
      List.dropWhile_append_of_pos fun c hc => hafter c (List.mem_reverse.mp hc)]
    have h := dropWhile_isBlank_append (mt List.reverse_eq_nil_iff.mp hne)
      (fun c hc => hbody c (List.mem_reverse.mp hc)) []
    rwa [List.append_nil] at h
  rw [trim, hfront, hback, List.reverse_reverse]

end Text

-- ════════════════════════════════════════════════════════════════════════
-- Written integers
-- ════════════════════════════════════════════════════════════════════════

/-- What may stand before the digits of an integer. -/
inductive Sign where
  | unsigned
  | plus
  | minus
deriving DecidableEq, Repr

namespace Sign

/-- The sign as it is written. -/
def chars : Sign → List Char
  | unsigned => []
  | plus => ['+']
  | minus => ['-']

/-- The integer of the given size under the sign. -/
def apply : Sign → Nat → Int
  | unsigned, n => n
  | plus, n => n
  | minus, n => -n

theorem not_isBlank_of_mem_chars {sign : Sign} {c : Char} (h : c ∈ sign.chars) :
    ¬ Text.isBlank c := by
  cases sign with
  | unsigned => exact absurd h List.not_mem_nil
  | plus => rw [List.mem_singleton.mp h]; decide
  | minus => rw [List.mem_singleton.mp h]; decide

end Sign

/-- A text that is an integer: a sign that may be missing and one or more decimal
    digits, with any number of leading zeros, between blanks. -/
structure IntegerText where
  before : List Char
  sign : Sign
  digits : List Char
  after : List Char
  isBlank_before : ∀ c ∈ before, Text.isBlank c
  digits_ne_nil : digits ≠ []
  isDigit_digits : ∀ c ∈ digits, c.isDigit
  isBlank_after : ∀ c ∈ after, Text.isBlank c

namespace IntegerText

/-- The text with its blanks. -/
def text (t : IntegerText) : String :=
  String.ofList (t.before ++ ((t.sign.chars ++ t.digits) ++ t.after))

/-- The integer that the text denotes. -/
def value (t : IntegerText) : Int :=
  t.sign.apply (Nat.ofDigitChars 10 t.digits 0)

theorem trimmed_text (t : IntegerText) : Slot.trimmed t.text = t.sign.chars ++ t.digits := by
  rw [Slot.trimmed, text, String.toList_ofList]
  refine Text.trim_of_blanks t.isBlank_before ?_ ?_ t.isBlank_after
  · exact fun hnil => t.digits_ne_nil (List.append_eq_nil_iff.mp hnil).2
  · intro c hc
    rcases List.mem_append.mp hc with hsign | hdigit
    · exact Sign.not_isBlank_of_mem_chars hsign
    · exact Text.not_isBlank_of_isDigit (t.isDigit_digits c hdigit)

/-- A sign is split off the digits behind it; no digit is taken for a sign. -/
theorem splitSign_chars (t : IntegerText) :
    Decimal.splitSign (t.sign.chars ++ t.digits) = (decide (t.sign = .minus), t.digits) := by
  cases hsign : t.sign with
  | plus => rfl
  | minus => rfl
  | unsigned =>
    obtain ⟨c, tail, hdigits⟩ := List.exists_cons_of_ne_nil t.digits_ne_nil
    have hdigit : c.isDigit := t.isDigit_digits c (hdigits ▸ List.mem_cons_self)
    change Decimal.splitSign t.digits = (false, t.digits)
    rw [hdigits]
    unfold Decimal.splitSign
    split
    · next heq => exact absurd ((List.cons.inj heq).1 ▸ hdigit) (by decide)
    · next heq => exact absurd ((List.cons.inj heq).1 ▸ hdigit) (by decide)
    · rfl

theorem readInt?_chars (t : IntegerText) :
    Decimal.readInt? (t.sign.chars ++ t.digits) = some t.value := by
  have hvalue : Decimal.valueOf t.digits = Nat.ofDigitChars 10 t.digits 0 :=
    Nat.ofDigitChars_eq_foldl.symm
  have hdigits : (t.digits.isEmpty || !t.digits.all Char.isDigit) = false := by
    rw [List.isEmpty_eq_false_iff.mpr t.digits_ne_nil, List.all_eq_true.mpr t.isDigit_digits]
    rfl
  rw [Decimal.readInt?, splitSign_chars]
  simp only [hdigits, Bool.false_eq_true, if_false, hvalue, value]
  cases t.sign <;> rfl

/-- An integer in the range of words is read as itself, however long its text is. -/
theorem toInt64?_text (t : IntegerText) (hlow : Int64.minValue.toInt ≤ t.value)
    (hhigh : t.value ≤ Int64.maxValue.toInt) :
    (Slot.string t.text).toInt64? = some (Int64.ofInt t.value) := by
  have hread : Decimal.readInt64? (t.sign.chars ++ t.digits) = some (Int64.ofInt t.value) := by
    rw [Decimal.readInt64?, readInt?_chars, Option.bind_some, if_pos ⟨hlow, hhigh⟩]
  rw [Slot.toInt64?, trimmed_text, Slot.textToInt64?, hread]

/-- The decimal text of an integer, without blanks. -/
def ofInt (n : Int) : IntegerText where
  before := []
  sign := if n < 0 then .minus else .unsigned
  digits := Nat.toDigits 10 n.natAbs
  after := []
  isBlank_before := fun _ hc => absurd hc List.not_mem_nil
  digits_ne_nil := Nat.toDigits_ne_nil
  isDigit_digits := fun _ hc => Json.Token.isDigit_of_mem_toDigits hc
  isBlank_after := fun _ hc => absurd hc List.not_mem_nil

theorem text_ofInt (n : Int) : (ofInt n).text = toString n := by
  refine String.toList_inj.mp ?_
  rw [text, String.toList_ofList, Json.Token.toList_toString_int, ofInt, List.nil_append,
    List.append_nil]
  split <;> rfl

theorem value_ofInt (n : Int) : (ofInt n).value = n := by
  have hdigits : Nat.ofDigitChars 10 (ofInt n).digits 0 = n.natAbs :=
    Nat.ofDigitChars_ten_toDigits
  rw [value, hdigits, ofInt]
  by_cases hneg : n < 0
  · rw [if_pos hneg]
    change -(n.natAbs : Int) = n
    omega
  · rw [if_neg hneg]
    change (n.natAbs : Int) = n
    omega

end IntegerText

-- ════════════════════════════════════════════════════════════════════════
-- Decoding
-- ════════════════════════════════════════════════════════════════════════

variable {ε : Type} [Embedding ε]

namespace Slot

/-- The slot is read as the given integer: its view as a word is that integer, and the
    integer types decode it to the nearest integer of their range. -/
structure ReadsAs (codecs : Codecs ε) (handles : Handles ε) (s : Slot) (n : Int) : Prop where
  view : s.toInt64?.map Int64.toInt = some n
  int64 : Int64.toInt (ValueType.int64.decode codecs handles s) = n
  int32 : Int32.toInt (ValueType.int32.decode codecs handles s) =
    max Int32.minValue.toInt (min n Int32.maxValue.toInt)
  uint32 : (UInt32.toNat (ValueType.uint32.decode codecs handles s) : Int) =
    max 0 (min n 0xFFFFFFFF)
  uint64 : (UInt64.toNat (ValueType.uint64.decode codecs handles s) : Int) = max n 0

theorem toIntWithin_of_toInt64? {s : Slot} {n : Int64} (h : s.toInt64? = some n)
    (low high : Int) : s.toIntWithin low high = max low (min high n.toInt) := by
  rw [toIntWithin, h]

/-- What the integer types make of a slot is decided by its view as a word. -/
theorem readsAs_of_toInt64? (codecs : Codecs ε) (handles : Handles ε) {s : Slot} {n : Int64}
    (h : s.toInt64? = some n) : s.ReadsAs codecs handles n.toInt := by
  have hhigh := n.toInt_lt
  refine ⟨?view, ?int64, ?int32, ?uint32, ?uint64⟩
  case view => rw [h, Option.map_some]
  case int64 => rw [ValueType.decode, h, Option.getD_some]
  case int32 =>
    rw [ValueType.decode, toIntWithin_of_toInt64? h, Int32.toInt_ofInt_of_le,
      Int32.toInt_minValue, Int32.toInt_maxValue] <;> omega
  case uint32 =>
    rw [ValueType.decode, toIntWithin_of_toInt64? h, UInt32.toNat_ofNat_of_lt']
    · omega
    · change _ < 2 ^ 32
      omega
  case uint64 =>
    rw [ValueType.decode, toIntWithin_of_toInt64? h, UInt64.toNat_ofNat_of_lt']
    · omega
    · change _ < 2 ^ 64
      omega

/-- Integer text is read exactly. A text slot with a sign that may be missing and decimal
    digits between blanks is read as the integer it denotes whenever that is a word, and
    the decimal text of any word decodes to the word. -/
theorem integer_text_reads_exactly (codecs : Codecs ε) (handles : Handles ε) :
    (∀ t : IntegerText, Int64.minValue.toInt ≤ t.value → t.value ≤ Int64.maxValue.toInt →
      (Slot.string t.text).ReadsAs codecs handles t.value) ∧
    ∀ n : Int64, ValueType.int64.decode codecs handles (.string (toString n.toInt)) = n := by
  have hreads : ∀ t : IntegerText, Int64.minValue.toInt ≤ t.value → t.value ≤ Int64.maxValue.toInt →
      (Slot.string t.text).ReadsAs codecs handles t.value := by
    intro t hlow hhigh
    have h := readsAs_of_toInt64? codecs handles (t.toInt64?_text hlow hhigh)
    rw [Int64.toInt_minValue] at hlow
    rw [Int64.toInt_maxValue] at hhigh
    rwa [Int64.toInt_ofInt_of_le hlow (by omega)] at h
  refine ⟨hreads, fun n => Int64.toInt_inj.mp ?_⟩
  have hvalue := IntegerText.value_ofInt n.toInt
  have h := hreads (.ofInt n.toInt) (hvalue.symm ▸ n.minValue_le_toInt)
    (hvalue.symm ▸ n.toInt_le)
  rw [IntegerText.text_ofInt, hvalue] at h
  exact h.int64

/-- The greatest word with a sign and leading zeros between blanks, which no float equals, and
    the least word, whose digits alone are out of range. -/
theorem integer_text_reads_exactly_extremes :
    let greatest : IntegerText :=
      ⟨['\u3000'], .plus, "000000000000000000009223372036854775807".toList, ['\n', ' '],
        List.all_eq_true.mp rfl, by decide, List.all_eq_true.mp rfl, List.all_eq_true.mp rfl⟩
    let least : IntegerText :=
      ⟨[], .minus, "9223372036854775808".toList, [],
        List.all_eq_true.mp rfl, by decide, List.all_eq_true.mp rfl, List.all_eq_true.mp rfl⟩
    greatest.value = 9223372036854775807 ∧ least.value = -9223372036854775808 ∧
      (Slot.string greatest.text).ReadsAs (ε := Playground) {} {} 9223372036854775807 ∧
      (Slot.string least.text).ReadsAs (ε := Playground) {} {} (-9223372036854775808) := by
  intro greatest least
  have hgreatest : greatest.value = 9223372036854775807 := by decide
  have hleast : least.value = -9223372036854775808 := by decide
  obtain ⟨hreads, -⟩ := integer_text_reads_exactly (ε := Playground) {} {}
  refine ⟨hgreatest, hleast, ?_, ?_⟩
  · have h := hreads greatest (by rw [hgreatest]; decide) (by rw [hgreatest]; decide)
    rwa [hgreatest] at h
  · have h := hreads least (by rw [hleast]; decide) (by rw [hleast]; decide)
    rwa [hleast] at h

end Slot

end HostBridge
