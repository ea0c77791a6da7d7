/-!
# Numerals

A numeral is a number as it is written: a sign, digits and a power of ten. This
module reads numerals from text and rounds them to floats. Which texts are numerals
differs between formats; the digits and the rounding do not.

## Main definitions

- `Decimal.Numeral` — a written number `± digits * 10 ^ scale`
- `Decimal.Numeral.toFloat` — the nearest 64-bit float
- `Decimal.readInt?` — an optional sign and digits, as an integer
- `Decimal.readFloat?` — free-standing number text, as a float
- `Decimal.spanNumeral?` — as much of a text as is a numeral
-/

namespace HostBridge.Decimal

/-- A written number `± digits * 10 ^ scale`. -/
structure Numeral where
  negative : Bool
  digits : Nat
  scale : Int
deriving DecidableEq, Repr

/-- The value of a word of decimal digits. -/
def valueOf (digits : List Char) : Nat :=
  digits.foldl (fun value c => 10 * value + (c.toNat - '0'.toNat)) 0

/-- Splits a text behind its leading decimal digits. -/
def spanDigits (s : List Char) : List Char × List Char :=
  (s.takeWhile Char.isDigit, s.dropWhile Char.isDigit)

theorem spanDigits_append (s : List Char) : (spanDigits s).1 ++ (spanDigits s).2 = s :=
  List.takeWhile_append_dropWhile

theorem length_spanDigits_snd_le (s : List Char) : (spanDigits s).2.length ≤ s.length := by
  have h := congrArg List.length (spanDigits_append s)
  rw [List.length_append] at h
  omega

/-- The numeral with the given sign, digits before and after the point, and exponent. -/
def Numeral.ofParts (negative : Bool) (whole fraction : List Char) (exponent : Int) : Numeral :=
  ⟨negative, valueOf (whole ++ fraction), exponent - fraction.length⟩

/-- The integer that a numeral with scale zero denotes. -/
def Numeral.toInt (n : Numeral) : Int :=
  if n.negative then -(n.digits : Int) else n.digits

/-- Number of decimal digits of a whole number. -/
def Numeral.size (n : Numeral) : Int :=
  (Nat.toDigits 10 n.digits).length

/-- The 64-bit float nearest to the numeral.

    Values of 10 ^ 310 and more are infinite and values below 10 ^ -330 are zero, so
    no greater power of ten than these is ever formed. -/
def Numeral.toFloat (n : Numeral) : Float :=
  let magnitude : Float :=
    if n.digits = 0 then 0
    else if 310 < n.scale + n.size then 1 / 0
    else if n.scale + n.size < -330 then 0
    else .ofModel (.ofScientific n.digits n.scale)
  if n.negative then -magnitude else magnitude

/-- Splits an optional sign off a text. -/
def splitSign : List Char → Bool × List Char
  | '-' :: rest => (true, rest)
  | '+' :: rest => (false, rest)
  | s => (false, s)

/-- Reads an optional sign and at least one digit, and nothing else. -/
def readInt? (s : List Char) : Option Int :=
  let (negative, digits) := splitSign s
  if digits.isEmpty || !digits.all Char.isDigit then none
  else some (if negative then -(valueOf digits : Int) else valueOf digits)

/-- Reads an integer in the range of 64-bit words. -/
def readInt64? (s : List Char) : Option Int64 :=
  (readInt? s).bind fun n =>
    if Int64.minValue.toInt ≤ n ∧ n ≤ Int64.maxValue.toInt then some (Int64.ofInt n) else none

/-- Reads an exponent mark, an optional sign and digits; an empty text is the exponent zero. -/
def readExponent? : List Char → Option Int
  | [] => some 0
  | c :: rest => if c = 'e' ∨ c = 'E' then readInt? rest else none

/-- Reads digits with an optional point, on at least one side of which there are
    digits, and an optional exponent. -/
def readNumeral? (negative : Bool) (s : List Char) : Option Numeral :=
  let (whole, afterWhole) := spanDigits s
  let (fraction, afterFraction) := match afterWhole with
    | '.' :: rest => spanDigits rest
    | rest => ([], rest)
  if whole.isEmpty && fraction.isEmpty then none
  else (readExponent? afterFraction).map (Numeral.ofParts negative whole fraction)

/-- Reads an exponent at the start of a text; where its digits are missing nothing is read. -/
def spanExponent (s : List Char) : Option Int × List Char :=
  match s with
  | [] => (none, [])
  | c :: rest =>
    if c = 'e' ∨ c = 'E' then
      let (negative, unsigned) := splitSign rest
      let (digits, tail) := spanDigits unsigned
      let size : Int := valueOf digits
      if digits.isEmpty then (none, s) else (some (if negative then -size else size), tail)
    else (none, s)

/-- Reads a point and the digits behind it at the start of a text. A point on neither
    side of which there is a digit is not read. -/
def spanFraction (whole s : List Char) : Option (List Char) × List Char :=
  match s with
  | '.' :: rest =>
    let (digits, tail) := spanDigits rest
    if whole.isEmpty && digits.isEmpty then (none, s) else (some digits, tail)
  | _ => (none, s)

/-- Reads as much of a text as is a numeral: digits with an optional point, on at least
    one side of which there are digits, and an optional exponent. The answer is the
    numeral, whether it has neither point nor exponent, and the text behind it. -/
def spanNumeral? (negative : Bool) (s : List Char) : Option (Numeral × Bool × List Char) :=
  let (whole, afterWhole) := spanDigits s
  let (fraction, afterFraction) := spanFraction whole afterWhole
  if whole.isEmpty && fraction.isNone then none
  else
    let (exponent, tail) := spanExponent afterFraction
    some (Numeral.ofParts negative whole (fraction.getD []) (exponent.getD 0),
      fraction.isNone && exponent.isNone, tail)

/-- Reads free-standing number text: an optional sign and a numeral, or one of the
    words `inf`, `infinity` and `nan` in any case. -/
def readFloat? (s : List Char) : Option Float :=
  let (negative, body) := splitSign s
  match String.ofList (body.map Char.toLower) with
  | "inf" | "infinity" => some (if negative then -(1 / 0) else 1 / 0)
  | "nan" => some (0 / 0)
  | _ => (readNumeral? negative body).map Numeral.toFloat

end HostBridge.Decimal
