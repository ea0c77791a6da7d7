import HostBridge.Decimal.Layout
import HostBridge.Decimal.Rounding
import HostBridge.Json.Document
import HostBridge.Json.Token

/-!
# Numbers of scripts

The engine keeps a whole number that fits 32 bits as an integer and any other number
as a float. Which of the two it is shows only where the engine tells the type.

## Main definitions

- `ScriptNumber` — a number
- `ScriptNumber.ofFloat`, `ofLiteral`, `ofNumber` — where numbers come from
- `ScriptNumber.text`, `ScriptNumber.document` — how they are written
- `ScriptNumber.parse`, `parsePrefix`, `parseInteger` — how they are read from text
-/

namespace HostBridge

/-- A number of a script. -/
inductive ScriptNumber where
  | int (n : Int32)
  | float (x : Float)

namespace ScriptNumber

/-- The value as a float. -/
def toFloat : ScriptNumber → Float
  | int n => Decimal.floatOfInt32 n
  | float x => x

/-- The value as a 32-bit integer; floats lose their fraction and saturate. -/
def toInt32 : ScriptNumber → Int32
  | int n => n
  | float x => Decimal.int32OfFloat x

/-- The number with a value: an integer if it can be one. Negative zero cannot. -/
def ofFloat (x : Float) : ScriptNumber :=
  let n := Decimal.int32OfFloat x
  if (Decimal.floatOfInt32 n).toBits = x.toBits then int n else float x

/-- The integer with a value, if it fits 32 bits. -/
def ofInt? (n : Int) : Option ScriptNumber :=
  if -0x80000000 ≤ n ∧ n ≤ 0x7FFFFFFF then some (int (Int32.ofInt n)) else none

/-- A whole number. -/
def ofNat (n : Nat) : ScriptNumber :=
  (ofInt? n).getD (float n.toFloat)

/-- The number that a literal denotes. A minus negates the number behind it, and so the
    least 32-bit integer is a float. -/
def ofLiteral (x : Float) : ScriptNumber :=
  if x == -0x80000000 then float x else ofFloat x

/-- The number that is written in object notation. -/
def ofNumber (n : Json.Number) : ScriptNumber :=
  let numeral := n.numeral
  if n.isInteger && (!numeral.negative || numeral.digits != 0) then
    (ofInt? numeral.toInt).getD (ofFloat numeral.toFloat)
  else ofFloat numeral.toFloat

/-- Whether a number is whole, fits 32 bits and is not negative zero. -/
def isInteger : ScriptNumber → Bool
  | int _ => true
  | float x => (Decimal.floatOfInt32 (Decimal.int32OfFloat x)).toBits == x.toBits

/-- Whether a number is neither infinite nor undefined. -/
def isFinite : ScriptNumber → Bool
  | int _ => true
  | float x => x.isFinite

/-- The fraction of whole numbers that a finite number is. -/
def fraction? : ScriptNumber → Option (Int × Nat)
  | int n => some (n.toInt, 1)
  | float x =>
    match Decimal.Binary.ofFloat x with
    | .finite negative magnitude =>
      let (numerator, denominator) := magnitude.fraction
      some (if negative then -(numerator : Int) else numerator, denominator)
    | _ => none

/-- A finite number without its fraction, wrapped to 32 bits; zero for any other. -/
def wrapInt32 (n : ScriptNumber) : Int32 :=
  match n.fraction? with
  | some (numerator, denominator) => Int32.ofInt (numerator.tdiv denominator)
  | none => 0

/-- Sum of two numbers. Only integers have an integer for a sum. -/
def add : ScriptNumber → ScriptNumber → ScriptNumber
  | int a, int b => (ofInt? (a.toInt + b.toInt)).getD (float (a.toFloat + b.toFloat))
  | a, b => float (a.toFloat + b.toFloat)

/-- Floats are written with the fewest digits that read back, positionally from the
    exponent -6 to the exponent 20, without the sign of zero. -/
def layout : Decimal.Layout where
  selection := ⟨.even, true⟩
  leastPositional := some (-6)
  greatestPositional := some 20
  pointZero := false
  plusSign := true
  signedZero := false
  nan := "NaN"
  infinity := "Infinity"

/-- The text of a number. -/
def text : ScriptNumber → String
  | int n => toString n.toInt
  | float x => layout.write (.ofFloat x)

/-- A number in object notation; one that is not finite is `null`. -/
def document (n : ScriptNumber) : Json.Document :=
  if n.isFinite then .number n.text else .null

/-- The number that is no number. -/
def nan : ScriptNumber := float (0 / 0)

/-- Blanks around a number in a text. -/
def isSpace (c : Char) : Bool :=
  let n := c.toNat
  (0x9 ≤ n && n ≤ 0xD) || n == 0x20 || n == 0xA0 || n == 0x1680 || (0x2000 ≤ n && n ≤ 0x200A) ||
    n == 0x2028 || n == 0x2029 || n == 0x202F || n == 0x205F || n == 0x3000 || n == 0xFEFF

/-- A text without the blanks before it. -/
def skipSpaces (s : List Char) : List Char :=
  s.dropWhile isSpace

/-- The float with a sign. -/
def signed (negative : Bool) (x : Float) : ScriptNumber :=
  ofFloat (if negative then -x else x)

/-- Reads as much of a text as is a decimal number: `Infinity` or a numeral, behind an
    optional sign. The answer holds the text behind it. -/
def spanDecimal? (s : List Char) : Option (ScriptNumber × List Char) :=
  let (negative, unsigned) := Decimal.splitSign s
  let word := "Infinity".toList
  if word.isPrefixOf unsigned then some (signed negative (1 / 0), unsigned.drop word.length)
  else
    (Decimal.spanNumeral? negative unsigned).map fun (numeral, _, tail) =>
      (ofFloat numeral.toFloat, tail)

/-- Value of a digit in bases up to 36. -/
def digit? (c : Char) : Option Nat :=
  if c.isDigit then some (c.toNat - '0'.toNat)
  else if 'a' ≤ c && c ≤ 'z' then some (c.toNat - 'a'.toNat + 10)
  else if 'A' ≤ c && c ≤ 'Z' then some (c.toNat - 'A'.toNat + 10)
  else none

/-- The digits in a base at the start of a text, and the text behind them. -/
def spanBase (base : Nat) : List Char → List Nat × List Char
  | [] => ([], [])
  | c :: rest =>
    match (digit? c).filter (· < base) with
    | none => ([], c :: rest)
    | some d =>
      let (digits, tail) := spanBase base rest
      (d :: digits, tail)

/-- The whole number with the given digits. -/
def ofDigits (base : Nat) (digits : List Nat) : Nat :=
  digits.foldl (fun n d => base * n + d) 0

/-- A whole number as the nearest float. -/
def wholeFloat (n : Nat) : Float :=
  (⟨false, n, 0⟩ : Decimal.Numeral).toFloat

/-- The leading digits that fit 64 bits, as a number, and how many digits are left. -/
def leadingDigits (base : Nat) (digits : List Nat) : Nat × Nat :=
  let limit := (0xFFFFFFFFFFFFFFFF - (base - 1)) / base
  digits.foldl (fun (n, left) d => if n ≤ limit then (base * n + d, left) else (n, left + 1)) (0, 0)

/-- Digits in a base as a float: the nearest one in base ten; in any other the leading
    digits are rounded, and once more when they are scaled by a power of the base. -/
def digitsFloat (base : Nat) (digits : List Nat) : Float :=
  if base = 10 then wholeFloat (ofDigits base digits)
  else
    let (n, left) := leadingDigits base digits
    let x := (UInt64.ofNat n).toFloat
    if left = 0 then x else x * base.toFloat.pow left.toFloat

/-- The base that a mark behind a leading zero stands for. -/
def baseOf? : Char → Option Nat
  | 'x' | 'X' => some 16
  | 'o' | 'O' => some 8
  | 'b' | 'B' => some 2
  | _ => none

/-- The base and the digits of a number that is marked with its base, if a text is one. -/
def parseMarked? : List Char → Option (Nat × List Nat)
  | '0' :: mark :: rest =>
    (baseOf? mark).bind fun base =>
      match spanBase base rest with
      | (d :: digits, []) => some (base, d :: digits)
      | _ => none
  | _ => none

/-- A text without the blanks at its two ends. -/
def trim (s : List Char) : List Char :=
  (skipSpaces (skipSpaces s).reverse).reverse

/-- The number that a whole text denotes; blank text is zero. -/
def parse (s : List Char) : ScriptNumber :=
  match trim s with
  | [] => int 0
  | t =>
    match parseMarked? t with
    | some (base, digits) => ofFloat (digitsFloat base digits)
    | none =>
      match spanDecimal? t with
      | some (n, []) => n
      | _ => nan

/-- The decimal number at the start of a text. -/
def parsePrefix (s : List Char) : ScriptNumber :=
  match spanDecimal? (skipSpaces s) with
  | some (n, _) => n
  | none => nan

/-- The whole number in a base at the start of a text. The base zero stands for ten,
    or for sixteen if the number is marked so. -/
def parseInteger (base : Int) (s : List Char) : ScriptNumber :=
  if base ≠ 0 ∧ (base < 2 ∨ 36 < base) then nan
  else
    let (negative, unsigned) := Decimal.splitSign (skipSpaces s)
    let (base, body) := match unsigned with
      | '0' :: 'x' :: rest | '0' :: 'X' :: rest =>
        if base = 0 ∨ base = 16 then (16, rest) else (base.toNat, unsigned)
      | _ => (if base = 0 then 10 else base.toNat, unsigned)
    match spanBase base body with
    | ([], _) => nan
    | (digits, _) => signed negative (digitsFloat base digits)

/-- The whole number that a text denotes; blank text is zero. -/
def parseWhole? (s : List Char) : Option Int :=
  match trim s with
  | [] => some 0
  | t =>
    match parseMarked? t with
    | some (base, digits) => some (ofDigits base digits)
    | none => Decimal.readInt? t

end ScriptNumber

end HostBridge
