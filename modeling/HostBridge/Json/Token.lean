import HostBridge.Decimal.Numeral
import HostBridge.Text.CodePoint
import HostBridge.Text.Hex

/-!
# Tokens of object notation

Object notation (RFC 8259) is read in two steps. This module cuts a text into
tokens; blanks are the space, the tab, the line feed and the carriage return.

## Main definitions

- `Json.Token` — one token
- `Json.Token.scanString`, `Json.Token.scanNumber` — string literals and numbers
- `Json.Token.lex?` — the tokens of a text
-/

namespace HostBridge.Json

/-- A number as it is written, and whether it has neither a fraction nor an exponent. -/
structure Number where
  numeral : Decimal.Numeral
  isInteger : Bool
deriving DecidableEq, Repr

/-- A token of object notation. -/
inductive Token where
  | openObject
  | closeObject
  | openArray
  | closeArray
  | comma
  | colon
  | null
  | bool (b : Bool)
  | number (n : Number)
  | string (s : CodePoints)
deriving DecidableEq, Repr

namespace Token

/-- Blanks between tokens. -/
def isSpace (c : Char) : Bool :=
  c = ' ' || c = '\t' || c = '\n' || c = '\r'

/-- The 16-bit unit that four hexadecimal digits denote. -/
def hexUnit? (a b c d : Char) : Option UInt16 :=
  (Text.hexValue? [a, b, c, d]).map UInt16.ofNat

/-- The character that a one-letter escape denotes. -/
def escaped? : Char → Option Char
  | '"' => some '"'
  | '\\' => some '\\'
  | '/' => some '/'
  | 'b' => some '\x08'
  | 'f' => some '\x0c'
  | 'n' => some '\n'
  | 'r' => some '\r'
  | 't' => some '\t'
  | _ => none

/-- Reads a string literal behind its opening quote, each escaped unit on its own:
    the code points and the text behind the closing quote. -/
def scanString : List Char → Option (CodePoints × List Char)
  | [] => none
  | '"' :: rest => some ([], rest)
  | '\\' :: 'u' :: a :: b :: c :: d :: rest =>
    match hexUnit? a b c d, scanString rest with
    | some unit, some (s, tail) => some (CodePoints.ofUnit unit :: s, tail)
    | _, _ => none
  | '\\' :: e :: rest =>
    match escaped? e, scanString rest with
    | some c, some (s, tail) => some (.scalar c :: s, tail)
    | _, _ => none
  | c :: rest =>
    if c.toNat < 0x20 || c = '\\' then none
    else (scanString rest).map fun (s, tail) => (.scalar c :: s, tail)

theorem length_scanString_lt {text tail : List Char} {s : CodePoints}
    (h : scanString text = some (s, tail)) : tail.length < text.length := by
  fun_induction scanString text generalizing s tail with
  | case1 => simp at h
  | case2 rest => simp_all
  | case3 a b c d rest unit p q hu hs ih => simp_all; have := ih; omega
  | case4 => simp_all
  | case5 e rest _ c p q he hs ih => simp_all; omega
  | case6 => simp_all
  | case7 => simp at h
  | case8 c rest _ _ _ hc ih =>
    obtain ⟨⟨p, q⟩, hp, hq⟩ := Option.map_eq_some_iff.1 h
    have := ih hp
    simp_all
    omega

/-- Reads the digits behind a point; a text without a point has an empty fraction. -/
def scanFraction : List Char → Option (List Char × List Char)
  | '.' :: rest =>
    let (digits, tail) := Decimal.spanDigits rest
    if digits.isEmpty then none else some (digits, tail)
  | s => some ([], s)

/-- Reads an exponent; a text without one has the exponent zero. -/
def scanExponent : List Char → Option (Option Int × List Char)
  | c :: rest =>
    if c = 'e' ∨ c = 'E' then
      let (negative, unsigned) := Decimal.splitSign rest
      let (digits, tail) := Decimal.spanDigits unsigned
      let size : Int := Decimal.valueOf digits
      if digits.isEmpty then none else some (some (if negative then -size else size), tail)
    else some (none, c :: rest)
  | [] => some (none, [])

/-- Reads the digits before the point: one zero, or digits that start with another. -/
def scanWhole : List Char → Option (List Char × List Char)
  | '0' :: rest => some (['0'], rest)
  | s =>
    let (digits, tail) := Decimal.spanDigits s
    if digits.isEmpty then none else some (digits, tail)

/-- Reads a number. -/
def scanNumber (s : List Char) : Option (Number × List Char) := do
  let (negative, unsigned) := match s with
    | '-' :: rest => (true, rest)
    | s => (false, s)
  let (whole, afterWhole) ← scanWhole unsigned
  let (fraction, afterFraction) ← scanFraction afterWhole
  let (exponent, tail) ← scanExponent afterFraction
  let numeral := Decimal.Numeral.ofParts negative whole fraction (exponent.getD 0)
  return (⟨numeral, fraction.isEmpty && exponent.isNone⟩, tail)

/-- Reads one token at the start of a text that does not start with a blank. -/
def scan (c : Char) (rest : List Char) : Option (Token × List Char) :=
  match c with
  | '\x7b' => some (.openObject, rest)
  | '\x7d' => some (.closeObject, rest)
  | '[' => some (.openArray, rest)
  | ']' => some (.closeArray, rest)
  | ',' => some (.comma, rest)
  | ':' => some (.colon, rest)
  | '"' => (scanString rest).map fun (s, tail) => (.string (CodePoints.joinPairs s), tail)
  | 'n' => if rest.take 3 = ['u', 'l', 'l'] then some (.null, rest.drop 3) else none
  | 't' => if rest.take 3 = ['r', 'u', 'e'] then some (.bool true, rest.drop 3) else none
  | 'f' =>
    if rest.take 4 = ['a', 'l', 's', 'e'] then some (.bool false, rest.drop 4) else none
  | c => (scanNumber (c :: rest)).map fun (n, tail) => (.number n, tail)

/-- The tokens of a text, of which `fuel` bounds the length. -/
def lexWithin? : Nat → List Char → Option (List Token)
  | _, [] => some []
  | 0, _ :: _ => none
  | fuel + 1, c :: rest =>
    if isSpace c then lexWithin? fuel rest
    else (scan c rest).bind fun (token, tail) =>
      (lexWithin? fuel tail).map (token :: ·)

/-- The tokens of a text; each token and each blank takes a character at least. -/
def lex? (s : List Char) : Option (List Token) :=
  lexWithin? s.length s

end Token

end HostBridge.Json
