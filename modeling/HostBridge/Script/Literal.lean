import HostBridge.Json.Token

/-!
# Literals of scripts

Scripts read object notation with more lenient literals than the host: a number may
end with its point and may have zeros behind its minus, and an unknown escape stands
for the character behind the backslash.

## Main definitions

- `NotationError` — why object notation cannot be read
- `Script.scanString`, `Script.scanNumber` — the literals
-/

namespace HostBridge

/-- Why a script cannot read object notation. -/
inductive NotationError where
  | endOfInput
  | endOfString
  /-- A character that starts no token. -/
  | character
  /-- A token that starts no value. -/
  | token (text : List Char)
  /-- A member of an object does not start with its name. -/
  | memberName
  /-- Another character has to follow. -/
  | expected (c : Char)
  | control
  | escape
  | trailing
  | nesting
deriving DecidableEq, Repr

/-- The text of a failure to read object notation. -/
def NotationError.message : NotationError → String
  | endOfInput => "unexpected end of input"
  | endOfString => "unexpected end of string"
  | character => "unexpected character"
  | token text => "unexpected token: '" ++ String.ofList text ++ "'"
  | memberName => "expecting property name"
  | expected c => "expecting '" ++ String.ofList [c] ++ "'"
  | control => "invalid character in a JSON string"
  | escape => "malformed escape sequence in string literal"
  | trailing => "unexpected data at the end"
  | nesting => "stack overflow"

namespace Script

open Json

/-- The code points of a number that braces enclose. -/
def ofNumber (n : Nat) : CodePoints :=
  [if n < 0x10000 then CodePoints.ofUnit (UInt16.ofNat n) else .scalar (Char.ofNat n)]

/-- Reads hexadecimal digits up to a closing brace, behind digits of the value `n`. -/
def scanBraced (n : Nat) : List Char → Option (CodePoints × List Char)
  | [] => none
  | c :: rest =>
    (Text.hexDigit? c).bind fun digit =>
      let value := 16 * n + digit
      if 0x10FFFF < value then none
      else match rest with
        | '\x7d' :: tail => some (ofNumber value, tail)
        | _ => scanBraced value rest

/-- Reads the given number of hexadecimal digits. -/
def scanHex (count : Nat) (s : List Char) : Option (CodePoints × List Char) :=
  if s.length < count then none
  else (Text.hexValue? (s.take count)).map fun n => (ofNumber n, s.drop count)

/-- Reads an escape behind its backslash. Ends of lines stand for nothing, digits are
    refused, and other characters without a meaning stand for themselves. -/
def scanEscape : List Char → Option (CodePoints × List Char)
  | [] => none
  | 'b' :: rest => some ([.scalar '\x08'], rest)
  | 'f' :: rest => some ([.scalar '\x0c'], rest)
  | 'n' :: rest => some ([.scalar '\n'], rest)
  | 'r' :: rest => some ([.scalar '\r'], rest)
  | 't' :: rest => some ([.scalar '\t'], rest)
  | 'v' :: rest => some ([.scalar '\x0b'], rest)
  | 'x' :: '\x7b' :: rest | 'u' :: '\x7b' :: rest => scanBraced 0 rest
  | 'x' :: rest => scanHex 2 rest
  | 'u' :: rest => scanHex 4 rest
  | '\r' :: '\n' :: rest => some ([], rest)
  | '\r' :: rest | '\n' :: rest | '\u2028' :: rest | '\u2029' :: rest => some ([], rest)
  | c :: rest => if c.isDigit then none else some ([.scalar c], rest)

/-- Reads a string literal behind its opening quote; `fuel` bounds its length. -/
def scanStringWithin : Nat → List Char → Except NotationError (CodePoints × List Char)
  | _, [] => .error .endOfString
  | _, '"' :: rest => .ok ([], rest)
  | 0, _ => .error .endOfString
  | _ + 1, ['\\'] => .error .endOfString
  | fuel + 1, '\\' :: rest =>
    match scanEscape rest with
    | none => .error .escape
    | some (s, afterEscape) =>
      (scanStringWithin fuel afterEscape).map fun (t, tail) => (s ++ t, tail)
  | fuel + 1, c :: rest =>
    if c.toNat < 0x20 then .error .control
    else (scanStringWithin fuel rest).map fun (t, tail) => (.scalar c :: t, tail)

/-- Reads a string literal behind its opening quote. -/
def scanString (s : List Char) : Except NotationError (CodePoints × List Char) :=
  (scanStringWithin s.length s).map fun (t, tail) => (CodePoints.joinPairs t, tail)

/-- Reads the digits of a number, its sign having been read. -/
def scanUnsigned (negative : Bool) (s : List Char) : Option (Number × List Char) :=
  (Decimal.spanNumeral? negative s).map fun (numeral, isInteger, tail) =>
    (⟨numeral, isInteger⟩, tail)

/-- Reads a number. It starts with a digit or with a minus and a digit; without a minus
    no digit may follow a leading zero. -/
def scanNumber : List Char → Option (Number × List Char)
  | '-' :: c :: rest => if c.isDigit then scanUnsigned true (c :: rest) else none
  | '0' :: c :: rest => if c.isDigit then none else scanUnsigned false ('0' :: c :: rest)
  | c :: rest => if c.isDigit then scanUnsigned false (c :: rest) else none
  | [] => none

end Script

end HostBridge
