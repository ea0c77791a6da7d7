import HostBridge.Text.CodePoint
import HostBridge.Text.Hex

/-!
# Percent codes

Text inside addresses: characters that have a meaning there, and those that are not
ASCII, are written as the percent codes of their bytes. The older escape codes, which
write 16-bit units, stand beside them.

## Main definitions

- `Text.percentEncode`, `Text.percentDecode` — percent codes of bytes
- `Text.escapeUnits`, `Text.unescapeUnits` — escape codes of units
- `Text.CodeError` — why a text has no code or is none
-/

namespace HostBridge.Text

/-- Why a text has no percent code or is none. -/
inductive CodeError where
  | loneTrail
  | loneLead
  | percentExpected
  | digitExpected
  | malformed
deriving DecidableEq, Repr

/-- The text of an error. -/
def CodeError.message : CodeError → String
  | loneTrail => "invalid character"
  | loneLead => "expecting surrogate pair"
  | percentExpected => "expecting %"
  | digitExpected => "expecting hex digit"
  | malformed => "malformed UTF-8"

/-- Marks that part an address. -/
def isAddressMark (c : Char) : Bool :=
  ";/?:@&=+$,#".toList.contains c

/-- Letters, digits and the marks that mean nothing in an address. -/
def isAddressText (c : Char) : Bool :=
  c.isAlphanum || "-_.!~*'()".toList.contains c

/-- A byte as a percent code. -/
def percentByte (n : Nat) : List Char :=
  '%' :: (hexPadded 2 n).toList.map Char.toUpper

/-- The percent code of a text. The marks that part an address stay, unless they are
    to be encoded too. -/
def percentEncode (marks : Bool) : CodePoints → Except CodeError (List Char)
  | [] => .ok []
  | .surrogate unit :: _ => .error (if unit < 0xDC00 then .loneLead else .loneTrail)
  | .scalar c :: rest => do
    let tail ← percentEncode marks rest
    if isAddressText c || (!marks && isAddressMark c) then return c :: tail
    else return (String.utf8EncodeChar c).flatMap (fun b => percentByte b.toNat) ++ tail

/-- Reads one percent code. -/
def percentCode : CodePoints → Except CodeError (Nat × CodePoints)
  | .scalar '%' :: .scalar a :: .scalar b :: rest =>
    match hexValue? [a, b] with
    | some n => .ok (n, rest)
    | none => .error .digitExpected
  | .scalar '%' :: _ => .error .digitExpected
  | _ => .error .percentExpected

/-- Reads the codes of the bytes behind a lead byte, into a value that starts at `n`.
    A byte that does not fit ends the reading with the value zero. -/
def percentTail (n : Nat) : Nat → CodePoints → Except CodeError (Nat × CodePoints)
  | 0, s => .ok (n, s)
  | count + 1, s => do
    let (b, rest) ← percentCode s
    if b / 0x40 = 2 then percentTail (0x40 * n + b % 0x40) count rest else return (0, rest)

/-- Number of bytes behind a lead byte, the bits it contributes and the least value that
    needs as many bytes. -/
def leadByte (b : Nat) : Nat × Nat × Nat :=
  if 0xC0 ≤ b && b ≤ 0xDF then (1, b % 0x20, 0x80)
  else if 0xE0 ≤ b && b ≤ 0xEF then (2, b % 0x10, 0x800)
  else if 0xF0 ≤ b && b ≤ 0xF7 then (3, b % 8, 0x10000)
  else (0, 0, 1)

/-- The character whose percent codes start a text. -/
def percentChar (s : CodePoints) : Except CodeError (Char × CodePoints) := do
  let (b, rest) ← percentCode s
  if b < 0x80 then return (Char.ofNat b, rest)
  else
    let (count, bits, least) := leadByte b
    let (n, rest) ← percentTail bits count rest
    if n < least || 0x10FFFF < n || (0xD800 ≤ n && n < 0xE000) then .error .malformed
    else return (Char.ofNat n, rest)

/-- Reads percent codes in a text of at most `fuel` code points. -/
def percentDecodeWithin (marks : Bool) : Nat → CodePoints → Except CodeError CodePoints
  | _, [] => .ok []
  | 0, _ => .ok []
  | fuel + 1, .scalar '%' :: rest => do
    let (c, afterCode) ← percentChar (.scalar '%' :: rest)
    if !marks && isAddressMark c then
      return .scalar '%' :: (← percentDecodeWithin marks fuel rest)
    else return .scalar c :: (← percentDecodeWithin marks fuel afterCode)
  | fuel + 1, p :: rest => do return p :: (← percentDecodeWithin marks fuel rest)

/-- The text that a percent code stands for. Codes of the marks that part an address
    stay, unless they are to be decoded too. -/
def percentDecode (marks : Bool) (s : CodePoints) : Except CodeError CodePoints :=
  percentDecodeWithin marks s.length s

/-- The escape code of a unit. -/
def escapeUnit (unit : UInt16) : List Char :=
  let n := unit.toNat
  if n < 0x80 && ((Char.ofNat n).isAlphanum || "@*_+-./".toList.contains (Char.ofNat n)) then
    [Char.ofNat n]
  else if n < 0x100 then percentByte n
  else '%' :: 'u' :: (hexPadded 4 n).toList.map Char.toUpper

/-- The escape code of a text. -/
def escapeUnits (s : CodePoints) : List Char :=
  s.units.flatMap escapeUnit

/-- Reads escape codes; what is none stays as it is. -/
def unescaped : CodePoints → CodePoints
  | .scalar '%' :: .scalar 'u' :: .scalar a :: .scalar b :: .scalar c :: .scalar d :: rest =>
    match hexValue? [a, b, c, d] with
    | some n => CodePoints.ofUnit (UInt16.ofNat n) :: unescaped rest
    | none => .scalar '%' ::
      unescaped (.scalar 'u' :: .scalar a :: .scalar b :: .scalar c :: .scalar d :: rest)
  | .scalar '%' :: .scalar a :: .scalar b :: rest =>
    match hexValue? [a, b] with
    | some n => .scalar (Char.ofNat n) :: unescaped rest
    | none => .scalar '%' :: unescaped (.scalar a :: .scalar b :: rest)
  | p :: rest => p :: unescaped rest
  | [] => []

/-- The text that an escape code stands for. -/
def unescapeUnits (s : CodePoints) : CodePoints :=
  CodePoints.joinPairs (unescaped s)

end HostBridge.Text
