/-!
# Hexadecimal text

Numbers and bytes in hexadecimal digits, written in lower case and read in either.

## Main definitions

- `Text.hex`, `Text.hexPadded` — the digits of a number
- `Text.hexDigit?`, `Text.hexValue?` — the number that digits stand for
- `Text.hexBytes?` — the bytes that pairs of digits stand for
-/

namespace HostBridge.Text

/-- A whole number in lower-case hexadecimal digits. -/
def hex (n : Nat) : List Char :=
  Nat.toDigits 16 n

/-- A whole number in at least `width` lower-case hexadecimal digits. -/
def hexPadded (width n : Nat) : String :=
  let digits := hex n
  String.ofList (List.replicate (width - digits.length) '0' ++ digits)

/-- Value of a hexadecimal digit. -/
def hexDigit? (c : Char) : Option Nat :=
  if '0' ≤ c && c ≤ '9' then some (c.toNat - '0'.toNat)
  else if 'a' ≤ c && c ≤ 'f' then some (c.toNat - 'a'.toNat + 10)
  else if 'A' ≤ c && c ≤ 'F' then some (c.toNat - 'A'.toNat + 10)
  else none

/-- The number that hexadecimal digits stand for. -/
def hexValue? (s : List Char) : Option Nat :=
  s.foldlM (fun n c => (hexDigit? c).map (16 * n + ·)) 0

/-- The bytes that pairs of hexadecimal digits stand for. -/
def hexBytes? : List Char → Option (List UInt8)
  | [] => some []
  | [_] => none
  | a :: b :: rest => do return UInt8.ofNat (← hexValue? [a, b]) :: (← hexBytes? rest)

end HostBridge.Text
