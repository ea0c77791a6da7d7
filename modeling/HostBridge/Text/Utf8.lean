/-!
# UTF-8

The bytes of a text, reading of bytes that need not be well formed, and cutting a
text to a number of bytes without splitting a character.

## Main definitions

- `Text.utf8` — the bytes of a string
- `Text.decodeLossy` — reads bytes, each ill-formed stretch as one replacement character
- `Text.cutBytes` — the text up to the last character boundary within a limit
-/

namespace HostBridge.Text

/-- The UTF-8 bytes of a string. -/
def utf8 (s : String) : List UInt8 :=
  s.toList.flatMap String.utf8EncodeChar

/-- Length in bytes of the UTF-8 form of a text. -/
def byteLength (s : List Char) : Nat :=
  (s.map Char.utf8Size).foldr (· + ·) 0

/-- The ranges of bytes that may follow a lead byte, and the bits the lead byte contributes. -/
def continuation? (lead : UInt8) : Option (Nat × List (UInt8 × UInt8)) :=
  let tail : UInt8 × UInt8 := (0x80, 0xBF)
  if lead < 0x80 then some (lead.toNat, [])
  else if lead < 0xC2 then none
  else if lead < 0xE0 then some (lead.toNat - 0xC0, [tail])
  else if lead == 0xE0 then some (0, [(0xA0, 0xBF), tail])
  else if lead == 0xED then some (0xD, [(0x80, 0x9F), tail])
  else if lead < 0xF0 then some (lead.toNat - 0xE0, [tail, tail])
  else if lead == 0xF0 then some (0, [(0x90, 0xBF), tail, tail])
  else if lead < 0xF4 then some (lead.toNat - 0xF0, [tail, tail, tail])
  else if lead == 0xF4 then some (4, [(0x80, 0x8F), tail, tail])
  else none

/-- Reads the bytes that the ranges call for: the character, or none if a byte is
    missing or out of range, and the number of bytes that fitted. -/
def readTail (value count : Nat) : List (UInt8 × UInt8) → List UInt8 → Option Char × Nat
  | [], _ => (some (Char.ofNat value), count)
  | _ :: _, [] => (none, count)
  | (low, high) :: ranges, b :: rest =>
    if low ≤ b && b ≤ high then
      readTail (value * 0x40 + (b.toNat - 0x80)) (count + 1) ranges rest
    else (none, count)

/-- Reads bytes as UTF-8, with a replacement character for each longest stretch that
    starts a character and does not complete it, and for each other stray byte. -/
def decodeLossy (bytes : List UInt8) : List Char :=
  match bytes with
  | [] => []
  | lead :: rest =>
    match continuation? lead with
    | none => '\uFFFD' :: decodeLossy rest
    | some (value, ranges) =>
      let (c, count) := readTail value 0 ranges rest
      c.getD '\uFFFD' :: decodeLossy (rest.drop count)
termination_by bytes.length
decreasing_by all_goals simp only [List.length_cons, List.length_drop]; omega

/-- Whether a character starts or the text ends at byte `n`. -/
def isBoundary : List Char → Nat → Bool
  | _, 0 => true
  | [], _ + 1 => false
  | c :: rest, n + 1 => c.utf8Size ≤ n + 1 && isBoundary rest (n + 1 - c.utf8Size)

/-- The last boundary at or before byte `n`. -/
def floorBoundary (s : List Char) : Nat → Nat
  | 0 => 0
  | n + 1 => if isBoundary s (n + 1) then n + 1 else floorBoundary s n

/-- The characters that end at or before byte `n`. -/
def takeBytes : Nat → List Char → List Char
  | _, [] => []
  | n, c :: rest => if c.utf8Size ≤ n then c :: takeBytes (n - c.utf8Size) rest else []

/-- A text that is longer than the limit, cut at the last boundary within the limit. -/
def cutBytes (s : List Char) (limit : Nat) : List Char :=
  if byteLength s ≤ limit then s else takeBytes (floorBoundary s limit) s

end HostBridge.Text
