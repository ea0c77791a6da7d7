/-!
# Text with unpaired surrogates

A script string, and a string literal of object notation, may hold half of a
surrogate pair. Such text is a list of code points; text without halves is the same
thing as a string.

## Main definitions

- `CodePoint` — a scalar value or an unpaired surrogate
- `CodePoints.ofString`, `CodePoints.toString?` — conversion from and to strings
- `CodePoints.joinPairs` — replaces the two halves of a pair by the scalar value they encode
- `CodePoints.append` — concatenation
- `CodePoints.units`, `CodePoints.ofUnits` — the 16-bit units of a text
-/

namespace HostBridge

/-- A scalar value, or a surrogate that no partner completes. -/
inductive CodePoint where
  | scalar (c : Char)
  | surrogate (unit : UInt16)
deriving DecidableEq, Repr

/-- Text that may hold unpaired surrogates. -/
abbrev CodePoints := List CodePoint

namespace CodePoints

/-- The code points of a list of characters. -/
def ofChars (s : List Char) : CodePoints :=
  s.map .scalar

/-- The code points of a string. -/
def ofString (s : String) : CodePoints :=
  ofChars s.toList

/-- The characters of a text without unpaired surrogates. -/
def toChars? : CodePoints → Option (List Char)
  | [] => some []
  | .scalar c :: rest => (toChars? rest).map (c :: ·)
  | .surrogate _ :: _ => none

/-- The string with the given code points, if it has no unpaired surrogate. -/
def toString? (s : CodePoints) : Option String :=
  s.toChars?.map String.ofList

theorem toChars?_ofChars (s : List Char) : (ofChars s).toChars? = some s := by
  induction s with
  | nil => rfl
  | cons c rest ih => simp_all [ofChars, toChars?]

theorem toString?_ofString (s : String) : (ofString s).toString? = some s := by
  simp [ofString, toString?, toChars?_ofChars]

/-- The code point that a 16-bit unit stands for on its own. -/
def ofUnit (unit : UInt16) : CodePoint :=
  if 0xD800 ≤ unit && unit ≤ 0xDFFF then .surrogate unit else .scalar (Char.ofNat unit.toNat)

/-- The scalar value that a leading and a trailing surrogate encode. -/
def pair? (lead trail : UInt16) : Option Char :=
  if 0xD800 ≤ lead && lead ≤ 0xDBFF && 0xDC00 ≤ trail && trail ≤ 0xDFFF then
    some (Char.ofNat (0x10000 + (lead.toNat - 0xD800) * 0x400 + (trail.toNat - 0xDC00)))
  else none

/-- Replaces each leading surrogate that a trailing one follows by the value of the pair. -/
def joinPairs : CodePoints → CodePoints
  | [] => []
  | .surrogate lead :: .surrogate trail :: rest =>
    match pair? lead trail with
    | some c => .scalar c :: joinPairs rest
    | none => .surrogate lead :: joinPairs (.surrogate trail :: rest)
  | p :: rest => p :: joinPairs rest

theorem joinPairs_ofChars (s : List Char) : joinPairs (ofChars s) = ofChars s := by
  induction s with
  | nil => rfl
  | cons c rest ih => simpa [ofChars, joinPairs] using ih

/-- Two texts one behind the other; halves that meet become a pair. -/
def append (s t : CodePoints) : CodePoints :=
  joinPairs (s ++ t)

/-- The 16-bit units of a code point. -/
def unitsOf : CodePoint → List UInt16
  | .surrogate unit => [unit]
  | .scalar c =>
    if c.toNat < 0x10000 then [UInt16.ofNat c.toNat]
    else
      let n := c.toNat - 0x10000
      [UInt16.ofNat (0xD800 + n / 0x400), UInt16.ofNat (0xDC00 + n % 0x400)]

/-- The 16-bit units of a text. -/
def units (s : CodePoints) : List UInt16 :=
  s.flatMap unitsOf

/-- The text with the given units. -/
def ofUnits (l : List UInt16) : CodePoints :=
  joinPairs (l.map ofUnit)

/-- Number of bytes in which a code point is encoded; a surrogate takes three. -/
def byteSize : CodePoint → Nat
  | .scalar c => c.utf8Size
  | .surrogate _ => 3

/-- Number of bytes in which a text is encoded. -/
def byteLength (s : CodePoints) : Nat :=
  (s.map byteSize).foldr (· + ·) 0

/-- The code points from the start of a text that fit the given number of bytes. -/
def takeBytes (limit : Nat) : CodePoints → CodePoints
  | [] => []
  | p :: rest => if byteSize p ≤ limit then p :: takeBytes (limit - byteSize p) rest else []

end CodePoints

end HostBridge
