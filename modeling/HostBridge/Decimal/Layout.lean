import HostBridge.Decimal.Shortest

/-!
# Layout of number text

Once its digits are chosen, a number is written in positional or in scientific
notation. A `Layout` records every choice that a format of number text makes; the
formats themselves stand in the modules that write them.

## Main definitions

- `Decimal.Layout` — the choices of one format
- `Decimal.Layout.write` — the text of a number in a format
- `Decimal.fixedText` — the text of a number with a fixed number of places
-/

namespace HostBridge.Decimal

/-- The choices that a format of number text makes. -/
structure Layout where
  /-- Which digits are taken. -/
  selection : Selection
  /-- Least exponent of the first digit that is written in positional notation;
      without a bound all are. -/
  leastPositional : Option Int
  /-- Greatest exponent of the first digit that is written in positional notation. -/
  greatestPositional : Option Int
  /-- Whether a positional integer ends in `.0`. -/
  pointZero : Bool
  /-- Whether a positive exponent carries a plus sign. -/
  plusSign : Bool
  /-- Whether a negative zero keeps its sign. -/
  signedZero : Bool
  /-- Text of a number that is not a number. -/
  nan : String
  /-- Text of the positive infinity; the negative one has a minus sign before it. -/
  infinity : String

/-- Digits without trailing zeros, and how many were dropped. -/
def dropZeros (digits : List Char) : List Char :=
  (digits.reverse.dropWhile (· = '0')).reverse

/-- Positional notation of the digits of a number whose first digit has the
    exponent `e`: the text before the point and the text after it. -/
def positional (digits : List Char) (e : Int) : List Char × List Char :=
  if 0 ≤ e then
    let whole := e.toNat + 1
    (digits.take whole ++ List.replicate (whole - digits.length) '0', digits.drop whole)
  else
    (['0'], List.replicate ((-e).toNat - 1) '0' ++ digits)

/-- Whether the format writes a first digit of exponent `e` positionally. -/
def Layout.isPositional (l : Layout) (e : Int) : Bool :=
  l.leastPositional.all (· ≤ e) && l.greatestPositional.all (e ≤ ·)

/-- Text of the positive number whose digits are `digits`, the first of exponent `e`. -/
def Layout.writeDigits (l : Layout) (digits : List Char) (e : Int) : List Char :=
  if l.isPositional e then
    match positional digits e with
    | (whole, []) => if l.pointZero then whole ++ ['.', '0'] else whole
    | (whole, rest) => whole ++ '.' :: rest
  else
    let fraction := match digits.drop 1 with
      | [] => []
      | rest => '.' :: rest
    let sign := if e < 0 then ['-'] else if l.plusSign then ['+'] else []
    digits.take 1 ++ fraction ++ 'e' :: sign ++ Nat.toDigits 10 e.natAbs

/-- Text of the nonnegative value in the format. -/
def Layout.writeMagnitude (l : Layout) (x : Magnitude) : List Char :=
  if x.mantissa = 0 then l.writeDigits ['0'] 0
  else
    let chosen := x.shortest l.selection
    let digits := Nat.toDigits 10 chosen.digits
    l.writeDigits (dropZeros digits) (chosen.exponent + digits.length - 1)

/-- Text of a number in the format. -/
def Layout.write (l : Layout) : Binary → String
  | .nan => l.nan
  | .infinite negative => if negative then "-" ++ l.infinity else l.infinity
  | .finite negative x =>
    let body := l.writeMagnitude x
    String.ofList (if negative && (x.mantissa != 0 || l.signedZero) then '-' :: body else body)

/-- Text of a number with exactly `places` digits after the point. -/
def fixedText (places : Nat) (tie : Tie) : Binary → String
  | .nan => "NaN"
  | .infinite negative => if negative then "-inf" else "inf"
  | .finite negative x =>
    let digits := Nat.toDigits 10 (x.fixed places tie)
    let padded := List.replicate (places + 1 - digits.length) '0' ++ digits
    let whole := padded.take (padded.length - places)
    let body := whole ++ '.' :: padded.drop (padded.length - places)
    String.ofList (if negative then '-' :: body else body)

end HostBridge.Decimal
