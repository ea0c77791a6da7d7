import HostBridge.Decimal.Binary

/-!
# Shortest decimals

The reals that round to a float form an interval around it. A decimal in that
interval reads back as the float, so the text of a float is the decimal of fewest
digits that lies in the interval. All tests are made in whole numbers.

## Main definitions

- `Decimal.Digits` — a decimal `digits * 10 ^ exponent`
- `Decimal.Selection` — which decimal is taken where the rule leaves a choice
- `Decimal.Magnitude.shortest` — the decimal of fewest digits that reads back
- `Decimal.Magnitude.fixed` — the nearest decimal with a given number of places
-/

namespace HostBridge.Decimal

/-- Which way a value goes that lies half way between two decimals. -/
inductive Tie where
  | up
  | even
deriving DecidableEq, Repr

/-- Divides and rounds to the nearest whole number. -/
def roundDiv (num den : Nat) (tie : Tie) : Nat :=
  let low := num / den
  let rest := 2 * (num % den)
  if rest < den then low
  else if den < rest then low + 1
  else match tie with
    | .up => low + 1
    | .even => if low % 2 = 0 then low else low + 1

/-- Which decimal is taken where "fewest digits" leaves a choice.

    With `nearestOnly` a number of digits is accepted only if the decimal nearest
    to the value reads back; otherwise any decimal of that length may. -/
structure Selection where
  tie : Tie
  nearestOnly : Bool

/-- The decimal `digits * 10 ^ exponent`. -/
structure Digits where
  digits : Nat
  exponent : Int
deriving DecidableEq, Repr

/-- Number of decimal digits of a whole number; zero has none. -/
def digitCount (n : Nat) : Nat :=
  if n = 0 then 0 else (Nat.toDigits 10 n).length

/-- The exponent `e` with `10 ^ (e - 1) ≤ num / den < 10 ^ e`, for a positive fraction. -/
def decimalExponent (num den : Nat) : Int :=
  if den ≤ num then digitCount (num / den)
  else 1 - digitCount ((den + num - 1) / num - 1)

/-- The powers of ten above and below the fraction line of `10 ^ g`. -/
def tenPower (g : Int) : Nat × Nat :=
  if 0 ≤ g then (Nat.pow 10 g.toNat, 1) else (1, Nat.pow 10 (-g).toNat)

/-- Whether the decimal `d * 10 ^ g` rounds to the value.

    The interval reaches half a unit to both sides, a quarter below a value that is
    narrow there; its ends belong to it if the mantissa is even. -/
def Magnitude.contains (x : Magnitude) (d : Nat) (g : Int) : Bool :=
  let quarter : Magnitude := ⟨1, x.exponent - 2, false⟩
  let (num, den) := quarter.fraction
  let (up, down) := tenPower g
  let point := d * up * den
  let low := (4 * x.mantissa - (if x.narrowBelow then 1 else 2)) * num * down
  let high := (4 * x.mantissa + 2) * num * down
  if x.mantissa % 2 = 0 then low ≤ point && point ≤ high
  else low < point && point < high

/-- A decimal of `n` digits that rounds to the value, if there is one. -/
def Magnitude.ofLength? (x : Magnitude) (rule : Selection) (n : Nat) : Option Digits :=
  let (num, den) := x.fraction
  let g := decimalExponent num den - n
  let (up, down) := tenPower g
  let low := num * down / (den * up)
  let nearest := roundDiv (num * down) (den * up) rule.tie
  if rule.nearestOnly then
    if x.contains nearest g then some ⟨nearest, g⟩ else none
  else
    match x.contains low g, x.contains (low + 1) g with
    | true, true => some ⟨nearest, g⟩
    | true, false => some ⟨low, g⟩
    | false, true => some ⟨low + 1, g⟩
    | false, false => none

/-- Seventeen digits are enough for every format up to 64 bits. -/
def maxDigits : Nat := 17

/-- The decimal of fewest digits that reads back as the positive value. -/
def Magnitude.shortest (x : Magnitude) (rule : Selection) : Digits :=
  let (num, den) := x.fraction
  let g := decimalExponent num den - maxDigits
  let (up, down) := tenPower g
  ((List.range maxDigits).findSome? fun i => x.ofLength? rule (i + 1)).getD
    ⟨roundDiv (num * down) (den * up) rule.tie, g⟩

/-- The whole number nearest to `10 ^ places` times the value. -/
def Magnitude.fixed (x : Magnitude) (places : Nat) (tie : Tie) : Nat :=
  let (num, den) := x.fraction
  roundDiv (num * Nat.pow 10 places) den tie

end HostBridge.Decimal
