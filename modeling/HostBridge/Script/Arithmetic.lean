import HostBridge.Script.Coercion

/-!
# Functions on numbers

The functions of mathematics that the language brings along, tests for numbers, and
what makes texts of numbers.

## Main definitions

- `Script.runMath` — the functions of mathematics
- `Script.runNumberTest` — tests that take nothing but numbers
- `Script.runTextMaker` — texts made of the numbers of their units or characters
- `Script.runMoment` — the time of a moment
- `Script.runBigintMaker` — large integers cut to a number of bits
-/

namespace HostBridge.Script

variable {ε : Type} [Embedding ε]

/-- The nearest whole number; a half goes up. The sign of zero stays. -/
def roundHalfUp (x : Float) : Float :=
  let low := x.floor
  if x - low < 0.5 || low == x then (if low == 0 && x < 0 then -0.0 else low)
  else if low == -1 then -0.0 else low + 1

/-- A number without its fraction. -/
def truncate (x : Float) : Float :=
  if x < 0 then x.ceil else x.floor

/-- The sign of a number; zeros and what is no number stay. -/
def signOf (x : Float) : Float :=
  if x > 0 then 1 else if x < 0 then -1 else x

/-- The exponential function less one, which stays exact near zero. -/
def expLessOne (x : Float) : Float :=
  let u := x.exp
  if u == 1 || x == 0 then x
  else if u - 1 == -1 || u.isInf then u - 1
  else (u - 1) * x / u.log

/-- The logarithm of one more than a number, which stays exact near zero. -/
def logOneMore (x : Float) : Float :=
  let u := 1 + x
  if u == 1 || u.isInf then x else u.log * x / (u - 1)

/-- How many zero bits lead a number of 32 bits. -/
def leadingZeros (n : UInt32) : Nat :=
  if n = 0 then 32 else 31 - n.toNat.log2

/-- The functions of one number. -/
def unaryMath : List (String × (Float → Float)) :=
  [("abs", Float.abs), ("floor", Float.floor), ("ceil", Float.ceil), ("round", roundHalfUp),
    ("sqrt", Float.sqrt), ("acos", Float.acos), ("asin", Float.asin), ("atan", Float.atan),
    ("cos", Float.cos), ("exp", Float.exp), ("log", Float.log), ("sin", Float.sin),
    ("tan", Float.tan), ("trunc", truncate), ("sign", signOf), ("cosh", Float.cosh),
    ("sinh", Float.sinh), ("tanh", Float.tanh), ("acosh", Float.acosh), ("asinh", Float.asinh),
    ("atanh", Float.atanh), ("expm1", expLessOne), ("log1p", logOneMore), ("log2", Float.log2),
    ("log10", Float.log10), ("cbrt", Float.cbrt), ("fround", fun x => x.toFloat32.toFloat)]

/-- The greater of two numbers; zero is greater than negative zero. -/
def greater (x y : Float) : Float :=
  if x.isNaN || y.isNaN then 0 / 0
  else if x == 0 && y == 0 then Float.ofBits (x.toBits &&& y.toBits)
  else if x < y then y else x

/-- The smaller of two numbers. -/
def smaller (x y : Float) : Float :=
  -greater (-x) (-y)

/-- A power; one has no power whose exponent is not finite. -/
def power (x y : Float) : Float :=
  if !y.isFinite && x.abs == 1 then 0 / 0 else x.pow y

/-- The length of a hypotenuse. -/
def hypotenuse (x y : Float) : Float :=
  if x.isInf || y.isInf then 1 / 0
  else if x == 0 then y.abs
  else (x * x + y * y).sqrt

/-- Calls a function of mathematics. -/
def runMath (inner : Inner ε) (name : String) (args : List ScriptValue) :
    ScriptM ε ScriptValue := do
  let first := args.headD .undefined
  let second := args.tail.headD .undefined
  let binary (f : Float → Float → Float) : ScriptM ε ScriptValue := do
    let x := (← toNumber inner first).toFloat
    return .ofFloat (f x (← toNumber inner second).toFloat)
  match unaryMath.lookup name with
  | some f => return .ofFloat (f (← toNumber inner first).toFloat)
  | none =>
    match name with
    | "min" => return .ofFloat ((← toFloats inner args).foldl smaller (1 / 0))
    | "max" => return .ofFloat ((← toFloats inner args).foldl greater (-1 / 0))
    | "atan2" => binary Float.atan2
    | "pow" => binary power
    | "hypot" => return .ofFloat ((← toFloats inner args).foldl hypotenuse 0)
    | "imul" =>
      let x := (← toNumber inner first).wrapInt32
      return .number (.int (x * (← toNumber inner second).wrapInt32))
    | "clz32" =>
      let n := (← toNumber inner first).wrapInt32
      return .ofNat (leadingZeros n.toUInt32)
    | _ => return .undefined

/-- Calls a test that takes nothing but numbers. -/
def runNumberTest (name : String) (v : ScriptValue) : ScriptValue :=
  .bool <| match v with
  | .number n =>
    let x := n.toFloat
    match name with
    | "isNaN" => x.isNaN
    | "isFinite" => x.isFinite
    | "isInteger" => x.isFinite && x.floor == x
    | _ => x.isFinite && x.floor == x && x.abs ≤ 9007199254740991
  | _ => false

/-- The texts of the characters with some numbers. -/
def textOfPoints (inner : Inner ε) : List ScriptValue → ScriptM ε CodePoints
  | [] => return []
  | v :: rest => do
    let x := (← toNumber inner v).toFloat
    if x ≥ 0 && x ≤ 0x10FFFF && x.floor == x then
      let n := x.toUInt64.toNat
      let point :=
        if n < 0x10000 then CodePoints.ofUnit (UInt16.ofNat n) else .scalar (Char.ofNat n)
      return point :: (← textOfPoints inner rest)
    else raise .range "invalid code point"

/-- The units with some numbers. -/
def unitsOfNumbers (inner : Inner ε) : List ScriptValue → ScriptM ε (List UInt16)
  | [] => return []
  | v :: rest => do
    let n := (← toNumber inner v).wrapInt32
    return n.toUInt32.toUInt16 :: (← unitsOfNumbers inner rest)

/-- The parts of a text with other texts between them. -/
def interleaved (inner : Inner ε) (parts : List ScriptValue) :
    List ScriptValue → ScriptM ε CodePoints :=
  match parts with
  | [] => fun _ => return []
  | part :: more => fun others => do
    let text ← textOf inner part
    match more, others with
    | [], _ => return text
    | more, [] => return text ++ (← interleaved inner more [])
    | more, other :: others => do
      let between ← textOf inner other
      return text ++ between ++ (← interleaved inner more others)

/-- Calls a function that makes a text. -/
def runTextMaker (inner : Inner ε) (name : String) (args : List ScriptValue) :
    ScriptM ε ScriptValue := do
  match name with
  | "fromCharCode" => return .string (CodePoints.ofUnits (← unitsOfNumbers inner args))
  | "fromCodePoint" => return .string (CodePoints.joinPairs (← textOfPoints inner args))
  | _ =>
    let cooked ← toObject (args.headD .undefined)
    let raw ← toObject (← readProperty cooked (CodePoints.ofString "raw"))
    let parts ← positioned inner raw
    return .string (CodePoints.joinPairs (← interleaved inner parts (args.drop 1)))

/-- Days from the start of 1970 to the start of a year. -/
def daysBefore (year : Int) : Int :=
  365 * (year - 1970) + (year - 1969).fdiv 4 - (year - 1901).fdiv 100 + (year - 1601).fdiv 400

/-- Days from the start of a year to the start of one of its months, counted from zero. -/
def daysBeforeMonth (year : Int) (month : Nat) : Nat :=
  let leap := month > 1 && daysBefore (year + 1) - daysBefore year = 366
  ([0, 31, 59, 90, 120, 151, 181, 212, 243, 273, 304, 334][month]?).getD 0 + (if leap then 1 else 0)

/-- Milliseconds from the start of 1970 to a moment that is given by year, month, day,
    hour, minute, second and millisecond; those that are missing are the first ones. Days
    and months may run over. -/
def moment : List Int → Int
  | year :: rest =>
    let part (i : Nat) (first : Int) : Int := rest.getD i first
    let year := year + (part 0 0).fdiv 12
    let month := ((part 0 0).fmod 12).toNat
    let days := daysBefore year + daysBeforeMonth year month + part 1 1 - 1
    ((days * 24 + part 2 0) * 60 + part 3 0) * 60000 + part 4 0 * 1000 + part 5 0
  | [] => 0

/-- The milliseconds to a moment, if the numbers give one that is not too far away. Years
    below 100 are those of the last century. -/
def momentOf? (parts : List Float) : Option Int :=
  if parts.isEmpty || parts.any fun x => !(x.abs < 1e17) then none
  else
    let parts := (parts.take 7).map fun x => (truncate x).toInt64.toInt
    let parts := match parts with
      | year :: rest => (if 0 ≤ year ∧ year < 100 then year + 1900 else year) :: rest
      | [] => []
    some (moment parts) |>.filter fun t => t.natAbs ≤ 8640000000000000

/-- Calls the function that gives the milliseconds to a moment. -/
def runMoment (inner : Inner ε) (args : List ScriptValue) : ScriptM ε ScriptValue := do
  match momentOf? (← toFloats inner (args.take 7)) with
  | some t => return .ofFloat (Float.ofInt t)
  | none => return .number .nan

/-- How many bits a large integer may be cut to. -/
def maxBits : Nat := 0x10000

/-- Calls a function that cuts a large integer to a number of bits. -/
def runBigintMaker (inner : Inner ε) (name : String) (args : List ScriptValue) :
    ScriptM ε ScriptValue := do
  let bits := truncate (← toNumber inner (args.headD .undefined)).toFloat
  if bits < 0 || bits > 9007199254740991 then raise .range "invalid array index"
  else
    let n ← toBigint inner (args.tail.headD .undefined)
    let size := bits.toUInt64.toNat
    if n.natAbs.log2 + 1 < size && (name = "asIntN" || 0 ≤ n) then return .bigint n
    else
      let modulus := Nat.pow 2 (min size maxBits)
      return .bigint (if name = "asIntN" then n.bmod modulus else n % (modulus : Int))

end HostBridge.Script
