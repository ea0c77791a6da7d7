import HostBridge.Script.Notation
import HostBridge.Script.Text

/-!
# What values count as

A function of the language takes any value for its arguments and makes of it what it
needs: a number, a truth value, an object, the items of a list.

## Main definitions

- `Script.toNumber`, `Script.truth`, `Script.toObject` — values as values of other types
- `Script.makeNumber`, `Script.makeBigint` — what the constructors of numbers make
- `Script.propertyKey?` — the key that a value names
- `Script.lengthOf`, `Script.itemsOf` — values as lists
-/

namespace HostBridge.Script

variable {ε : Type} [Embedding ε]

/-- A text as characters; half a pair is a character that means nothing. -/
def characters (s : CodePoints) : List Char :=
  s.map fun p => match p with
    | .scalar c => c
    | .surrogate _ => '\uFFFD'

/-- The number that a value without parts counts as. -/
def primitiveNumber : ScriptValue → ScriptM ε ScriptNumber
  | .string s => return .parse (characters s)
  | .bigint _ => typeError "cannot convert BigInt to number"
  | v => summandNumber v

/-- The number that a value counts as. -/
def toNumber (inner : Inner ε) (v : ScriptValue) : ScriptM ε ScriptNumber := do
  primitiveNumber (← operand inner v)

/-- The floats that values count as, in order. -/
def toFloats (inner : Inner ε) : List ScriptValue → ScriptM ε (List Float)
  | [] => return []
  | v :: rest => do return (← toNumber inner v).toFloat :: (← toFloats inner rest)

/-- Whether a value counts as true. -/
def truth : ScriptValue → Bool
  | .undefined | .null => false
  | .bool b => b
  | .number n => !(n.toFloat == 0 || n.toFloat.isNaN)
  | .string s => !s.isEmpty
  | .bigint n => n != 0
  | _ => true

/-- The object that a value is or is put into. -/
def toObject (v : ScriptValue) : ScriptM ε ScriptValue :=
  match v with
  | .undefined | .null => typeError "cannot convert to object"
  | v => return if v.isObject then v else .box v []

/-- Refuses a value that is no object. -/
def requireObject (v : ScriptValue) : ScriptM ε Unit :=
  if v.isObject then return () else typeError "not an object"

/-- The function that a value is. -/
def requireFunction : ScriptValue → ScriptM ε Code
  | .function code => return code
  | _ => typeError "not a function"

/-- The number that `Number` makes of a value. -/
def makeNumber (inner : Inner ε) (v : ScriptValue) : ScriptM ε ScriptNumber := do
  match ← operand inner v with
  | .bigint n =>
    let size := ScriptNumber.wholeFloat n.natAbs
    return .ofFloat (if n < 0 then -size else size)
  | p => primitiveNumber p

/-- The large integer that a text denotes. -/
def bigintOf (s : CodePoints) : ScriptM ε Int :=
  match ScriptNumber.parseWhole? (characters s) with
  | some n => return n
  | none => raise .grammar "invalid bigint literal"

/-- The large integer that a value counts as; numbers do not. -/
def toBigint (inner : Inner ε) (v : ScriptValue) : ScriptM ε Int := do
  match ← operand inner v with
  | .bigint n => return n
  | .bool b => return if b then 1 else 0
  | .string s => bigintOf s
  | _ => typeError "cannot convert to BigInt"

/-- The large integer that `BigInt` makes of a value. -/
def makeBigint (inner : Inner ε) (v : ScriptValue) : ScriptM ε Int := do
  match ← operand inner v with
  | .number n =>
    match n.fraction? with
    | some (numerator, denominator) =>
      if numerator % denominator = 0 then return numerator / denominator
      else raise .range "cannot convert to BigInt: not an integer"
    | none => raise .range "cannot convert NaN or Infinity to BigInt"
  | p => toBigint inner p

/-- The key that a value is as the name of a property. Symbols, which have no text, name
    none. -/
def propertyKey? (inner : Inner ε) (v : ScriptValue) : ScriptM ε (Option CodePoints) := do
  match ← toPrimitive inner ["toString", "valueOf"] v with
  | .symbol _ => return none
  | p => return some (← primitiveText p)

/-- Length of an object whose items stand under positions. -/
def lengthOf (inner : Inner ε) (v : ScriptValue) : ScriptM ε Nat := do
  let n ← toNumber inner (← readProperty v (CodePoints.ofString "length"))
  return n.toFloat.toUInt64.toNat

/-- The values under some positions of an object. -/
def valuesAt (v : ScriptValue) : List Nat → ScriptM ε (List ScriptValue)
  | [] => return []
  | i :: rest => do
    return (← readProperty v (Properties.indexKey i)) :: (← valuesAt v rest)

/-- The items of an object that are under its positions. -/
def positioned (inner : Inner ε) (v : ScriptValue) : ScriptM ε (List ScriptValue) := do
  valuesAt v (List.range (← lengthOf inner v))

/-- Whether something can run over a value: a text, an array or what inherits from one. -/
def isIterable (v : ScriptValue) : ScriptM ε Bool := do
  let scope := (← get).scope
  return v.isArray || v.primitiveKind? == some .string || scope.inherits .array v ||
    scope.inherits (.primitive .string) v

/-- Refuses a value over which nothing can run. -/
def requireIterable (v : ScriptValue) : ScriptM ε Unit := do
  match v with
  | .undefined | .null =>
    let _ ← readMember v "Symbol.iterator"
  | v => if !(← isIterable v) then typeError "value is not iterable"

/-- The items over which something runs: the characters of a text or the items of a list. -/
def itemsOf (inner : Inner ε) (v : ScriptValue) : ScriptM ε (List ScriptValue) := do
  requireIterable v
  match v with
  | .string s | .box (.string s) _ => return s.map fun p => .string [p]
  | v => positioned inner v

end HostBridge.Script
