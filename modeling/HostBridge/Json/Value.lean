import HostBridge.Decimal.Rounding
import HostBridge.Json.Tree

/-!
# Values of object notation

A value is a tree that passed the checks of the strict reader: strings have no
unpaired surrogates, numbers are in the range of 64-bit floats, nesting is bounded,
and of several members with one key the last one counts.

## Main definitions

- `Json.Num` — a number: a 64-bit integer, signed or not, or a float
- `Json.Value` — a value
- `Json.Members` — the members of an object, each key once
- `Json.Value.parse?`, `Json.Members.parse?` — the strict reader
-/

namespace HostBridge.Json

/-- A number of the strict reader. Integers outside the range of 64-bit words, and
    the integer `-0`, are floats. -/
inductive Num where
  | unsigned (n : UInt64)
  | negative (n : Int64)
  | float (x : Float)

namespace Num

/-- The number that is written, unless it is too large for a float. -/
def ofNumber? (n : Number) : Option Num :=
  let numeral := n.numeral
  if n.isInteger && !numeral.negative && numeral.digits < 0x10000000000000000 then
    some (unsigned (UInt64.ofNat numeral.digits))
  else if n.isInteger && numeral.negative && 0 < numeral.digits &&
      numeral.digits ≤ 0x8000000000000000 then
    some (negative (Int64.ofInt (-(numeral.digits : Int))))
  else
    let x := numeral.toFloat
    if x.isInf then none else some (float x)

/-- The number as a 64-bit float. -/
def toFloat : Num → Float
  | unsigned n => n.toFloat
  | negative n => Decimal.floatOfInt64 n
  | float x => x

/-- The number as a 32-bit float, rounded once from an integer. -/
def toFloat32 : Num → Float32
  | unsigned n => n.toFloat32
  | negative n => Decimal.float32OfInt64 n
  | float x => Decimal.narrow x

/-- The integer that the number was written as, if it was written as one. -/
def toInt? : Num → Option Int
  | unsigned n => some n.toNat
  | negative n => some n.toInt
  | float _ => none

/-- The integer that the number was written as, if it fits a signed 64-bit word. -/
def toInt64? (n : Num) : Option Int64 :=
  n.toInt?.bind fun i => if i < 0x8000000000000000 then some (Int64.ofInt i) else none

end Num

/-- A value of the strict reader. -/
inductive Value where
  | null
  | bool (b : Bool)
  | number (n : Num)
  | string (s : String)
  | array (items : List Value)
  | object (members : List (String × Value))

/-- The members of an object, each key once. -/
abbrev Members := List (String × Value)

namespace Members

/-- The value of a key. -/
def get? (m : Members) (key : String) : Option Value :=
  (m.find? (·.1 = key)).map (·.2)

/-- Sets the value of a key; a new key comes last. -/
def insert (m : Members) (key : String) (v : Value) : Members :=
  if m.any (·.1 = key) then m.map fun p => if p.1 = key then (key, v) else p
  else m ++ [(key, v)]

/-- The members of a list in which the last value of a key counts. -/
def ofList (pairs : List (String × Value)) : Members :=
  pairs.foldl (fun m p => m.insert p.1 p.2) []

/-- The keys in the order of their code points. -/
def sortedKeys (m : Members) : List String :=
  (m.map (·.1)).mergeSort fun a b => !(decide (b < a))

end Members

namespace Value

/-- The value as a float, if it is a number. -/
def toFloat? : Value → Option Float
  | number n => some n.toFloat
  | _ => none

/-- The value as a 64-bit integer, if it is a number written as one. -/
def toInt64? : Value → Option Int64
  | number n => n.toInt64?
  | _ => none

/-- The truth value, if the value is one. -/
def toBool? : Value → Option Bool
  | bool b => some b
  | _ => none

mutual

/-- The value of a tree, whatever its depth. -/
def ofTree? : Tree → Option Value
  | .null => some .null
  | .bool b => some (.bool b)
  | .number n => (Num.ofNumber? n).map .number
  | .string s => s.toString?.map .string
  | .array items => (ofItems? items).map .array
  | .object members => (ofMembers? members).map fun pairs => .object (Members.ofList pairs)

/-- The values of the items of an array. -/
def ofItems? : List Tree → Option (List Value)
  | [] => some []
  | v :: rest => (ofTree? v).bind fun v => (ofItems? rest).map (v :: ·)

/-- The keys and values of the members of an object, as they are listed. -/
def ofMembers? : List (CodePoints × Tree) → Option (List (String × Value))
  | [] => some []
  | (key, v) :: rest =>
    key.toString?.bind fun key => (ofTree? v).bind fun v => (ofMembers? rest).map ((key, v) :: ·)

end

/-- Arrays and objects nest at most this deep. -/
def maxDepth : Nat := 127

/-- Reads a text as a value. -/
def parse? (text : String) : Option Value :=
  (Tree.parse? text).bind fun t => if t.depth ≤ maxDepth then ofTree? t else none

/-- The members of an object. -/
def members? : Value → Option Members
  | object members => some members
  | _ => none

end Value

/-- Reads a text as the members of an object. -/
def Members.parse? (text : String) : Option Members :=
  (Value.parse? text).bind Value.members?

end HostBridge.Json
