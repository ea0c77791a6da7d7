import HostBridge.Json.Value

/-!
# Reading the fields of a structure

The strict reader takes a structure from an object, whose members may come in any
order and among unknown ones, or from an array of its fields in order. A field may
not come twice. A field that is missing takes its fallback, if it has one.

## Main definitions

- `Json.Source` — where the fields of a structure come from
- `Json.Source.field?` — reads one field
- `Json.Tree.read?` and the readers of single values
-/

namespace HostBridge.Json

/-- Where the fields of a structure come from. -/
inductive Source where
  | members (m : List (String × Tree))
  | items (l : List Tree)

namespace Source

/-- The keys of an object as strings. -/
def stringKeys? : List (CodePoints × Tree) → Option (List (String × Tree))
  | [] => some []
  | (key, v) :: rest => key.toString?.bind fun key => (stringKeys? rest).map ((key, v) :: ·)

/-- The source of a structure with `count` fields: an object without unpaired
    surrogates in its keys, or an array that is not too long. -/
def ofTree? (count : Nat) : Tree → Option Source
  | .object m => (stringKeys? m).map members
  | .array l => if l.length ≤ count then some (items l) else none
  | _ => none

/-- Reads the field `name`, which is number `index` in order. -/
def field? {α : Type} (s : Source) (index : Nat) (name : String) (read : Tree → Option α)
    (fallback : Option α) : Option α :=
  match s with
  | members m =>
    match m.filter (·.1 = name) with
    | [] => fallback
    | [(_, v)] => read v
    | _ => none
  | items l =>
    match l[index]? with
    | some v => read v
    | none => fallback

end Source

namespace Tree

/-- The number in a tree, if it is one in range. -/
def num? : Tree → Option Num
  | number n => Num.ofNumber? n
  | _ => none

/-- Reads a truth value. -/
def readBool? : Tree → Option Bool
  | bool b => some b
  | _ => none

/-- Reads a string without unpaired surrogates. -/
def readString? : Tree → Option String
  | string s => s.toString?
  | _ => none

/-- Reads a 64-bit float. -/
def readFloat? (t : Tree) : Option Float :=
  t.num?.map Num.toFloat

/-- Reads a 32-bit float. -/
def readFloat32? (t : Tree) : Option Float32 :=
  t.num?.map Num.toFloat32

/-- Reads a number that is written as an integer between two bounds. -/
def readInt? (low high : Int) (t : Tree) : Option Int :=
  (t.num?.bind Num.toInt?).bind fun n => if low ≤ n ∧ n ≤ high then some n else none

/-- Reads a natural number of at most 64 bits. -/
def readWord? (t : Tree) : Option Nat :=
  (t.readInt? 0 0xFFFFFFFFFFFFFFFF).map Int.toNat

/-- Reads `null` or what `read` reads. -/
def readOption? {α : Type} (read : Tree → Option α) : Tree → Option (Option α)
  | null => some none
  | t => (read t).map some

/-- Reads an array, every item of which `read` reads. -/
def readList? {α : Type} (read : Tree → Option α) : Tree → Option (List α)
  | array items => items.mapM read
  | _ => none

end Tree

end HostBridge.Json
