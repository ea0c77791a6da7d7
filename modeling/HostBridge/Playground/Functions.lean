import HostBridge.Playground.Members

/-!
# Functions of the playground

Free functions of many shapes: without arguments and with up to six, with every type
of argument, and with results of every kind.

## Main definitions

- `Playground.Function` — the functions; `Playground.Function.named` lists them by name
- `Playground.Function.code` — what they do
-/

namespace HostBridge.Playground

/-- The functions of the playground. -/
inductive Function where
  /-- Returns a slot. -/
  | const (s : Slot)
  | seven
  | hello
  | unit
  /-- Folds 32-bit integers as if they were decimal digits. -/
  | digits (count : Nat)
  /-- Joins a text, a text that may be missing and a truth value. -/
  | join3
  /-- Keeps six slots and returns how often it was called. -/
  | record
  /-- Returns the slot that the host has set. -/
  | give
  /-- Makes a counter. -/
  | makeCounter
  /-- The total of a counter. -/
  | counterTotal
  /-- The number of a handle. -/
  | handleOf
  /-- The handle with a number. -/
  | toHandle
  /-- Returns its argument, read as a type. -/
  | echo (t : ValueType Playground)

/-- The functions that have a name of their own. -/
def Function.named : List (String × Function) :=
  [("seven", seven), ("hello", hello), ("unit", unit), ("digits2", digits 2),
    ("digits3", digits 3), ("digits4", digits 4), ("digits5", digits 5), ("digits6", digits 6),
    ("join3", join3), ("record", record), ("give", give), ("make_counter", makeCounter),
    ("counter_total", counterTotal), ("handle_of", handleOf), ("to_handle", toHandle)]

/-- Folds integers as if they were decimal digits, behind the number `n`. -/
def foldDigits (n : Int32) :
    (count : Nat) → Args (List.replicate count (.int32 : ValueType Playground)) → Int32
  | 0, () => n
  | count + 1, (d, rest) => foldDigits (n * 10 + d) count rest

/-- The first handle. -/
def firstHandle : Handle := ⟨1, by decide, by decide⟩

/-- Keeps the arguments of a call and counts the calls. -/
def keep (slots : List Slot) : Act (Outcome Playground) :=
  modifyGet fun host =>
    let calls := World.calls host.own ++ [slots]
    (int32 (Int32.ofNat calls.length), { host with own := { host.own with calls } })

/-- The code of a function. -/
def Function.code : Function → HostFunction Playground
  | const s => ⟨[], fun () => return .value .slot s⟩
  | seven => ⟨[], fun () => return int32 7⟩
  | hello => ⟨[], fun () => return .value .string "hello"⟩
  | unit => ⟨[.int32], fun _ => return .unit⟩
  | digits count =>
    ⟨List.replicate count .int32, fun args => return int32 (foldDigits 0 count args)⟩
  | join3 => ⟨[.string, .optString, .bool], fun (a, b, c, ()) =>
      return .value .string (a ++ "|" ++ b.getD "-" ++ "|" ++ boolText c)⟩
  | record => ⟨[.slot, .slot, .slot, .slot, .slot, .slot],
      fun (a, b, c, d, e, f, ()) => keep [a, b, c, d, e, f]⟩
  | give => ⟨[], fun () => return .value .slot (← get).own.given⟩
  | makeCounter => ⟨[.int32], fun (total, ()) => do
      return .shared counterType (← Host.newObject counterType { total := total })⟩
  | counterTotal => ⟨[.optShared counterType], fun (ref, ()) => do
      match ref with
      | none => return int32 (-1)
      | some ref =>
        return int32 (((← Host.readObject? counterType ref).map (·.total)).getD (-1))⟩
  | handleOf => ⟨[.optHandle], fun (h, ()) => return int32 (handleNumber h)⟩
  | toHandle => ⟨[.int32], fun (n, ()) =>
      return .handle ((Handle.ofInt? n.toInt).getD firstHandle)⟩
  | echo t => ⟨[t], fun (x, ()) => return .value t x⟩

end HostBridge.Playground
