import HostBridge.Script.Error

/-!
# Callback table

The script functions that a host holds, under numbers from one. A number that has been
given back is used again, the least one first.

## Main definitions

- `CallbackTable` — the slots behind the numbers, and those that are free
- `CallbackTable.register`, `remove`, `clear` — its changes
- `CallbackTable.get?` — its view
-/

namespace HostBridge

/-- The callbacks that a host holds. Slot `i` stands behind the number `i + 1`. -/
structure CallbackTable (α : Type) where
  capacity : Nat
  slots : List (Option α) := []
  /-- The slots that have been given back, the next one to use in front. -/
  free : List Nat := []

namespace CallbackTable

variable {α : Type}

/-- An empty table. Numbers are 32-bit integers, so there are no more than those. -/
def new (capacity : Nat) : CallbackTable α :=
  { capacity := min capacity 0x7FFFFFFF }

/-- The callback with a number. -/
def get? (t : CallbackTable α) (id : Int) : Option α :=
  if 0 < id then (t.slots[id.toNat - 1]?).join else none

/-- Stores a callback in the first free slot, or in a new one, and answers its number. -/
def register (t : CallbackTable α) (callback : α) :
    Except ScriptError (Nat × CallbackTable α) :=
  match t.free with
  | i :: free => .ok (i + 1, { t with slots := t.slots.set i (some callback), free })
  | [] =>
    if t.slots.length < t.capacity then
      .ok (t.slots.length + 1, { t with slots := t.slots ++ [some callback] })
    else .error (.callbacksFull t.capacity)

/-- Gives a number back. The answer is whether it was in use. Free slots stay in order, so
    that the lowest one is used next. -/
def remove (t : CallbackTable α) (id : Int) : Bool × CallbackTable α :=
  if (t.get? id).isSome then
    (true, { t with
      slots := t.slots.set (id.toNat - 1) none
      free := ((id.toNat - 1) :: t.free).mergeSort })
  else (false, t)

/-- Gives all numbers back. -/
def clear (t : CallbackTable α) : CallbackTable α :=
  { t with slots := [], free := [] }

/-- How many numbers are in use. -/
def size (t : CallbackTable α) : Nat :=
  t.slots.length - t.free.length

end CallbackTable

end HostBridge
