import HostBridge.Error

/-!
# Binding ids

A binding that is resolved once gets a number; calls by number skip the names. A
number stands for a key, not for a handler, so it follows when the key is bound anew.

## Main definitions

- `BindingIds` — the keys in the order of their numbers, from one
- `BindingIds.assign`, `BindingIds.key?` — key to number and back
-/

namespace HostBridge

/-- The keys that have a number, in the order of their numbers. -/
structure BindingIds (κ : Type) where
  keys : List κ := []

namespace BindingIds

variable {κ : Type} [DecidableEq κ]

/-- The number of a key; a key without one gets the next. -/
def assign (ids : BindingIds κ) (key : κ) : Except BridgeError (Nat × BindingIds κ) :=
  match ids.keys.findIdx? (· = key) with
  | some i => .ok (i + 1, ids)
  | none =>
    if ids.keys.length + 1 < 0x80000000 then
      .ok (ids.keys.length + 1, ⟨ids.keys ++ [key]⟩)
    else .error .bindingIdsExhausted

/-- The key with a number. -/
def key? (ids : BindingIds κ) (id : Int) : Option κ :=
  if 0 < id then ids.keys[id.toNat - 1]? else none

/-- How many keys have a number. -/
def size (ids : BindingIds κ) : Nat :=
  ids.keys.length

end BindingIds

end HostBridge
