import HostBridge.Handle.Basic
import HostBridge.Text.Quoted

/-!
# Handle table

The host objects that are lent to scripts. Handles are issued in increasing order
from one and never again, so a handle that was released never stands for another
object later.

## Main definitions

- `HandleTable` — live entries in the order of issue, and the next number
- `HandleTable.register`, `HandleTable.release`, `HandleTable.clear` — its changes
- `HandleTable.entry?`, `HandleTable.resolve?` — its views
-/

namespace HostBridge

/-- An object that is lent: what it is, the host type it is stored as, and the name
    of that type for diagnostics. -/
structure HandleEntry (τ α : Type) where
  object : α
  owner : τ
  typeName : String
deriving DecidableEq, Repr

/-- The host objects that are lent to scripts. -/
structure HandleTable (τ α : Type) where
  entries : List (Handle × HandleEntry τ α) := []
  /-- The next number to issue. -/
  next : Nat := 1

namespace HandleTable

variable {τ α : Type}

/-- The entry of a live handle. -/
def entry? (t : HandleTable τ α) (h : Handle) : Option (HandleEntry τ α) :=
  (t.entries.find? (·.1 = h)).map (·.2)

/-- Whether a handle is live. -/
def contains (t : HandleTable τ α) (h : Handle) : Bool :=
  (t.entry? h).isSome

/-- The object behind a live handle. -/
def resolve? (t : HandleTable τ α) (h : Handle) : Option α :=
  (t.entry? h).map (·.object)

/-- The object behind a live handle of the given host type. -/
def resolveAs? [DecidableEq τ] (t : HandleTable τ α) (owner : τ) (h : Handle) : Option α :=
  (t.entry? h).bind fun e => if e.owner = owner then some e.object else none

/-- Number of live handles. -/
def size (t : HandleTable τ α) : Nat :=
  t.entries.length

/-- Lends an object under a fresh handle. -/
def register (t : HandleTable τ α) (e : HandleEntry τ α) :
    Except BridgeError (Handle × HandleTable τ α) :=
  match Handle.ofInt? t.next with
  | some h => .ok (h, { entries := t.entries ++ [(h, e)], next := t.next + 1 })
  | none => .error (.handlesExhausted 0x7FFFFFFF)

/-- Takes an object back. -/
def release (t : HandleTable τ α) (h : Handle) : HandleTable τ α :=
  { t with entries := t.entries.filter (·.1 ≠ h) }

/-- Takes every object back; numbers are not issued again. -/
def clear (t : HandleTable τ α) : HandleTable τ α :=
  { t with entries := [] }

/-- Number of live handles of an object. -/
def references [DecidableEq α] (t : HandleTable τ α) (object : α) : Nat :=
  t.entries.countP (·.2.object = object)

end HandleTable

/-- The diagnostic text of an entry, the only reference to whose object is the table's. -/
def HandleEntry.diagnostic {τ α : Type} (e : HandleEntry τ α) : String :=
  "HandleEntry \x7b type_name: " ++ Text.quoted e.typeName ++ ", strong_count: 1 \x7d"

end HostBridge
