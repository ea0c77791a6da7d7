import HostBridge.Error

/-!
# Handles

A handle is the number under which a script knows a host object. Handles are
positive and fit a signed 32-bit word.
-/

namespace HostBridge

/-- The number under which a script knows a host object. -/
structure Handle where
  number : Nat
  positive : 0 < number
  bounded : number < 0x80000000
deriving DecidableEq, Repr

namespace Handle

/-- The handle with a number, if it is in range. -/
def ofInt? (raw : Int) : Option Handle :=
  if h : 0 < raw.toNat ∧ raw.toNat < 0x80000000 then some ⟨raw.toNat, h.1, h.2⟩ else none

/-- The handle with a number, or the error that names the number. -/
def ofInt (raw : Int) : Except BridgeError Handle :=
  match ofInt? raw with
  | some h => .ok h
  | none => .error (.invalidHandle raw)

/-- The decimal text of a handle. -/
def text (h : Handle) : String :=
  toString h.number

theorem ofInt?_number (h : Handle) : ofInt? h.number = some h := by
  have hn : (h.number : Int).toNat = h.number := Int.toNat_natCast h.number
  unfold ofInt?
  rw [dif_pos (by rw [hn]; exact ⟨h.positive, h.bounded⟩)]
  rfl

end Handle

end HostBridge
