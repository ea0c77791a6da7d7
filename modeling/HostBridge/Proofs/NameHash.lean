import HostBridge.Binding.NameHash

/-!
# Hashes of names given as text and as bytes

A name that a host registers is text, and one that a script calls is a buffer. The hash of
a text goes by its characters, that of a buffer by its bytes, so the two need not agree on
the same name. They do if every character before the first NUL is ASCII.

## Main definitions

- `NameHash.Agrees` — a text has the hash of its bytes
- `NameHash.agrees_of_ascii` — a text of ASCII characters has
-/

namespace HostBridge.NameHash

/-- A text has the hash of its bytes. -/
def Agrees (name : String) : Prop :=
  ofText name = ofBytes (Text.utf8 name)

instance (name : String) : Decidable (Agrees name) :=
  inferInstanceAs (Decidable (_ = _))

/-- An ASCII character is written as one byte, which is its number. -/
theorem utf8EncodeChar_of_ascii {c : Char} (h : c.val < 128) :
    (String.utf8EncodeChar c).map (·.toUInt32) = [c.val] := by
  have hlt : c.val.toNat < 128 := UInt32.lt_iff_toNat_lt.mp h
  have hsize : c.utf8Size = 1 := by
    refine Char.utf8Size_eq_one_iff.mpr (UInt32.le_iff_toNat_le.mpr ?_)
    show c.val.toNat ≤ 127
    omega
  have hsame : c.val % 256 = c.val := by
    refine UInt32.toNat_inj.mp ?_
    rw [UInt32.toNat_mod]
    exact Nat.mod_eq_of_lt (by show c.val.toNat < 256; omega)
  rw [String.utf8EncodeChar_eq_singleton hsize, List.map_singleton, UInt32.toUInt32_toUInt8, hsame]

theorem takeWhile_units_of_ascii {cs : List Char}
    (h : ∀ c ∈ cs.takeWhile (· ≠ '\x00'), c.val < 128) :
    ((cs.flatMap String.utf8EncodeChar).map (·.toUInt32)).takeWhile (· ≠ 0) =
      (cs.map (·.val)).takeWhile (· ≠ 0) := by
  induction cs with
  | nil => rfl
  | cons c cs ih =>
    by_cases hc : c = '\x00'
    · -- The NUL ends both.
      subst hc
      rfl
    · have hval : c.val ≠ 0 := fun hzero => hc (Char.ext hzero)
      have hunit (units : List UInt32) :
          (c.val :: units).takeWhile (· ≠ 0) = c.val :: units.takeWhile (· ≠ 0) :=
        List.takeWhile_cons_of_pos (decide_eq_true hval)
      have hkept : (c :: cs).takeWhile (· ≠ '\x00') = c :: cs.takeWhile (· ≠ '\x00') :=
        List.takeWhile_cons_of_pos (decide_eq_true hc)
      rw [hkept, List.forall_mem_cons] at h
      rw [List.flatMap_cons, List.map_append, utf8EncodeChar_of_ascii h.1, List.singleton_append,
        List.map_cons, hunit, hunit, ih h.2]

/-- A text whose characters before the first NUL are ASCII has the hash of its bytes. -/
theorem agrees_of_ascii {name : String}
    (h : ∀ c ∈ name.toList.takeWhile (· ≠ '\x00'), c.val < 128) : Agrees name :=
  congrArg (List.foldl step offset) (takeWhile_units_of_ascii h).symm

end HostBridge.NameHash
