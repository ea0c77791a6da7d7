import HostBridge.Codec.Table

/-!
# What registration does to a codec table

Each operation of a codec table is read back through its views: the codec of a type and
whether the type counts as handled. A registration for one type leaves all others alone.
A type counts as handled exactly if its codec packs or unpacks; every operation keeps
this.

## Main definitions

- `Codec.Upholds` — a codec that does what another one did
- `Codec.packing` — the codec of a type that packs into lanes
- `CodecTable.packer?`, `unpacker?`, `converter?` — the parts of the codec of a type
- `CodecTable.Consistent` — the invariant of codec tables
-/

namespace HostBridge

/-- A codec packs and unpacks as another one does, and has its converter if that has one. -/
structure Codec.Upholds {s : Schema} (c old : Codec s) : Prop where
  pack : c.pack = old.pack
  unpack : c.unpack = old.unpack
  ofMembers : ∀ {convert}, old.ofMembers = some convert → c.ofMembers = some convert

namespace Codec.Upholds

variable {s : Schema} {c old older : Codec s}

theorem refl : c.Upholds c :=
  ⟨rfl, rfl, id⟩

theorem trans (h : c.Upholds old) (h' : old.Upholds older) : c.Upholds older :=
  ⟨h.pack.trans h'.pack, h.unpack.trans h'.unpack, fun hold => h.ofMembers (h'.ofMembers hold)⟩

theorem isHandler (h : c.Upholds old) : c.isHandler = old.isHandler := by
  unfold Codec.isHandler
  rw [h.pack, h.unpack]

end Codec.Upholds

/-- What a type that packs into lanes is registered with. -/
def Codec.packing (s : Schema) : Codec s where
  pack := some s.packSlot
  unpack := some s.unpackSlot?
  ofMembers := some s.ofMembers
  strategy := .packed

namespace CodecTable

variable {τ : Type} [DecidableEq τ] {schema : τ → Schema} (table : CodecTable τ schema) {t u : τ}

-- ════════════════════════════════════════════════════════════════════════
-- Setting a codec
-- ════════════════════════════════════════════════════════════════════════

@[simp] theorem codec?_put_self (c : Codec (schema t)) : (table.put t c).codec? t = some c := by
  -- The type of a codec depends on the key, so the laws of `List.find?` do not apply.
  have hlast (l : List ((t : τ) × Codec (schema t))) :
      find? (l.filter (·.1 ≠ t) ++ [⟨t, c⟩]) t = some c := by
    induction l with
    | nil => simp [find?]
    | cons p l ih =>
      by_cases hp : p.1 = t
      · simpa [hp] using ih
      · simpa [hp, find?] using ih
  exact hlast table.codecs

theorem codec?_put_of_ne (c : Codec (schema t)) (h : u ≠ t) :
    (table.put t c).codec? u = table.codec? u := by
  have hskip (l : List ((t : τ) × Codec (schema t))) :
      find? (l.filter (·.1 ≠ t) ++ [⟨t, c⟩]) u = find? l u := by
    induction l with
    | nil => simp [find?, Ne.symm h]
    | cons p l ih =>
      obtain ⟨v, d⟩ := p
      by_cases hv : v = t
      · subst hv
        simpa [find?, Ne.symm h] using ih
      · by_cases hvu : v = u
        · subst hvu
          simp [find?, hv]
        · simpa [find?, hv, hvu] using ih
  exact hskip table.codecs

theorem hasHandler_put (c : Codec (schema t)) :
    (table.put t c).hasHandler u = (decide (u = t) && c.isHandler || table.hasHandler u) := by
  unfold put hasHandler
  by_cases hu : u = t
  · subst hu
    cases hc : c.isHandler <;> cases ht : table.handled.contains u <;> simp_all
  · split <;> simp [hu]

-- ════════════════════════════════════════════════════════════════════════
-- Registering
-- ════════════════════════════════════════════════════════════════════════

theorem value_keeps : (table.keeps t).value = (table.keepExisting && table.hasHandler t) := by
  unfold keeps
  split
  · next hw => exact hw.symm
  · next hw => exact (Bool.eq_false_iff.mpr hw).symm

/-- A packer and an unpacker are set unless the type gives way. -/
theorem value_register (pack : (schema t).Value → Slot)
    (unpack : Slot → Option (schema t).Value) :
    (table.register t pack unpack).value =
      if table.keepExisting && table.hasHandler t then table
      else table.put t { table.codecOrEmpty t .custom with
        pack := some pack, unpack := some unpack, strategy := .custom } := by
  unfold register
  rw [Logged.value_bind, value_keeps]
  split
  · rfl
  · split <;> rfl

/-- Packing into lanes is set unless the type gives way or has no lanes. -/
theorem value_registerPacked (warnOnLossy : Bool) :
    (table.registerPacked t warnOnLossy).value =
      if table.keepExisting && table.hasHandler t || (schema t).laneFields.isEmpty then
        (false, table)
      else (true, table.put t (Codec.packing (schema t))) := by
  unfold registerPacked
  rw [Logged.value_bind, value_keeps]
  cases hw : table.keepExisting && table.hasHandler t with
  | true => rfl
  | false =>
    cases he : (schema t).laneFields.isEmpty with
    | true => rfl
    | false =>
      simp only [Bool.false_or, Bool.false_eq_true, if_false]
      split <;> rfl

-- ════════════════════════════════════════════════════════════════════════
-- The parts of a codec
-- ════════════════════════════════════════════════════════════════════════

/-- What packs the values of a type. -/
def packer? (t : τ) : Option ((schema t).Value → Slot) :=
  (table.codec? t).bind (·.pack)

/-- What unpacks the values of a type. -/
def unpacker? (t : τ) : Option (Slot → Option (schema t).Value) :=
  (table.codec? t).bind (·.unpack)

/-- What reads the values of a type from object notation. -/
def converter? (t : τ) : Option (Json.Members → (schema t).Value) :=
  (table.codec? t).bind (·.ofMembers)

variable {table}

theorem encode?_eq (x : (schema t).Value) :
    table.encode? t x = (table.packer? t).map fun pack => pack x := by
  unfold encode? packer?
  cases table.codec? t <;> rfl

/-- A slot is read by the unpacker, or else by the converter. -/
theorem decode?_eq (slot : Slot) :
    table.decode? t slot = ((table.unpacker? t).bind fun unpack => unpack slot).or
      ((table.converter? t).bind fun convert => slot.members?.map convert) := by
  unfold decode? unpacker? converter?
  cases table.codec? t with
  | none => rfl
  | some c =>
    simp only [Option.bind_some]
    cases c.unpack.bind fun unpack => unpack slot <;> rfl

section

variable {c : Codec (schema t)} (h : table.codec? t = some c)

include h

theorem packer?_of_codec? : table.packer? t = c.pack := by
  rw [packer?, h, Option.bind_some]

theorem unpacker?_of_codec? : table.unpacker? t = c.unpack := by
  rw [unpacker?, h, Option.bind_some]

theorem converter?_of_codec? : table.converter? t = c.ofMembers := by
  rw [converter?, h, Option.bind_some]

end

/-- With the same unpacker, and the converter if there is one, a slot is read as before. -/
theorem decode?_of_unpacker?_eq {after : CodecTable τ schema} {slot : Slot}
    {x : (schema t).Value} (hunpack : after.unpacker? t = table.unpacker? t)
    (hconvert : ∀ {convert}, table.converter? t = some convert →
      after.converter? t = some convert) (h : table.decode? t slot = some x) :
    after.decode? t slot = some x := by
  rw [decode?_eq] at h ⊢
  rw [hunpack]
  rcases Option.or_eq_some_iff.mp h with hread | ⟨hnone, hread⟩
  · rw [hread, Option.some_or]
  · obtain ⟨convert, hold, hx⟩ := Option.bind_eq_some_iff.mp hread
    rw [hnone, Option.none_or, hconvert hold, Option.bind_some, hx]

-- ════════════════════════════════════════════════════════════════════════
-- Codecs and handled types
-- ════════════════════════════════════════════════════════════════════════

variable (table) in
/-- Exactly the types whose codec packs or unpacks count as handled. -/
def Consistent : Prop :=
  ∀ t, table.hasHandler t = (table.codec? t).any Codec.isHandler

namespace Consistent

theorem hasHandler_eq (h : table.Consistent) {c : Codec (schema t)}
    (hc : table.codec? t = some c) : table.hasHandler t = c.isHandler := by
  rw [h t, hc, Option.any_some]

theorem packer?_eq_none (h : table.Consistent) (hfree : table.hasHandler t = false) :
    table.packer? t = none := by
  cases hc : table.codec? t with
  | none => rw [packer?, hc, Option.bind_none]
  | some c =>
    rw [h.hasHandler_eq hc] at hfree
    rw [packer?_of_codec? hc]
    exact Option.not_isSome_iff_eq_none.mp
      (Bool.not_eq_true _ ▸ (Bool.or_eq_false_iff.mp hfree).1)

theorem unpacker?_eq_none (h : table.Consistent) (hfree : table.hasHandler t = false) :
    table.unpacker? t = none := by
  cases hc : table.codec? t with
  | none => rw [unpacker?, hc, Option.bind_none]
  | some c =>
    rw [h.hasHandler_eq hc] at hfree
    rw [unpacker?_of_codec? hc]
    exact Option.not_isSome_iff_eq_none.mp
      (Bool.not_eq_true _ ▸ (Bool.or_eq_false_iff.mp hfree).2)

/-- To set a codec keeps this, if no type is deprived of packing and unpacking. -/
theorem put (h : table.Consistent) {c : Codec (schema t)}
    (hc : table.hasHandler t = true → c.isHandler = true) : (table.put t c).Consistent := by
  intro u
  rw [hasHandler_put]
  by_cases hu : u = t
  · subst hu
    rw [codec?_put_self, Option.any_some, decide_eq_true rfl, Bool.true_and,
      Bool.or_eq_left_iff_imp]
    exact hc
  · rw [codec?_put_of_ne table c hu, decide_eq_false hu, Bool.false_and, Bool.false_or]
    exact h u

theorem register (h : table.Consistent) (pack : (schema t).Value → Slot)
    (unpack : Slot → Option (schema t).Value) :
    (table.register t pack unpack).value.Consistent := by
  rw [value_register]
  split
  · exact h
  · exact h.put fun _ => rfl

theorem registerPacked (h : table.Consistent) (warnOnLossy : Bool) :
    (table.registerPacked t warnOnLossy).value.2.Consistent := by
  rw [value_registerPacked]
  split
  · exact h
  · exact h.put fun _ => rfl

/-- The codec that a converter is added to packs and unpacks as before. -/
theorem registerConverter (h : table.Consistent) (convert : Json.Members → (schema t).Value) :
    (table.registerConverter t convert).Consistent := by
  refine h.put fun hhandled => ?_
  obtain ⟨c, hc, hhandler⟩ := (Option.any_eq_true ..).mp ((h t).symm.trans hhandled)
  rw [codecOrEmpty, hc, Option.getD_some]
  split <;> exact hhandler

end Consistent

end CodecTable

end HostBridge
