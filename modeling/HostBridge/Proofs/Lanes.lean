import HostBridge.Host.Conversion
import HostBridge.Playground.Basic
import HostBridge.Proofs.CodecTable

/-!
# Lanes of packed values

A value that packs into lanes is compared field by field with the vector that it crosses in. The
codec walks along the fields by an index, to read a lane and to store one. Either way it comes to
the field at that index. So each of the first four fields takes its own lane and all others keep
the default, and nothing else decides what a value comes back as.

## Main definitions

- `FieldType.laneForm`, `FieldType.ofLane` — the lane form of a value, and the value of a lane
- `Record.get`, `Record.lanes` — the value of a field, and the lane forms of the first four
- `Schema.Takes` — the default with its first four fields from lanes
- `CodecTable.Packs` — what a table does with a type that packs into lanes
- `CodecTable.packs_registerPacked` — it does so once the type is registered
-/

namespace HostBridge

namespace FieldType

/-- The lane form of a value; zero for a type without lanes. -/
def laneForm : (t : FieldType) → t.Carrier → Float32
  | lane k, x => k.toLane x
  | _, _ => 0

/-- The value of a lane; zero for a type without lanes. -/
def ofLane : (t : FieldType) → Float32 → t.Carrier
  | lane k, x => k.ofLane x
  | t, _ => t.zero

theorem ofLane_laneForm {t : FieldType} (h : t = lane .float32) (x : t.Carrier) :
    t.ofLane (t.laneForm x) = x := by
  subst h
  rfl

end FieldType

/-- The lane at an index; zero past the last one. -/
def Vec4.lane (v : Vec4) : Nat → Float32
  | 0 => v.x
  | 1 => v.y
  | 2 => v.z
  | 3 => v.w
  | _ => 0

theorem Vec4.getElem?_lanes (v : Vec4) {i : Nat} (h : i < 4) :
    [v.x, v.y, v.z, v.w][i]? = some (v.lane i) := by
  match i with
  | 0 | 1 | 2 | 3 => rfl
  | i + 4 => omega

namespace Record

variable {f : Field} {fs : List Field}

/-- The value of a field. -/
def get : {fs : List Field} → Record fs → (i : Fin fs.length) → fs[i].type.Carrier
  | _ :: _, (x, _), ⟨0, _⟩ => x
  | _ :: _, (_, rest), ⟨i + 1, h⟩ => rest.get ⟨i, Nat.lt_of_succ_lt_succ h⟩

/-- The lane form of the field at an index; zero past the last one. -/
def laneAt (r : Record fs) (i : Nat) : Float32 :=
  if h : i < fs.length then fs[i].type.laneForm (r.get ⟨i, h⟩) else 0

/-- The lane forms of the first four fields. -/
def lanes (r : Record fs) : Vec4 :=
  ⟨r.laneAt 0, r.laneAt 1, r.laneAt 2, r.laneAt 3⟩

theorem ext {r s : Record fs} (h : ∀ i, r.get i = s.get i) : r = s := by
  induction fs with
  | nil => rfl
  | cons f fs ih =>
    obtain ⟨x, r⟩ := r
    obtain ⟨y, s⟩ := s
    have hfirst : x = y := h 0
    have hrest : r = s := ih fun i => h i.succ
    rw [hfirst, hrest]

theorem laneAt_of_lt (r : Record fs) {i : Nat} (h : i < fs.length) :
    r.laneAt i = fs[i].type.laneForm (r.get ⟨i, h⟩) :=
  dif_pos h

theorem laneAt_of_le (r : Record fs) {i : Nat} (h : fs.length ≤ i) : r.laneAt i = 0 :=
  dif_neg (Nat.not_lt.mpr h)

theorem lane_lanes (r : Record fs) {i : Nat} (h : i < 4) : r.lanes.lane i = r.laneAt i := by
  match i with
  | 0 | 1 | 2 | 3 => rfl
  | i + 4 => omega

theorem readLane_succ (r : Record (f :: fs)) (i : Nat) :
    readLane (f :: fs) r (i + 1) = readLane fs r.2 i := by
  obtain ⟨name, type⟩ := f
  cases type <;> rfl

theorem writeLane_succ (r : Record (f :: fs)) (i : Nat) (x : Float32) :
    writeLane (f :: fs) r (i + 1) x = (r.1, writeLane fs r.2 i x) := by
  obtain ⟨name, type⟩ := f
  cases type <;> rfl

theorem laneAt_succ (r : Record (f :: fs)) (i : Nat) : r.laneAt (i + 1) = laneAt r.2 i :=
  dite_congr (propext Nat.succ_lt_succ_iff) (fun _ => rfl) fun _ => rfl

theorem readLane_eq_laneAt (r : Record fs) (i : Nat) : readLane fs r i = r.laneAt i := by
  induction fs generalizing i with
  | nil => rfl
  | cons f fs ih =>
    cases i with
    | zero =>
      obtain ⟨name, type⟩ := f
      cases type <;> rfl
    | succ i => exact (readLane_succ r i).trans ((ih r.2 i).trans (laneAt_succ r i).symm)

theorem get_writeLane_self (r : Record fs) (x : Float32) {i : Fin fs.length}
    (h : ∃ k, fs[i].type = .lane k) : (writeLane fs r i x).get i = fs[i].type.ofLane x := by
  induction fs with
  | nil => exact i.elim0
  | cons f fs ih =>
    cases i using Fin.cases with
    | zero =>
      obtain ⟨name, type⟩ := f
      obtain ⟨k, rfl⟩ : ∃ k, type = .lane k := h
      rfl
    | succ i =>
      show (writeLane (f :: fs) r (i + 1) x).get i.succ = _
      rw [writeLane_succ]
      exact ih r.2 h

theorem get_writeLane_of_ne (r : Record fs) (x : Float32) {i : Nat} {j : Fin fs.length}
    (h : i ≠ j) : (writeLane fs r i x).get j = r.get j := by
  induction fs generalizing i with
  | nil => exact j.elim0
  | cons f fs ih =>
    cases i with
    | zero =>
      obtain ⟨name, type⟩ := f
      cases j using Fin.cases with
      | zero => exact absurd rfl h
      | succ j => cases type <;> rfl
    | succ i =>
      rw [writeLane_succ]
      cases j using Fin.cases with
      | zero => rfl
      | succ j => exact ih r.2 fun hij => h (congrArg Nat.succ hij)

end Record

namespace Schema

/-- A struct type with fields, all of which are numeric. -/
structure Packable (s : Schema) : Prop where
  nonempty : s.fields ≠ []
  numeric : ∀ f ∈ s.fields, ∃ k, f.type = .lane k

variable {s : Schema}

theorem Packable.laneFields_eq (hs : s.Packable) : s.laneFields = s.fields := by
  have hall : s.fields.all (·.type.laneKind?.isSome) = true := by
    rw [List.all_eq_true]
    intro f hf
    obtain ⟨k, hk⟩ := hs.numeric f hf
    rw [hk]
    rfl
  rw [laneFields, if_pos hall]

/-- Lanes are stored into the fields from an index on, one each. -/
theorem get_writeLanes (hs : s.Packable) (r : s.Value) (index : Nat) (lanes : List Float32)
    (i : Fin s.fields.length) :
    (s.writeLanes r index lanes).get i =
      if (i : Nat) < index then r.get i
      else lanes[i - index]?.elim (r.get i) s.fields[i].type.ofLane := by
  induction lanes generalizing r index with
  | nil => simp [writeLanes]
  | cons x lanes ih =>
    rw [writeLanes, ih]
    by_cases hat : index = i
    · subst hat
      have hnumeric := hs.numeric s.fields[i] (List.getElem_mem i.isLt)
      simp [Record.get_writeLane_self r x hnumeric]
    · rw [Record.get_writeLane_of_ne r x hat]
      by_cases hbefore : (i : Nat) < index
      · rw [if_pos (by omega), if_pos hbefore]
      · have hrest : (i : Nat) - index = i - (index + 1) + 1 := by omega
        rw [if_neg (by omega), if_neg hbefore, hrest, List.getElem?_cons_succ]

/-- A value is the default but for its first four fields, which are those of lanes. -/
def Takes (s : Schema) (v : Vec4) (r : s.Value) : Prop :=
  ∀ i : Fin s.fields.length,
    r.get i = if (i : Nat) < 4 then s.fields[i].type.ofLane (v.lane i) else s.default.get i

theorem takes_writeLanes (hs : s.Packable) (v : Vec4) :
    s.Takes v (s.writeLanes s.default 0 ([v.x, v.y, v.z, v.w].take s.lanes)) := by
  intro i
  have hpacked : (i : Nat) < s.lanes ↔ (i : Nat) < 4 := by
    have hi := i.isLt
    unfold lanes
    omega
  rw [get_writeLanes hs, if_neg (Nat.not_lt_zero _), Nat.sub_zero, List.getElem?_take]
  by_cases hi : (i : Nat) < 4
  · rw [if_pos (hpacked.mpr hi), if_pos hi, v.getElem?_lanes hi]
    rfl
  · rw [if_neg (mt hpacked.mp hi), if_neg hi]
    rfl

theorem packSlot_eq (x : s.Value) :
    s.packSlot x =
      if s.fields.length ≤ 3 then .vector3 x.lanes.truncate else .vector4 x.lanes := by
  have hlanes : s.lanes ≤ 3 ↔ s.fields.length ≤ 3 := by
    unfold lanes
    omega
  unfold packSlot
  simp only [Record.readLane_eq_laneAt, hlanes]
  rfl

/-- A vector of three lanes has the lanes of a value that has no more fields. -/
theorem extend_truncate_lanes {x : s.Value} (h : s.fields.length ≤ 3) :
    x.lanes.truncate.extend 0 = x.lanes := by
  have hlast : x.laneAt 3 = 0 := x.laneAt_of_le h
  rw [Record.lanes, hlast]
  rfl

/-- What takes the lanes of a value takes those of its first four fields. -/
theorem Takes.get_eq {x r : s.Value} (h : s.Takes x.lanes r) (i : Fin s.fields.length) :
    r.get i =
      if (i : Nat) < 4 then s.fields[i].type.ofLane (s.fields[i].type.laneForm (x.get i))
      else s.default.get i := by
  rw [h i]
  by_cases hi : (i : Nat) < 4
  · rw [if_pos hi, if_pos hi, x.lane_lanes hi, x.laneAt_of_lt i.isLt]
    rfl
  · rw [if_neg hi, if_neg hi]

end Schema

namespace CodecTable

variable {τ : Type} [DecidableEq τ] {schema : τ → Schema}

/-- What a table does with a type that packs into lanes. -/
structure Packs (table : CodecTable τ schema) (t : τ) : Prop where
  /-- A value crosses in a vector of its lanes, which is a short one if three are enough. -/
  encode? : ∀ x, table.encode? t x = some
    (if (schema t).fields.length ≤ 3 then .vector3 x.lanes.truncate else .vector4 x.lanes)
  /-- A vector of three lanes has a zero for the fourth. -/
  vector3 : ∀ v : Vec3, ∃ r, table.decode? t (.vector3 v) = some r ∧
    (schema t).Takes (v.extend 0) r
  vector4 : ∀ v : Vec4, ∃ r, table.decode? t (.vector4 v) = some r ∧ (schema t).Takes v r
  /-- The unpacker takes vectors only. -/
  refuses : ∃ unpack, table.unpacker? t = some unpack ∧
    ∀ slot : Slot, slot.kind ≠ .vector3 → slot.kind ≠ .vector4 → unpack slot = none
  /-- The first four fields of a value come back by way of their lanes, and no others. -/
  comesBack : ∀ x, ∃ slot r, table.encode? t x = some slot ∧ table.decode? t slot = some r ∧
    ∀ i, r.get i =
      if (i : Nat) < 4 then
        (schema t).fields[i].type.ofLane ((schema t).fields[i].type.laneForm (x.get i))
      else (schema t).default.get i
  /-- A value of no more than four 32-bit floats comes back itself. -/
  exact : (schema t).fields.length ≤ 4 →
    (∀ f ∈ (schema t).fields, f.type = .lane .float32) →
    ∀ x, (table.encode? t x).bind (table.decode? t) = some x

theorem packs_of_codec? {table : CodecTable τ schema} {t : τ} (hs : (schema t).Packable)
    (h : table.codec? t = some (Codec.packing (schema t))) : table.Packs t := by
  have hencode (x : (schema t).Value) : table.encode? t x = some
      (if (schema t).fields.length ≤ 3 then .vector3 x.lanes.truncate
        else .vector4 x.lanes) := by
    rw [encode?_eq, packer?_of_codec? h, ← Schema.packSlot_eq]
    rfl
  have hvector3 (v : Vec3) : ∃ r, table.decode? t (.vector3 v) = some r ∧
      (schema t).Takes (v.extend 0) r := by
    refine ⟨_, ?_, Schema.takes_writeLanes hs (v.extend 0)⟩
    rw [decode?_eq, unpacker?_of_codec? h]
    rfl
  have hvector4 (v : Vec4) : ∃ r, table.decode? t (.vector4 v) = some r ∧
      (schema t).Takes v r := by
    refine ⟨_, ?_, Schema.takes_writeLanes hs v⟩
    rw [decode?_eq, unpacker?_of_codec? h]
    rfl
  have hlanes (x : (schema t).Value) : ∃ slot r, table.encode? t x = some slot ∧
      table.decode? t slot = some r ∧ (schema t).Takes x.lanes r := by
    by_cases hshort : (schema t).fields.length ≤ 3
    · obtain ⟨r, hr, htakes⟩ := hvector3 x.lanes.truncate
      rw [Schema.extend_truncate_lanes hshort] at htakes
      exact ⟨_, r, (hencode x).trans (congrArg some (if_pos hshort)), hr, htakes⟩
    · obtain ⟨r, hr, htakes⟩ := hvector4 x.lanes
      exact ⟨_, r, (hencode x).trans (congrArg some (if_neg hshort)), hr, htakes⟩
  refine
    { encode? := hencode
      vector3 := hvector3
      vector4 := hvector4
      refuses := ⟨_, unpacker?_of_codec? h, fun slot h3 h4 => ?_⟩
      comesBack := fun x => ?_
      exact := fun hfour hfloats x => ?_ }
  · cases slot with
    | vector3 v => exact absurd rfl h3
    | vector4 v => exact absurd rfl h4
    | _ => rfl
  · obtain ⟨slot, r, hslot, hr, htakes⟩ := hlanes x
    exact ⟨slot, r, hslot, hr, htakes.get_eq⟩
  · obtain ⟨slot, r, hslot, hr, htakes⟩ := hlanes x
    have hsame : r = x := by
      apply Record.ext
      intro i
      have hi : (i : Nat) < 4 := Nat.lt_of_lt_of_le i.isLt hfour
      have hfloat := hfloats (schema t).fields[i] (List.getElem_mem i.isLt)
      rw [htakes.get_eq, if_pos hi, FieldType.ofLane_laneForm hfloat]
    rw [hslot, Option.bind_some, hr, hsame]

/-- A type with fields, all of which are numeric, packs into lanes once it is registered. Only
while built-in codecs are registered does the codec stay that handles the type already, and then
nothing changes. -/
theorem packs_registerPacked (table : CodecTable τ schema) {t : τ} (hs : (schema t).Packable)
    (warn : Bool) :
    if table.keepExisting && table.hasHandler t then
      (table.registerPacked t warn).value = (false, table)
    else ∃ packed, (table.registerPacked t warn).value = (true, packed) ∧ packed.Packs t := by
  have hfields : (schema t).laneFields.isEmpty = false := by
    rw [hs.laneFields_eq, List.isEmpty_eq_false_iff]
    exact hs.nonempty
  rw [value_registerPacked, hfields, Bool.or_false]
  by_cases hkept : (table.keepExisting && table.hasHandler t) = true
  · rw [if_pos hkept, if_pos hkept]
  · rw [if_neg hkept, if_neg hkept]
    exact ⟨_, rfl, packs_of_codec? hs (codec?_put_self table _)⟩

/-- A type of five floats is packed, and its last field comes back as the default. -/
theorem packs_registerPacked_wide :
    let t : HostType Playground := .own .wide
    let table : Codecs Playground := {}
    let packed := (table.registerPacked t true).value.2
    t.schema.Packable ∧ (table.keepExisting && table.hasHandler t) = false ∧ packed.Packs t ∧
      ∀ a b c d e : Float32,
        (packed.encode? t (a, b, c, d, e, ())).bind (packed.decode? t) =
          some (a, b, c, d, 0, ()) := by
  intro t table packed
  have hs : t.schema.Packable :=
    { nonempty := by decide
      numeric := by
        intro f hf
        obtain ⟨name, -, rfl⟩ := List.mem_map.mp hf
        exact ⟨.float32, rfl⟩ }
  obtain ⟨later, hvalue, hpacks⟩ := packs_registerPacked table hs true
  obtain rfl : packed = later := congrArg Prod.snd hvalue
  exact ⟨hs, rfl, hpacks, fun a b c d e => rfl⟩

end CodecTable

end HostBridge
