import HostBridge.Binding.Registry

/-!
# What registration does to a registry

Each operation of a registry is read back through its views: the binding of a key, the
type with a name, and whether a name is that of a namespace. A registration *gives way*
if existing entries stay and there is one already; otherwise it takes effect. An
operation on one of the three tables leaves the other two as they were.
-/

namespace HostBridge.Registry

variable {τ β : Type} (r : Registry τ β)

-- ════════════════════════════════════════════════════════════════════════
-- Marking a namespace
-- ════════════════════════════════════════════════════════════════════════

@[simp] theorem bindings_markNamespace (hash : UInt32) :
    (r.markNamespace hash).bindings = r.bindings := by
  unfold markNamespace
  split <;> rfl

@[simp] theorem typeNames_markNamespace (hash : UInt32) :
    (r.markNamespace hash).typeNames = r.typeNames := by
  unfold markNamespace
  split <;> rfl

@[simp] theorem keepExisting_markNamespace (hash : UInt32) :
    (r.markNamespace hash).keepExisting = r.keepExisting := by
  unfold markNamespace
  split <;> rfl

theorem isNamespace_markNamespace (hash other : UInt32) :
    (r.markNamespace hash).isNamespace other =
      (decide (other = hash) || r.isNamespace other) := by
  unfold markNamespace
  split
  · next hm =>
    by_cases ho : other = hash
    · subst ho
      simp [hm]
    · simp [ho]
  · by_cases ho : other = hash <;> simp [isNamespace, ho]

-- ════════════════════════════════════════════════════════════════════════
-- Views of equal tables
-- ════════════════════════════════════════════════════════════════════════

theorem typeFor?_congr {r r' : Registry τ β} (h : r'.typeNames = r.typeNames) :
    r'.typeFor? = r.typeFor? := by
  funext hash
  unfold typeFor?
  rw [h]

theorem isNamespace_congr {r r' : Registry τ β} (h : r'.namespaces = r.namespaces) :
    r'.isNamespace = r.isNamespace := by
  funext hash
  unfold isNamespace
  rw [h]

variable [DecidableEq τ]

theorem binding?_congr {r r' : Registry τ β} (h : r'.bindings = r.bindings) :
    r'.binding? = r.binding? := by
  funext key
  unfold binding?
  rw [h]

theorem contains_congr {r r' : Registry τ β} (h : r'.bindings = r.bindings) :
    r'.contains = r.contains := by
  funext key
  unfold contains
  rw [binding?_congr h]

/-- A handler is bound unless its key gives way. -/
theorem value_insert (key : Key τ) (member : String) (handler : β) :
    (r.insert key member handler).value =
      if r.keepExisting && r.contains key then r
      else { r with bindings := Assoc.put r.bindings key ⟨member, handler⟩ } := by
  unfold insert contains
  cases hold : r.binding? key with
  | none => simp
  | some old =>
    cases hkeep : r.keepExisting with
    | true => simp
    | false => by_cases hm : old.member = member <;> simp [hm]

/-- A type gets a name unless the name gives way. -/
theorem value_nameType (hash : UInt32) (t : τ) :
    (r.nameType hash t).value =
      if r.keepExisting && (r.typeFor? hash).isSome then r
      else { r with typeNames := Assoc.put r.typeNames hash t } := by
  unfold nameType
  cases hold : r.typeFor? hash with
  | none => simp
  | some old =>
    cases hkeep : r.keepExisting with
    | true => simp
    | false => by_cases ht : old = t <;> simp [ht]

-- ════════════════════════════════════════════════════════════════════════
-- Binding a handler
-- ════════════════════════════════════════════════════════════════════════

@[simp] theorem typeNames_insert (key : Key τ) (member : String) (handler : β) :
    (r.insert key member handler).value.typeNames = r.typeNames := by
  rw [value_insert]
  split <;> rfl

@[simp] theorem namespaces_insert (key : Key τ) (member : String) (handler : β) :
    (r.insert key member handler).value.namespaces = r.namespaces := by
  rw [value_insert]
  split <;> rfl

@[simp] theorem keepExisting_insert (key : Key τ) (member : String) (handler : β) :
    (r.insert key member handler).value.keepExisting = r.keepExisting := by
  rw [value_insert]
  split <;> rfl

theorem binding?_insert_of_ne {key other : Key τ} (member : String) (handler : β)
    (h : other ≠ key) :
    (r.insert key member handler).value.binding? other = r.binding? other := by
  rw [value_insert]
  split
  · rfl
  · exact Assoc.get?_put_of_ne r.bindings _ h

/-- The key itself has the new binding, or the old one if it gives way. -/
theorem binding?_insert_self (key : Key τ) (member : String) (handler : β) :
    (r.insert key member handler).value.binding? key =
      if r.keepExisting && r.contains key then r.binding? key else some ⟨member, handler⟩ := by
  rw [value_insert]
  split
  · rfl
  · exact Assoc.get?_put_self r.bindings _ _

/-- A handler that is bound afterwards is the new one or was bound before. -/
theorem binding?_insert_cases {key other : Key τ} {member : String} {handler : β}
    {found : Binding β}
    (h : (r.insert key member handler).value.binding? other = some found) :
    other = key ∧ found = ⟨member, handler⟩ ∨ r.binding? other = some found := by
  by_cases hk : other = key
  · subst hk
    rw [binding?_insert_self] at h
    split at h
    · exact Or.inr h
    · exact Or.inl ⟨rfl, (Option.some.inj h).symm⟩
  · rw [binding?_insert_of_ne r member handler hk] at h
    exact Or.inr h

theorem contains_insert (key other : Key τ) (member : String) (handler : β) :
    (r.insert key member handler).value.contains other =
      (decide (other = key) || r.contains other) := by
  by_cases hk : other = key
  · subst hk
    unfold contains
    rw [binding?_insert_self]
    split
    · next hw => simpa [contains] using (Bool.and_eq_true_iff.mp hw).2
    · simp
  · unfold contains
    rw [binding?_insert_of_ne r member handler hk]
    simp [hk]

-- ════════════════════════════════════════════════════════════════════════
-- Bound keys
-- ════════════════════════════════════════════════════════════════════════

/-- No key is bound twice. -/
def Distinct : Prop :=
  (r.bindings.map (·.1)).Nodup

omit [DecidableEq τ] in
theorem distinct_of_bindings_eq {r r' : Registry τ β} (h : r'.bindings = r.bindings)
    (hr : r.Distinct) : r'.Distinct := by
  unfold Distinct
  rw [h]
  exact hr

theorem contains_iff_mem (key : Key τ) :
    r.contains key = true ↔ key ∈ r.bindings.map (·.1) := by
  unfold contains binding? Assoc.get?
  rw [Option.isSome_map, List.find?_isSome]
  simp only [List.mem_map, decide_eq_true_eq]

theorem distinct_insert (h : r.Distinct) (key : Key τ) (member : String) (handler : β) :
    (r.insert key member handler).value.Distinct := by
  rw [value_insert]
  split
  · exact h
  · have hothers : ((r.bindings.filter (·.1 ≠ key)).map (·.1)).Nodup :=
      List.Sublist.nodup (List.Sublist.map _ List.filter_sublist) h
    refine List.nodup_cons.mpr ⟨?_, hothers⟩
    intro hmem
    obtain ⟨p, hp, hkey⟩ := List.mem_map.mp hmem
    exact of_decide_eq_true (List.mem_filter.mp hp).2 hkey

-- ════════════════════════════════════════════════════════════════════════
-- Naming a type
-- ════════════════════════════════════════════════════════════════════════

@[simp] theorem bindings_nameType (hash : UInt32) (t : τ) :
    (r.nameType hash t).value.bindings = r.bindings := by
  rw [value_nameType]
  split <;> rfl

@[simp] theorem namespaces_nameType (hash : UInt32) (t : τ) :
    (r.nameType hash t).value.namespaces = r.namespaces := by
  rw [value_nameType]
  split <;> rfl

@[simp] theorem keepExisting_nameType (hash : UInt32) (t : τ) :
    (r.nameType hash t).value.keepExisting = r.keepExisting := by
  rw [value_nameType]
  split <;> rfl

-- ════════════════════════════════════════════════════════════════════════
-- Looking up by name
-- ════════════════════════════════════════════════════════════════════════

variable {name : UInt32} {keyOf : Owner τ → Key τ} {isStatic : Bool}

/-- Whether a name leads to a member of the namespace with this name: it has to be that of
    a namespace, and a static member has to be bound there. -/
def InNamespace (name : UInt32) (keyOf : Owner τ → Key τ) (isStatic : Bool) : Prop :=
  isStatic = true ∧ r.isNamespace name = true ∧ r.contains (keyOf (.named name)) = true

theorem keyByName?_of_inNamespace (h : r.InNamespace name keyOf isStatic) :
    r.keyByName? name keyOf isStatic = some (keyOf (.named name)) := by
  obtain ⟨hstatic, hspace, hbound⟩ := h
  simp [keyByName?, hstatic, hspace, hbound]

/-- Any other name leads to the host type with this name. -/
theorem keyByName?_of_not_inNamespace (h : ¬r.InNamespace name keyOf isStatic) :
    r.keyByName? name keyOf isStatic =
      (r.typeFor? name).bind fun t =>
        if r.contains (keyOf (.hostType t)) then some (keyOf (.hostType t)) else none := by
  have hfalse : (isStatic && r.isNamespace name && r.contains (keyOf (.named name))) = false := by
    rw [Bool.eq_false_iff]
    intro htrue
    simp only [Bool.and_eq_true] at htrue
    exact h ⟨htrue.1.1, htrue.1.2, htrue.2⟩
  simp [keyByName?, hfalse]

/-- A name leads to a bound member of the namespace, or else of the host type, with it. -/
theorem keyByName?_cases {key : Key τ} (h : r.keyByName? name keyOf isStatic = some key) :
    r.contains key = true ∧
      (r.InNamespace name keyOf isStatic ∧ key = keyOf (.named name) ∨
        ¬r.InNamespace name keyOf isStatic ∧
          ∃ t, r.typeFor? name = some t ∧ key = keyOf (.hostType t)) := by
  by_cases hspace : r.InNamespace name keyOf isStatic
  · rw [keyByName?_of_inNamespace r hspace] at h
    obtain rfl := Option.some.inj h
    exact ⟨hspace.2.2, Or.inl ⟨hspace, rfl⟩⟩
  · rw [keyByName?_of_not_inNamespace r hspace] at h
    obtain ⟨t, ht, h⟩ := Option.bind_eq_some_iff.mp h
    split at h
    · next hbound =>
      obtain rfl := Option.some.inj h
      exact ⟨hbound, Or.inr ⟨hspace, t, ht, rfl⟩⟩
    · exact absurd h (by simp)

end HostBridge.Registry
