import HostBridge.Proofs.Earliest
import HostBridge.Proofs.Orderly
import HostBridge.Proofs.Precompiled

/-!
# What stays when a bridge gets ready

Existing entries stay while an initializer runs, and at no other time. So an initializer
adds to what it finds: short of clearing the bridge, whatever it does, nothing that is bound,
named, marked or numbered when it starts is lost when it is done.

## Main definitions

- `Bridge.Guarded` — existing entries stay exactly while an initializer runs
- `Bridge.Keeps` — a bridge has at least what another one has
- `Bridge.keeps_ensureReady` — to get ready keeps what there is
-/

namespace HostBridge

variable {ε : Type} [Embedding ε]

/-- Initializers that clear the bridge. -/
def Initializer.Clears : Initializer ε → Prop
  | bundled _ => False
  | custom cs => .clear ∈ cs

theorem Initializer.Makes.ne_clear {i : Initializer ε} {change : Change ε} (h : i.Makes change)
    (hclears : ¬i.Clears) : change ≠ .clear := by
  rintro rfl
  cases i with
  | bundled rs =>
    obtain ⟨r, -, hr⟩ := h
    nomatch hr
  | custom cs =>
    obtain ⟨c, hc, hmakes⟩ := h
    cases c with
    | clear => exact hclears hc
    | _ => exact hmakes

namespace Bridge

variable {a b c : Bridge ε}

-- ════════════════════════════════════════════════════════════════════════
-- When existing entries stay
-- ════════════════════════════════════════════════════════════════════════

/-- Existing entries of the registry stay exactly while an initializer runs. -/
def Guarded (b : Bridge ε) : Prop :=
  b.registry.keepExisting = decide (b.phase = .initializing)

theorem guarded_apply (change : Change ε) (hpossible : change.Possible b) (h : b.Guarded) :
    (change.apply b).Guarded := by
  unfold Guarded
  rw [registry_apply, phase_apply]
  cases change with
  | register r => exact (Placement.keepExisting_placeAll b.registry r.placements).trans h
  | begin | finish => rfl
  | skip =>
    have hphase : b.phase = .uninitialized := hpossible
    exact h.trans (by rw [hphase]; rfl)
  | number | lend | release | releaseAll | work | clear | setInitializer => exact h

theorem Reachable.guarded (h : b.Reachable) : b.Guarded := by
  refine h.invariant (I := Guarded) ?_ fun _ c hpossible hd => guarded_apply c hpossible hd
  intro a hnew
  rw [Guarded, hnew.tables_eq.1, hnew.tables_eq.2.2]
  rfl

-- ════════════════════════════════════════════════════════════════════════
-- What a bridge keeps
-- ════════════════════════════════════════════════════════════════════════

/-- A bridge has every binding, name, namespace and number that another one has. -/
structure Keeps (b a : Bridge ε) : Prop where
  binding? : ∀ {key found}, a.registry.binding? key = some found →
    b.registry.binding? key = some found
  typeFor? : ∀ {hash t}, a.registry.typeFor? hash = some t → b.registry.typeFor? hash = some t
  isNamespace : ∀ {hash}, a.registry.isNamespace hash = true → b.registry.isNamespace hash = true
  ids : b.ids.Extends a.ids

namespace Keeps

theorem refl : a.Keeps a :=
  ⟨id, id, id, .refl⟩

theorem trans (hcb : c.Keeps b) (hba : b.Keeps a) : c.Keeps a where
  binding? hfound := hcb.binding? (hba.binding? hfound)
  typeFor? ht := hcb.typeFor? (hba.typeFor? ht)
  isNamespace hspace := hcb.isNamespace (hba.isNamespace hspace)
  ids := hcb.ids.trans hba.ids

/-- While existing entries stay, every change of an operation but clearing keeps what there is. -/
theorem apply {change : Change ε} (hmade : Made change) (hclear : change ≠ .clear)
    (hkeep : b.registry.keepExisting = true) : (change.apply b).Keeps b := by
  cases change with
  | register r =>
    rw [Change.apply, after_register]
    exact {
      binding? := fun hfound => Placement.binding?_placeAll_of_keeping hkeep hfound _
      typeFor? := fun ht => Placement.typeFor?_placeAll_of_keeping hkeep ht _
      isNamespace := fun hspace => (Placement.isNamespace_placeAll _ _ _).mpr (Or.inr hspace)
      ids := .refl }
  | number key =>
    -- A number is added, or they are exhausted and nothing changes.
    simp only [Change.apply, assignId, after_modifyGet]
    split
    · next hassign => exact ⟨id, id, id, BindingIds.extends_of_assign hassign⟩
    · exact refl
  | lend t object =>
    obtain ⟨handles, hhandles⟩ := exists_handles_lendObject b t object
    rw [Change.apply, hhandles]
    exact ⟨id, id, id, .refl⟩
  | clear => exact absurd rfl hclear
  | begin | finish | skip =>
    obtain ⟨c, hmakes⟩ := hmade
    cases c <;> exact absurd hmakes id
  | release | releaseAll | work | setInitializer => exact ⟨id, id, id, .refl⟩

end Keeps

/-- An initializer that does not clear the bridge keeps what it finds. -/
theorem keeps_of_makes {i : Initializer ε} (h : Changes i.Makes b c) (hclears : ¬i.Clears)
    (hphase : b.phase = .initializing) (hb : b.Guarded) : c.Keeps b := by
  -- The phase carries the induction: existing entries stay while the initializer runs.
  have hinvariant : c.Keeps b ∧ c.phase = .initializing ∧ c.Guarded := by
    refine h.invariant (I := fun d => d.Keeps b ∧ d.phase = .initializing ∧ d.Guarded)
      ⟨.refl, hphase, hb⟩ ?_
    rintro d change hmakes hpossible ⟨hkeeps, hd, hguarded⟩
    obtain ⟨command, hcommand⟩ := made_of_makes hmakes
    have hkeep : d.registry.keepExisting = true := hguarded.trans (decide_eq_true hd)
    have hstep : (change.apply d).Keeps d :=
      Keeps.apply (made_of_makes hmakes) (hmakes.ne_clear hclears) hkeep
    refine ⟨hstep.trans hkeeps, ?_, ?_⟩
    · rw [phase_apply_of_makes d hcommand, hd]
    · exact guarded_apply change hpossible hguarded
  exact hinvariant.1

/-- A bridge that gets ready keeps what it has, unless its initializer clears it. -/
theorem keeps_ensureReady (b : Bridge ε) (kept : List ObjectRef)
    (h : ∀ i, b.phase = .uninitialized → b.initializer = some i → ¬i.Clears) :
    (b.after (ensureReady kept)).Keeps b := by
  by_cases hs : b.Settled
  · rw [after_ensureReady_of_settled hs]
    exact .refl
  · have hphase : b.phase = .uninitialized := Decidable.not_not.mp hs
    cases hinit : b.initializer with
    | none =>
      rw [after_ensureReady_of_none hphase hinit]
      exact ⟨id, id, id, .refl⟩
    | some i =>
      obtain ⟨d, replies, hd, hinstall⟩ := exists_changes_install b.begun kept i
      have hkeeps : d.Keeps b.begun := keeps_of_makes hd (h i hphase hinit) rfl rfl
      rw [after_ensureReady_of_some hphase hinit, hinstall]
      exact ⟨hkeeps.binding?, hkeeps.typeFor?, hkeeps.isNamespace, hkeeps.ids⟩

end Bridge

end HostBridge
