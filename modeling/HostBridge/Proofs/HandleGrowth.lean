import HostBridge.Proofs.HandleRuns

/-!
# What uses of a handle table leave alone

A table that has been in use for a while is used on. Its live handles keep their entries until
they are taken back, a handle that has been taken back never comes back, and registrations put
one entry each behind the old ones, under the numbers that come next, as long as there are any.

## Main definitions

- `HandleTable.performAll` — a table after a list of uses
- `HandleTable.Retired` — a handle that was issued and is not live
- `HandleTable.Grown` — a table after registrations

## Main statements

- `HandleTable.entry?_performAll_of_kept`, `HandleTable.Retired.performAll`,
  `HandleTable.Sound.grown` — what uses leave alone, and what they add
-/

namespace HostBridge.HandleTable

variable {τ α : Type} {t t' : HandleTable τ α} {h : Handle} {e : HandleEntry τ α}
  {us : List (Use τ α)}

/-- The table after uses, one after the other. -/
def performAll (t : HandleTable τ α) (us : List (Use τ α)) : HandleTable τ α :=
  us.foldl (fun t u => (t.perform u).2) t

@[simp] theorem performAll_nil : t.performAll [] = t := rfl

@[simp] theorem performAll_cons (u : Use τ α) :
    t.performAll (u :: us) = (t.perform u).2.performAll us := rfl

theorem performAll_append (us us' : List (Use τ α)) :
    t.performAll (us ++ us') = (t.performAll us).performAll us' :=
  List.foldl_append

theorem performAll_register (e : HandleEntry τ α) :
    t.performAll [.register e] = match t.register e with
      | .ok (_, t') => t'
      | .error _ => t := by
  rw [performAll_cons, performAll_nil, perform]
  cases t.register e <;> rfl

theorem run_snd (us : List (Use τ α)) : (run us).2 = performAll {} us := by
  induction us using List.reverseRecOn with
  | nil => rfl
  | append_singleton us u ih =>
    rw [run_append_singleton, performAll_append, ih]
    rfl

theorem Sound.performAll (ht : t.Sound) (us : List (Use τ α)) : (t.performAll us).Sound := by
  induction us generalizing t with
  | nil => exact ht
  | cons u us ih => exact ih (ht.perform u)

-- ════════════════════════════════════════════════════════════════════════
-- Live handles
-- ════════════════════════════════════════════════════════════════════════

theorem entry?_perform_of_kept (ht : t.Sound) (hentry : t.entry? h = some e) {u : Use τ α}
    (hrelease : u ≠ .release h) (hclear : u ≠ .clear) : entry? (t.perform u).2 h = some e := by
  cases u with
  | register new => exact (entry?_perform_register_iff ht).mpr (Or.inr ⟨hentry, nofun, nofun⟩)
  | release k =>
    have hk : h ≠ k := fun hk => hrelease (by rw [hk])
    exact entry?_release.trans ((if_neg hk).trans hentry)
  | clear => exact absurd rfl hclear

/-- A live handle keeps its entry until it is taken back. -/
theorem entry?_performAll_of_kept (ht : t.Sound) (hentry : t.entry? h = some e)
    (hrelease : .release h ∉ us) (hclear : .clear ∉ us) :
    entry? (t.performAll us) h = some e := by
  induction us generalizing t with
  | nil => exact hentry
  | cons u us ih =>
    rw [List.mem_cons, not_or] at hrelease hclear
    have hfirst : entry? (t.perform u).2 h = some e :=
      entry?_perform_of_kept ht hentry (Ne.symm hrelease.1) (Ne.symm hclear.1)
    exact ih (ht.perform u) hfirst hrelease.2 hclear.2

-- ════════════════════════════════════════════════════════════════════════
-- Handles that have been taken back
-- ════════════════════════════════════════════════════════════════════════

/-- A handle that was issued and is not live any more. -/
structure Retired (t : HandleTable τ α) (h : Handle) : Prop where
  issued : h.number < t.next
  entry?_eq_none : t.entry? h = none

theorem Sound.retired_release (ht : t.Sound) (hlive : t.contains h = true) :
    (t.release h).Retired h where
  issued := ht.bounded h (contains_iff_mem_handles.mp hlive)
  entry?_eq_none := entry?_release.trans (if_pos rfl)

theorem Retired.perform (hretired : t.Retired h) (ht : t.Sound) (u : Use τ α) :
    (t.perform u).2.Retired h := by
  obtain ⟨hissued, hnone⟩ := hretired
  cases u with
  | register new =>
    cases hregister : t.register new with
    | ok issued =>
      obtain ⟨k, t'⟩ := issued
      obtain ⟨hnumber, hafter⟩ := register_eq_ok_iff.mp hregister
      have hfresh : t.entry? k = none := ht.entry?_eq_none (Nat.le_of_eq hnumber.symm)
      -- The number that is issued next is none that was issued before.
      have hk : h ≠ k := by
        rintro rfl
        omega
      rw [perform_register_of_ok hregister]
      refine ⟨?_, (entry?_register hregister hfresh).trans ((if_neg hk).trans hnone)⟩
      rw [hafter]
      exact Nat.lt_succ_of_lt hissued
    | error error =>
      rw [perform_register_of_error hregister]
      exact ⟨hissued, hnone⟩
  | release k =>
    refine ⟨hissued, entry?_release.trans ?_⟩
    split
    · rfl
    · exact hnone
  | clear => exact ⟨hissued, rfl⟩

/-- A handle that has been taken back never comes back. -/
theorem Retired.performAll (hretired : t.Retired h) (ht : t.Sound) (us : List (Use τ α)) :
    (t.performAll us).Retired h := by
  induction us generalizing t with
  | nil => exact hretired
  | cons u us ih => exact ih (hretired.perform ht u) (ht.perform u)

theorem Retired.resolve?_eq_none (hretired : t.Retired h) : t.resolve? h = none := by
  rw [resolve?, hretired.entry?_eq_none]
  rfl

theorem Retired.resolveAs?_eq_none [DecidableEq τ] (hretired : t.Retired h) (owner : τ) :
    t.resolveAs? owner h = none := by
  rw [resolveAs?, hretired.entry?_eq_none]
  rfl

-- ════════════════════════════════════════════════════════════════════════
-- Growth
-- ════════════════════════════════════════════════════════════════════════

/-- A table after registrations: the old entries, and behind them one for each object, under
    fresh handles with the numbers that come next. Objects for which there is no number left
    get no handle. -/
def Grown (t : HandleTable τ α) (es : List (HandleEntry τ α)) (t' : HandleTable τ α) : Prop :=
  ∃ added : List (Handle × HandleEntry τ α), t'.entries = t.entries ++ added ∧
    added.map (·.2) = es.take (2 ^ 31 - t.next) ∧
    added.map (·.1.number) = List.range' t.next added.length ∧
    ∀ p ∈ added, t.entry? p.1 = none

theorem Sound.grown (ht : t.Sound) (es : List (HandleEntry τ α)) :
    t.Grown es (t.performAll (es.map .register)) := by
  induction es generalizing t with
  | nil => exact ⟨[], (List.append_nil _).symm, List.take_nil.symm, rfl, nofun⟩
  | cons e es ih =>
    rw [List.map_cons, performAll_cons]
    cases hregister : t.register e with
    | error error =>
      rw [perform_register_of_error hregister]
      obtain ⟨added, hentries, hobjects, hnumbers, hfresh⟩ := ih ht
      -- No number is left, so there is none for the objects behind this one either.
      have hleft : 2 ^ 31 - t.next = 0 := by
        by_contra hleft
        obtain ⟨k, t', hok⟩ := exists_register_eq_ok e ht.positive (by omega)
        rw [hregister] at hok
        exact absurd hok (by simp)
      rw [hleft, List.take_zero] at hobjects
      exact ⟨added, hentries, by rw [hleft, List.take_zero, hobjects], hnumbers, hfresh⟩
    | ok issued =>
      obtain ⟨k, t'⟩ := issued
      rw [perform_register_of_ok hregister]
      obtain ⟨hnumber, hafter⟩ := register_eq_ok_iff.mp hregister
      obtain ⟨added, hentries, hobjects, hnumbers, hfresh⟩ := ih (ht.register hregister)
      have hbounded := k.bounded
      have hleft : 2 ^ 31 - t.next = 2 ^ 31 - (t.next + 1) + 1 := by omega
      subst hafter
      refine ⟨(k, e) :: added, ?_, ?_, ?_, ?_⟩
      · rw [hentries, List.append_assoc]
        rfl
      · rw [hleft, List.take_succ_cons, List.map_cons, hobjects]
      · rw [List.map_cons, hnumbers, hnumber, List.length_cons, List.range'_succ]
      · intro p hp
        rcases List.mem_cons.mp hp with rfl | hold
        · exact ht.entry?_eq_none (Nat.le_of_eq hnumber.symm)
        · have hnone := entry?_eq_none_iff.mp (hfresh p hold)
          rw [entry?_eq_none_iff]
          intro hmem
          refine hnone ?_
          unfold handles at hmem ⊢
          rw [List.map_append]
          exact List.mem_append_left _ hmem

end HostBridge.HandleTable
