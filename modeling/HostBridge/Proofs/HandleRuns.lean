import HostBridge.Handle.Table
import Mathlib.Algebra.Group.Nat.Defs
import Mathlib.Data.List.Induction

/-!
# Runs of a handle table

A run is any sequence of registrations, releases and clearings of a table that starts
empty. The history of a run says which handles are live: those that a registration
issued and that nothing has taken back since. The table agrees with its history at every
point, because it never holds a handle that is still to be issued.

## Main definitions

- `HandleTable.Sound` — the invariant of tables
- `HandleTable.Use`, `HandleTable.perform`, `HandleTable.run` — one use of a table, and runs
- `HandleTable.LiveAs` — a handle is live with an entry, by the history alone
- `HandleTable.Records` — a table, with the answers on the way to it, agrees with a history
- `HandleTable.records_run` — the table that a run leaves does
-/

namespace HostBridge.HandleTable

variable {τ α : Type}

-- ════════════════════════════════════════════════════════════════════════
-- The views
-- ════════════════════════════════════════════════════════════════════════

/-- The live handles, in the order of issue. -/
def handles (t : HandleTable τ α) : List Handle :=
  t.entries.map (·.1)

variable {t t' : HandleTable τ α} {h other : Handle} {e : HandleEntry τ α}

theorem contains_iff_mem_handles : t.contains h = true ↔ h ∈ t.handles := by
  simp [contains, entry?, handles]

theorem contains_iff_exists_entry : t.contains h = true ↔ ∃ e, t.entry? h = some e :=
  Option.isSome_iff_exists

theorem entry?_eq_none_iff : t.entry? h = none ↔ h ∉ t.handles := by
  rw [← contains_iff_mem_handles, contains, Option.not_isSome_iff_eq_none]

theorem resolveAs?_eq_some_iff [DecidableEq τ] {owner : τ} {x : α} :
    t.resolveAs? owner h = some x ↔
      ∃ e, t.entry? h = some e ∧ e.owner = owner ∧ e.object = x := by
  constructor
  · intro hresolve
    obtain ⟨e, hentry, hfound⟩ := Option.bind_eq_some_iff.mp hresolve
    split at hfound
    · next howner => exact ⟨e, hentry, howner, Option.some.inj hfound⟩
    · exact absurd hfound (by simp)
  · rintro ⟨e, hentry, howner, rfl⟩
    rw [resolveAs?, hentry, Option.bind_some, if_pos howner]

-- ════════════════════════════════════════════════════════════════════════
-- What one operation does to the views
-- ════════════════════════════════════════════════════════════════════════

/-- A registration that succeeds issues the next number and adds an entry. -/
theorem register_eq_ok_iff :
    t.register e = .ok (h, t') ↔
      h.number = t.next ∧ t' = { entries := t.entries ++ [(h, e)], next := t.next + 1 } := by
  unfold register
  constructor
  · intro hregister
    split at hregister
    · next issued hissued =>
      obtain ⟨rfl, rfl⟩ := Prod.mk.inj (Except.ok.inj hregister)
      refine ⟨?_, rfl⟩
      unfold Handle.ofInt? at hissued
      split at hissued
      · obtain rfl := Option.some.inj hissued
        exact Int.toNat_natCast t.next
      · exact absurd hissued (by simp)
    · exact absurd hregister (by simp)
  · rintro ⟨hnumber, rfl⟩
    rw [← hnumber, h.ofInt?_number]

/-- A registration succeeds as long as the next number fits a handle. -/
theorem exists_register_eq_ok (e : HandleEntry τ α) (hpos : 0 < t.next)
    (hfits : t.next < 2 ^ 31) : ∃ h t', t.register e = .ok (h, t') :=
  ⟨⟨t.next, hpos, hfits⟩, _, register_eq_ok_iff.mpr ⟨rfl, rfl⟩⟩

theorem entry?_register (hregister : t.register e = .ok (h, t')) (hfresh : t.entry? h = none) :
    t'.entry? other = if other = h then some e else t.entry? other := by
  obtain ⟨-, rfl⟩ := register_eq_ok_iff.mp hregister
  have happend (found : Option (HandleEntry τ α)) (hfound : t.entry? other = found) :
      entry? ⟨t.entries ++ [(h, e)], t.next + 1⟩ other =
        found.or (if h = other then some e else none) := by
    subst hfound
    unfold entry?
    rw [List.find?_append, Option.map_or]
    by_cases hother : h = other <;> simp [hother]
  rw [happend _ rfl]
  by_cases hother : other = h
  · subst hother
    simp [hfresh]
  · simp [hother, Ne.symm hother]

theorem entry?_release :
    entry? (t.release h) other = if other = h then none else t.entry? other := by
  unfold entry? release
  rw [List.find?_filter]
  by_cases hother : other = h
  · subst hother
    simp
  · rw [if_neg hother]
    -- An entry of another handle passes the filter.
    congr 2
    funext p
    by_cases hp : p.1 = other
    · simp [hp, hother]
    · simp [hp]

-- ════════════════════════════════════════════════════════════════════════
-- The invariant
-- ════════════════════════════════════════════════════════════════════════

/-- A table holds only handles that it has issued, each of them once. -/
structure Sound (t : HandleTable τ α) : Prop where
  positive : 0 < t.next
  bounded : ∀ h ∈ t.handles, h.number < t.next
  nodup : t.handles.Nodup

namespace Sound

theorem empty : Sound ({} : HandleTable τ α) :=
  ⟨Nat.one_pos, fun _ hmem => absurd hmem List.not_mem_nil, List.nodup_nil⟩

theorem entry?_eq_none (ht : t.Sound) (hnumber : t.next ≤ h.number) : t.entry? h = none := by
  rw [entry?_eq_none_iff]
  intro hmem
  have hbounded := ht.bounded h hmem
  omega

theorem register (ht : t.Sound) (hregister : t.register e = .ok (h, t')) : t'.Sound := by
  obtain ⟨hnumber, rfl⟩ := register_eq_ok_iff.mp hregister
  have hfresh : h ∉ t.handles :=
    entry?_eq_none_iff.mp (ht.entry?_eq_none (Nat.le_of_eq hnumber.symm))
  have hhandles : handles ⟨t.entries ++ [(h, e)], t.next + 1⟩ = t.handles ++ [h] := by
    simp [handles]
  refine ⟨Nat.succ_pos _, ?_, ?_⟩
  · rw [hhandles]
    intro k hk
    show k.number < t.next + 1
    rcases List.mem_append.mp hk with hold | hnew
    · exact Nat.lt_succ_of_lt (ht.bounded k hold)
    · obtain rfl := List.mem_singleton.mp hnew
      omega
  · rw [hhandles, List.nodup_append]
    refine ⟨ht.nodup, by simp, ?_⟩
    rintro k hk k' hk' rfl
    obtain rfl := List.mem_singleton.mp hk'
    exact hfresh hk

theorem release (ht : t.Sound) : (t.release h).Sound := by
  have hsub : (t.release h).handles.Sublist t.handles :=
    List.Sublist.map _ List.filter_sublist
  exact ⟨ht.positive, fun k hk => ht.bounded k (hsub.subset hk), ht.nodup.sublist hsub⟩

theorem clear (ht : t.Sound) : t.clear.Sound :=
  ⟨ht.positive, fun _ hmem => absurd hmem List.not_mem_nil, List.nodup_nil⟩

end Sound

-- ════════════════════════════════════════════════════════════════════════
-- Runs
-- ════════════════════════════════════════════════════════════════════════

/-- One use of a table. -/
inductive Use (τ α : Type) where
  /-- Registers an object as of a type, under the name of this type or under another. -/
  | register (e : HandleEntry τ α)
  | release (h : Handle)
  | clear

def Use.registers : Use τ α → Bool
  | register _ => true
  | _ => false

inductive Answer where
  | issued (h : Except BridgeError Handle)
  | released (wasLive : Bool)
  | cleared

/-- The number that a registration issued, or why it failed. -/
def Answer.number? : Answer → Option (Except BridgeError Nat)
  | issued h => some (h.map (·.number))
  | _ => none

/-- What a use answers, and the table after it. -/
def perform (t : HandleTable τ α) : Use τ α → Answer × HandleTable τ α
  | .register e =>
    match t.register e with
    | .ok (h, t') => (.issued (.ok h), t')
    | .error error => (.issued (.error error), t)
  | .release h => (.released (t.contains h), t.release h)
  | .clear => (.cleared, t.clear)

/-- What the uses of a run answer one after the other, and the table after them. -/
def run (us : List (Use τ α)) : List Answer × HandleTable τ α :=
  us.foldl (fun (answers, t) u => (answers ++ [(t.perform u).1], (t.perform u).2)) ([], {})

def registrations (us : List (Use τ α)) : Nat :=
  us.countP Use.registers

variable {us : List (Use τ α)} {u : Use τ α}

@[simp] theorem run_nil : run ([] : List (Use τ α)) = ([], {}) := rfl

@[simp] theorem run_append_singleton :
    run (us ++ [u]) =
      ((run us).1 ++ [((run us).2.perform u).1], ((run us).2.perform u).2) := by
  simp [run, List.foldl_append]

@[simp] theorem registrations_append_singleton :
    registrations (us ++ [u]) = registrations us + if u.registers then 1 else 0 := by
  simp [registrations, List.countP_singleton]

theorem perform_register_of_ok (hregister : t.register e = .ok (h, t')) :
    t.perform (.register e) = (.issued (.ok h), t') := by
  simp [perform, hregister]

theorem perform_register_of_error {error : BridgeError} (hregister : t.register e = .error error) :
    t.perform (.register e) = (.issued (.error error), t) := by
  simp [perform, hregister]

theorem Sound.perform (ht : t.Sound) (u : Use τ α) : (t.perform u).2.Sound := by
  cases u with
  | register e =>
    cases hregister : t.register e with
    | ok issued =>
      rw [perform_register_of_ok hregister]
      exact ht.register hregister
    | error error =>
      rw [perform_register_of_error hregister]
      exact ht
  | release h => exact ht.release
  | clear => exact ht.clear

theorem sound_run (us : List (Use τ α)) : (run us).2.Sound := by
  induction us using List.reverseRecOn with
  | nil => exact Sound.empty
  | append_singleton us u ih =>
    rw [run_append_singleton]
    exact ih.perform u

-- ════════════════════════════════════════════════════════════════════════
-- Numbers
-- ════════════════════════════════════════════════════════════════════════

/-- As long as there are handles left, the next number counts the registrations. -/
theorem next_run (hfew : registrations us < 2 ^ 31) : (run us).2.next = registrations us + 1 := by
  induction us using List.reverseRecOn with
  | nil => rfl
  | append_singleton us u ih =>
    rw [registrations_append_singleton] at hfew ⊢
    rw [run_append_singleton]
    -- Only a registration moves the number on; what is taken back does not move it back.
    cases u with
    | register e =>
      have hcount : (Use.register e).registers = true := rfl
      rw [if_pos hcount] at hfew ⊢
      have hnext := ih (by omega)
      obtain ⟨h, t', hregister⟩ :=
        exists_register_eq_ok e (sound_run us).positive (by omega)
      rw [perform_register_of_ok hregister, (register_eq_ok_iff.mp hregister).2]
      show (run us).2.next + 1 = _
      omega
    | release h => exact ih hfew
    | clear => exact ih hfew

/-- The registrations of a run issue the numbers from one on, in order. -/
theorem numbers_run (hfew : registrations us < 2 ^ 31) :
    (run us).1.filterMap Answer.number? = (List.range' 1 (registrations us)).map .ok := by
  induction us using List.reverseRecOn with
  | nil => rfl
  | append_singleton us u ih =>
    rw [registrations_append_singleton] at hfew ⊢
    rw [run_append_singleton, List.filterMap_append]
    cases u with
    | register e =>
      have hcount : (Use.register e).registers = true := rfl
      rw [if_pos hcount] at hfew ⊢
      have hnext : (run us).2.next = registrations us + 1 := next_run (by omega)
      obtain ⟨h, t', hregister⟩ :=
        exists_register_eq_ok e (sound_run us).positive (by omega)
      have hnumber : h.number = 1 + registrations us := by
        rw [(register_eq_ok_iff.mp hregister).1, hnext, Nat.add_comm]
      rw [perform_register_of_ok hregister, ih (by omega), List.range'_concat, List.map_append]
      simp [Answer.number?, Except.map, hnumber]
    | release h => exact (List.append_nil _).trans (ih hfew)
    | clear => exact (List.append_nil _).trans (ih hfew)

-- ════════════════════════════════════════════════════════════════════════
-- Live handles, by the history
-- ════════════════════════════════════════════════════════════════════════

/-- A handle is live with an entry after a run: a registration of this entry issued it,
    and since then it was not released and the table not cleared. -/
def LiveAs (us : List (Use τ α)) (h : Handle) (e : HandleEntry τ α) : Prop :=
  ∃ before since, us = before ++ .register e :: since ∧
    ((run before).2.perform (.register e)).1 = .issued (.ok h) ∧
    .release h ∉ since ∧ .clear ∉ since

theorem not_liveAs_nil : ¬LiveAs [] h e := by
  rintro ⟨before, since, hsplit, -⟩
  exact absurd hsplit (by simp)

/-- One more use makes the handle live that it issues, and ends the life of those that it
    takes back. -/
theorem liveAs_append_singleton :
    LiveAs (us ++ [u]) h e ↔
      (u = .register e ∧ ((run us).2.perform u).1 = .issued (.ok h)) ∨
        (LiveAs us h e ∧ u ≠ .release h ∧ u ≠ .clear) := by
  constructor
  · rintro ⟨before, since, hsplit, hissued, hkept, huncleared⟩
    -- The registration is the last use, or it comes before that one.
    rcases List.eq_nil_or_concat since with rfl | ⟨since, v, rfl⟩
    · obtain ⟨rfl, rfl⟩ := List.append_singleton_inj.mp hsplit
      exact Or.inl ⟨rfl, hissued⟩
    · rw [List.concat_eq_append] at hsplit hkept huncleared
      rw [← List.cons_append, ← List.append_assoc] at hsplit
      obtain ⟨rfl, rfl⟩ := List.append_singleton_inj.mp hsplit
      simp only [List.mem_append, List.mem_singleton, not_or] at hkept huncleared
      exact Or.inr ⟨⟨before, since, rfl, hissued, hkept.1, huncleared.1⟩,
        Ne.symm hkept.2, Ne.symm huncleared.2⟩
  · rintro (⟨rfl, hissued⟩ | ⟨⟨before, since, rfl, hissued, hkept, huncleared⟩, hrelease, hclear⟩)
    · exact ⟨us, [], rfl, hissued, List.not_mem_nil, List.not_mem_nil⟩
    · refine ⟨before, since ++ [u], by simp, hissued, ?_, ?_⟩
      · simpa using ⟨hkept, Ne.symm hrelease⟩
      · simpa using ⟨huncleared, Ne.symm hclear⟩

theorem entry?_perform_register_iff (ht : t.Sound) {new : HandleEntry τ α} :
    entry? (t.perform (.register new)).2 h = some e ↔
      Use.register new = .register e ∧ (t.perform (.register new)).1 = .issued (.ok h) ∨
        t.entry? h = some e ∧ Use.register new ≠ .release h ∧ Use.register new ≠ .clear := by
  cases hregister : t.register new with
  | ok issued =>
    obtain ⟨k, t'⟩ := issued
    have hnumber : k.number = t.next := (register_eq_ok_iff.mp hregister).1
    have hfresh : t.entry? k = none := ht.entry?_eq_none (Nat.le_of_eq hnumber.symm)
    rw [perform_register_of_ok hregister, entry?_register hregister hfresh]
    -- The handle that is issued had no entry, so this one is all it has.
    by_cases hk : h = k
    · subst hk
      simp [hfresh]
    · simp [hk, Ne.symm hk]
  | error error =>
    rw [perform_register_of_error hregister]
    simp

/-- The table agrees with the history: its entries are those of the live handles. -/
theorem entry?_run_iff : entry? (run us).2 h = some e ↔ LiveAs us h e := by
  -- By the last use, since the life of a handle depends on what comes after its registration.
  induction us using List.reverseRecOn generalizing h e with
  | nil => exact iff_of_false nofun not_liveAs_nil
  | append_singleton us u ih =>
    rw [run_append_singleton, liveAs_append_singleton, ← ih]
    cases u with
    | register new => exact entry?_perform_register_iff (sound_run us)
    | release k =>
      show entry? ((run us).2.release k) h = some e ↔ _
      rw [entry?_release]
      by_cases hk : h = k
      · simp [hk]
      · simp [hk, Ne.symm hk]
    | clear => simp [perform, HandleTable.clear, entry?]

-- ════════════════════════════════════════════════════════════════════════
-- A table agrees with its history
-- ════════════════════════════════════════════════════════════════════════

/-- A handle is live after a run. -/
def Live (us : List (Use τ α)) (h : Handle) : Prop :=
  ∃ e, LiveAs us h e

/-- A table, with the answers on the way to it, agrees with a history. -/
structure Records [DecidableEq τ] (us : List (Use τ α)) (answers : List Answer)
    (t : HandleTable τ α) : Prop where
  /-- The registrations all succeeded and issued the numbers from one on, in order. -/
  numbers : answers.filterMap Answer.number? = (List.range' 1 (registrations us)).map .ok
  contains_iff : ∀ h, t.contains h = true ↔ Live us h
  /-- A live handle has the entry of its registration. -/
  entry?_iff : ∀ h e, t.entry? h = some e ↔ LiveAs us h e
  resolve?_iff : ∀ h x, t.resolve? h = some x ↔ ∃ e, LiveAs us h e ∧ e.object = x
  resolveAs?_iff : ∀ owner h x,
    t.resolveAs? owner h = some x ↔ ∃ e, LiveAs us h e ∧ e.owner = owner ∧ e.object = x
  /-- To release a handle answers whether it is live, and leaves every other handle alone. -/
  release_iff : ∀ h, (t.perform (.release h)).1 = .released true ↔ Live us h
  others : ∀ h other, other ≠ h → entry? (t.perform (.release h)).2 other = t.entry? other
  /-- The size is the number of live handles. -/
  size : ∃ hs : List Handle, hs.Nodup ∧ (∀ h, h ∈ hs ↔ Live us h) ∧ t.size = hs.length

/-- Every run with no more registrations than there are handles leaves a table that agrees
    with its history, and so does every part of the run from its start. -/
theorem records_run [DecidableEq τ] (us : List (Use τ α)) (hfew : registrations us < 2 ^ 31) :
    Records us (run us).1 (run us).2 := by
  have hcontains (h : Handle) : (run us).2.contains h = true ↔ Live us h := by
    rw [contains_iff_exists_entry]
    exact exists_congr fun e => entry?_run_iff
  refine
    { numbers := numbers_run hfew
      contains_iff := hcontains
      entry?_iff := fun h e => entry?_run_iff
      resolve?_iff := fun h x => ?_
      resolveAs?_iff := fun owner h x => ?_
      release_iff := fun h => ?_
      others := fun h other hother => ?_
      size := ⟨(run us).2.handles, (sound_run us).nodup, fun h => ?_, ?_⟩ }
  · rw [resolve?, Option.map_eq_some_iff]
    exact exists_congr fun e => and_congr_left fun _ => entry?_run_iff
  · rw [resolveAs?_eq_some_iff]
    exact exists_congr fun e => and_congr_left fun _ => entry?_run_iff
  · rw [← hcontains h]
    exact ⟨Answer.released.inj, congrArg Answer.released⟩
  · exact entry?_release.trans (if_neg hother)
  · rw [← contains_iff_mem_handles]
    exact hcontains h
  · exact (List.length_map _).symm

/-- An object is lent, taken back and lent again, and then all is cleared before it is lent
    once more: the last registration issues the third number, and only this handle is live. -/
theorem records_run_relending :
    let e : HandleEntry Unit Nat := ⟨7, (), "Probe"⟩
    let us : List (Use Unit Nat) :=
      [.register e, .release ⟨1, by decide, by decide⟩, .register e, .clear, .register e]
    registrations us < 2 ^ 31 ∧
      (run us).1.filterMap Answer.number? = [.ok 1, .ok 2, .ok 3] ∧
      LiveAs us ⟨3, by decide, by decide⟩ e ∧ ¬Live us ⟨2, by decide, by decide⟩ := by
  intro e us
  have hfew : registrations us < 2 ^ 31 := by decide
  have hrecords := records_run us hfew
  refine ⟨hfew, hrecords.numbers, ?_, ?_⟩
  · exact (hrecords.entry?_iff _ _).mp rfl
  · rw [← hrecords.contains_iff]
    decide

end HostBridge.HandleTable
