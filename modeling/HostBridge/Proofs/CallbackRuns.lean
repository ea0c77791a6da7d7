import HostBridge.Script.Callbacks
import Mathlib.Data.Finset.Card
import Mathlib.Data.List.Induction
import Mathlib.Order.Bounds.Defs

/-!
# Runs of a callback table

A run is any sequence of registrations, removals, readings and clearings of a table that
starts empty. Its history says which numbers are in use: those that a registration issued
and that nothing has given back since. The table agrees with its history and issues the
least number that is not in use, because its stack of free slots holds exactly the empty
slots, each of them once and the lowest on top, however removals and registrations mix.

## Main definitions

- `CallbackTable.Sound` — the invariant of tables
- `CallbackTable.Use`, `CallbackTable.perform`, `CallbackTable.run` — one use, and runs
- `CallbackTable.LiveAs` — a number is in use for a callback, by the history alone
- `CallbackTable.Allocates` — a table issues and gives back numbers as its history says
- `CallbackTable.allocates_run` — the table that a run leaves does
-/

namespace HostBridge.CallbackTable

variable {α : Type} {t t' : CallbackTable α} {callback c : α} {id other : Int} {n : Nat}

-- ════════════════════════════════════════════════════════════════════════
-- The views
-- ════════════════════════════════════════════════════════════════════════

theorem get?_natCast_succ (t : CallbackTable α) (i : Nat) :
    t.get? ((i + 1 : Nat) : Int) = t.slots[i]?.join := by
  have hpos : (0 : Int) < ((i + 1 : Nat) : Int) := by omega
  rw [get?, if_pos hpos]
  rfl

/-- A callback with a number sits in the slot behind the number. -/
theorem get?_eq_some_iff :
    t.get? id = some c ↔ ∃ i : Nat, id = ((i + 1 : Nat) : Int) ∧ t.slots[i]? = some (some c) := by
  constructor
  · intro hget
    have hpos : 0 < id := by
      by_contra hneg
      rw [get?, if_neg hneg] at hget
      exact nomatch hget
    obtain ⟨i, rfl⟩ : ∃ i : Nat, id = ((i + 1 : Nat) : Int) := ⟨id.toNat - 1, by omega⟩
    rw [get?_natCast_succ, Option.join_eq_some_iff] at hget
    exact ⟨i, rfl, hget⟩
  · rintro ⟨i, rfl, hslot⟩
    rw [get?_natCast_succ, hslot]
    rfl

/-- A table whose slots differ from those of another one at one place differs from it in the
    number of this place. -/
theorem get?_of_slots {i : Nat} {found : Option α}
    (h : ∀ j, t'.slots[j]?.join = if j = i then found else t.slots[j]?.join) (id : Int) :
    t'.get? id = if id = ((i + 1 : Nat) : Int) then found else t.get? id := by
  by_cases hpos : 0 < id
  · obtain ⟨j, rfl⟩ : ∃ j : Nat, id = ((j + 1 : Nat) : Int) := ⟨id.toNat - 1, by omega⟩
    rw [get?_natCast_succ, get?_natCast_succ, h j]
    have hsame : ((j + 1 : Nat) : Int) = ((i + 1 : Nat) : Int) ↔ j = i := by omega
    simp only [hsame]
  · rw [if_neg (by omega), get?, get?, if_neg hpos, if_neg hpos]

theorem join_getElem?_set {slots : List (Option α)} {i : Nat} (hi : i < slots.length)
    (found : Option α) (j : Nat) :
    (slots.set i found)[j]?.join = if j = i then found else slots[j]?.join := by
  rw [List.getElem?_set]
  by_cases hj : i = j
  · simp [hj, hj ▸ hi]
  · rw [if_neg hj, if_neg (Ne.symm hj)]

/-- The slots in use. -/
def used (t : CallbackTable α) : Finset Nat :=
  (Finset.range t.slots.length).filter fun i => t.slots[i]?.join.isSome = true

theorem mem_used_iff {i : Nat} : i ∈ t.used ↔ (t.get? ((i + 1 : Nat) : Int)).isSome = true := by
  rw [used, Finset.mem_filter, Finset.mem_range, get?_natCast_succ]
  refine and_iff_right_of_imp fun hsome => ?_
  by_contra hge
  rw [List.getElem?_eq_none (Nat.le_of_not_lt hge)] at hsome
  exact nomatch hsome

-- ════════════════════════════════════════════════════════════════════════
-- Single operations
-- ════════════════════════════════════════════════════════════════════════

/-- A registration takes the slot on top of the stack, or a new one if the stack is empty. -/
theorem register_cases (h : t.register callback = .ok (n, t')) :
    (∃ i free, t.free = i :: free ∧ n = i + 1 ∧
        t' = { t with slots := t.slots.set i (some callback), free }) ∨
      (t.free = [] ∧ t.slots.length < t.capacity ∧ n = t.slots.length + 1 ∧
        t' = { t with slots := t.slots ++ [some callback] }) := by
  unfold register at h
  split at h
  · next i free hfree =>
    obtain ⟨rfl, rfl⟩ := Prod.mk.inj (Except.ok.inj h)
    exact Or.inl ⟨i, free, hfree, rfl, rfl⟩
  · next hfree =>
    split at h
    · next hroom =>
      obtain ⟨rfl, rfl⟩ := Prod.mk.inj (Except.ok.inj h)
      exact Or.inr ⟨hfree, hroom, rfl, rfl⟩
    · exact nomatch h

theorem remove_of_isSome (h : (t.get? id).isSome = true) :
    t.remove id = (true, { t with
      slots := t.slots.set (id.toNat - 1) none
      free := ((id.toNat - 1) :: t.free).mergeSort }) :=
  if_pos h

theorem remove_of_eq_none (h : t.get? id = none) : t.remove id = (false, t) := by
  rw [remove, if_neg (by simp [h])]

/-- As long as fewer numbers are in use than there may be, a registration succeeds. -/
theorem exists_register_eq_ok (callback : α) (hroom : t.size < t.capacity) :
    ∃ n t', t.register callback = .ok (n, t') := by
  unfold register
  split
  · exact ⟨_, _, rfl⟩
  · next hfree =>
    have hlength : t.slots.length < t.capacity := by
      rw [size, hfree] at hroom
      exact hroom
    rw [if_pos hlength]
    exact ⟨_, _, rfl⟩

theorem get?_remove (id other : Int) :
    (t.remove id).2.get? other = if other = id then none else t.get? other := by
  cases hget : t.get? id with
  | none =>
    rw [remove_of_eq_none hget]
    split
    · next heq => rw [heq, hget]
    · rfl
  | some c =>
    obtain ⟨i, rfl, hslot⟩ := get?_eq_some_iff.mp hget
    have hi : i < t.slots.length := (List.getElem?_eq_some_iff.mp hslot).1
    rw [remove_of_isSome (by rw [hget]; rfl)]
    exact get?_of_slots (join_getElem?_set hi none) other

-- ════════════════════════════════════════════════════════════════════════
-- The invariant
-- ════════════════════════════════════════════════════════════════════════

/-- The stack of free slots holds exactly the empty ones, each of them once and the lowest on
    top, and there are no more slots than the table has room for. -/
structure Sound (t : CallbackTable α) : Prop where
  sorted : t.free.Pairwise (· < ·)
  mem_free_iff : ∀ i, i ∈ t.free ↔ t.slots[i]? = some none
  fits : t.slots.length ≤ t.capacity

namespace Sound

theorem new (capacity : Nat) : (CallbackTable.new capacity : CallbackTable α).Sound :=
  ⟨List.Pairwise.nil, fun i => by simp [CallbackTable.new], Nat.zero_le _⟩

theorem lt_of_mem_free (ht : t.Sound) {i : Nat} (hi : i ∈ t.free) : i < t.slots.length := by
  have hslot := (ht.mem_free_iff i).mp hi
  by_contra hge
  rw [List.getElem?_eq_none (Nat.le_of_not_lt hge)] at hslot
  exact nomatch hslot

theorem register (ht : t.Sound) (h : t.register callback = .ok (n, t')) : t'.Sound := by
  rcases register_cases h with ⟨i, free, hfree, -, rfl⟩ | ⟨hfree, hroom, -, rfl⟩
  · have hsorted : (i :: free).Pairwise (· < ·) := hfree ▸ ht.sorted
    obtain ⟨habove, hrest⟩ := List.pairwise_cons.mp hsorted
    have hi : i < t.slots.length := ht.lt_of_mem_free (by simp [hfree])
    refine ⟨hrest, fun j => ?_, ?_⟩
    · have hmem := ht.mem_free_iff j
      rw [hfree, List.mem_cons] at hmem
      rw [List.getElem?_set]
      by_cases hj : i = j
      · -- The slot that is taken is not on the stack a second time.
        subst hj
        rw [if_pos rfl, if_pos hi]
        exact iff_of_false (fun hin => Nat.lt_irrefl i (habove i hin)) (by simp)
      · rw [if_neg hj, ← hmem]
        exact ⟨Or.inr, fun hor => hor.resolve_left (Ne.symm hj)⟩
    · rw [List.length_set]
      exact ht.fits
  · refine ⟨ht.sorted, fun j => ?_, ?_⟩
    · rw [ht.mem_free_iff j, List.getElem?_append]
      split
      · rfl
      · next hj =>
        rw [List.getElem?_eq_none (Nat.le_of_not_lt hj)]
        refine iff_of_false nofun ?_
        rcases Nat.eq_zero_or_pos (j - t.slots.length) with hzero | hpos
        · simp [hzero]
        · simp [Nat.ne_of_gt hpos]
    · rw [List.length_append]
      exact hroom

theorem remove (ht : t.Sound) (id : Int) : (t.remove id).2.Sound := by
  cases hget : t.get? id with
  | none =>
    rw [remove_of_eq_none hget]
    exact ht
  | some c =>
    obtain ⟨i, rfl, hslot⟩ := get?_eq_some_iff.mp hget
    have hi : i < t.slots.length := (List.getElem?_eq_some_iff.mp hslot).1
    have hnot : i ∉ t.free := by
      rw [ht.mem_free_iff, hslot]
      exact nofun
    have hnodup : (i :: t.free).Nodup :=
      List.nodup_cons.mpr ⟨hnot, ht.sorted.imp Nat.ne_of_lt⟩
    rw [remove_of_isSome (by rw [hget]; rfl)]
    show Sound { t with slots := t.slots.set i none, free := (i :: t.free).mergeSort }
    refine ⟨?_, fun j => ?_, ?_⟩
    · -- What is sorted and without repetition is strictly sorted.
      have hle : (i :: t.free).mergeSort.Pairwise fun a b => decide (a ≤ b) = true :=
        List.pairwise_mergeSort (by grind) (by grind) _
      have hne : (i :: t.free).mergeSort.Nodup :=
        (List.mergeSort_perm (i :: t.free) _).nodup_iff.mpr hnodup
      exact (hle.and hne).imp fun h => Nat.lt_of_le_of_ne (of_decide_eq_true h.1) h.2
    · rw [List.mem_mergeSort, List.mem_cons, ht.mem_free_iff, List.getElem?_set]
      by_cases hj : i = j
      · subst hj
        simp [hi]
      · rw [if_neg hj]
        exact ⟨fun hor => hor.resolve_left (Ne.symm hj), Or.inr⟩
    · rw [List.length_set]
      exact ht.fits

theorem clear (_ : t.Sound) : t.clear.Sound :=
  ⟨List.Pairwise.nil, fun i => by simp [CallbackTable.clear], Nat.zero_le _⟩

-- ════════════════════════════════════════════════════════════════════════
-- What the invariant says about numbers
-- ════════════════════════════════════════════════════════════════════════

theorem get?_register (ht : t.Sound) (h : t.register callback = .ok (n, t')) (id : Int) :
    t'.get? id = if id = n then some callback else t.get? id := by
  rcases register_cases h with ⟨i, free, hfree, rfl, rfl⟩ | ⟨-, -, rfl, rfl⟩
  · have hi : i < t.slots.length := ht.lt_of_mem_free (by simp [hfree])
    exact get?_of_slots (join_getElem?_set hi (some callback)) id
  · refine get?_of_slots (fun j => ?_) id
    show (t.slots ++ [some callback])[j]?.join = _
    rcases Nat.lt_trichotomy j t.slots.length with hlt | rfl | hgt
    · rw [if_neg (Nat.ne_of_lt hlt), List.getElem?_append_left hlt]
    · simp
    · rw [if_neg (Nat.ne_of_gt hgt), List.getElem?_eq_none (by simp; omega),
        List.getElem?_eq_none (Nat.le_of_lt hgt)]

/-- A registration takes the least number that is not in use. -/
theorem isLeast_register (ht : t.Sound) (h : t.register callback = .ok (n, t')) :
    IsLeast {m : Nat | 1 ≤ m ∧ t.get? m = none} n := by
  -- Every slot below the one that is taken holds a callback.
  have hleast {i : Nat} (hn : n = i + 1) (hfree : t.slots[i]?.join = none)
      (hbelow : ∀ j < i, ∃ c, t.slots[j]? = some (some c)) :
      IsLeast {m : Nat | 1 ≤ m ∧ t.get? m = none} n := by
    subst hn
    refine ⟨⟨by omega, (get?_natCast_succ t i).trans hfree⟩, ?_⟩
    rintro m ⟨hm, hnone⟩
    obtain ⟨j, rfl⟩ : ∃ j, m = j + 1 := ⟨m - 1, by omega⟩
    by_contra hlt
    obtain ⟨c, hslot⟩ := hbelow j (by omega)
    rw [get?_natCast_succ, hslot] at hnone
    exact nomatch hnone
  have hfilled {j : Nat} (hj : j < t.slots.length) (hnot : j ∉ t.free) :
      ∃ c, t.slots[j]? = some (some c) := by
    rw [ht.mem_free_iff, List.getElem?_eq_getElem hj] at hnot
    rw [List.getElem?_eq_getElem hj]
    cases hslot : t.slots[j] with
    | none => exact absurd (congrArg some hslot) hnot
    | some c => exact ⟨c, rfl⟩
  rcases register_cases h with ⟨i, free, hfree, hn, -⟩ | ⟨hfree, -, hn, -⟩
  · have htop : i ∈ t.free := by simp [hfree]
    refine hleast hn (by rw [(ht.mem_free_iff i).mp htop]; rfl) fun j hj => ?_
    refine hfilled (Nat.lt_trans hj (ht.lt_of_mem_free htop)) fun hmem => ?_
    have hsorted : (i :: free).Pairwise (· < ·) := hfree ▸ ht.sorted
    rw [hfree, List.mem_cons] at hmem
    rcases hmem with rfl | hmem
    · exact Nat.lt_irrefl j hj
    · exact Nat.lt_asymm hj ((List.pairwise_cons.mp hsorted).1 j hmem)
  · refine hleast hn (by simp) fun j hj => hfilled hj ?_
    rw [hfree]
    exact List.not_mem_nil

/-- Every slot is in use or free. -/
theorem card_used_add (ht : t.Sound) : t.used.card + t.free.length = t.slots.length := by
  have hfree : t.free.toFinset =
      (Finset.range t.slots.length).filter fun i => ¬t.slots[i]?.join.isSome = true := by
    ext i
    rw [List.mem_toFinset, Finset.mem_filter, Finset.mem_range, ht.mem_free_iff]
    constructor
    · intro hslot
      exact ⟨(List.getElem?_eq_some_iff.mp hslot).1, by simp [hslot]⟩
    · rintro ⟨hi, hnone⟩
      rw [List.getElem?_eq_getElem hi] at hnone ⊢
      cases hslot : t.slots[i] with
      | none => rfl
      | some c => exact absurd (by rw [hslot]; rfl) hnone
  have hnodup : t.free.Nodup := ht.sorted.imp Nat.ne_of_lt
  rw [← List.toFinset_card_of_nodup hnodup, hfree, used,
    Finset.card_filter_add_card_filter_not, Finset.card_range]

theorem size_eq (ht : t.Sound) : t.size = t.used.card := by
  have hcard := ht.card_used_add
  unfold size
  omega

theorem size_le (ht : t.Sound) : t.size ≤ t.capacity :=
  Nat.le_trans (Nat.sub_le _ _) ht.fits

theorem register_eq_error (ht : t.Sound) (callback : α) (hfull : t.capacity ≤ t.size) :
    t.register callback = .error (.callbacksFull t.capacity) := by
  have hcard := ht.card_used_add
  have hfits := ht.fits
  rw [ht.size_eq] at hfull
  unfold CallbackTable.register
  split
  · next i free hfree =>
    rw [hfree, List.length_cons] at hcard
    omega
  · exact if_neg (by omega)

end Sound

-- ════════════════════════════════════════════════════════════════════════
-- Runs
-- ════════════════════════════════════════════════════════════════════════

/-- One use of a table. -/
inductive Use (α : Type) where
  | register (callback : α)
  | remove (id : Int)
  | get (id : Int)
  | clear

inductive Answer (α : Type) where
  | issued (id : Except ScriptError Nat)
  | removed (wasLive : Bool)
  | found (callback : Option α)
  | cleared

/-- What a use answers, and the table after it. -/
def perform (t : CallbackTable α) : Use α → Answer α × CallbackTable α
  | .register callback =>
    match t.register callback with
    | .ok (id, t') => (.issued (.ok id), t')
    | .error error => (.issued (.error error), t)
  | .remove id => (.removed (t.remove id).1, (t.remove id).2)
  | .get id => (.found (t.get? id), t)
  | .clear => (.cleared, t.clear)

/-- The table that uses leave, one after the other, of one that starts empty. -/
def run (capacity : Nat) (us : List (Use α)) : CallbackTable α :=
  us.foldl (fun t u => (t.perform u).2) (new capacity)

variable {capacity : Nat} {us : List (Use α)} {u : Use α}

@[simp] theorem run_append_singleton :
    run capacity (us ++ [u]) = ((run capacity us).perform u).2 := by
  simp [run, List.foldl_append]

theorem perform_register_of_ok (h : t.register callback = .ok (n, t')) :
    t.perform (.register callback) = (.issued (.ok n), t') := by
  simp [perform, h]

theorem perform_register_of_error {error : ScriptError}
    (h : t.register callback = .error error) :
    t.perform (.register callback) = (.issued (.error error), t) := by
  simp [perform, h]

theorem capacity_perform (t : CallbackTable α) (u : Use α) :
    (t.perform u).2.capacity = t.capacity := by
  cases u with
  | register callback =>
    cases h : t.register callback with
    | ok issued =>
      rw [perform_register_of_ok h]
      show issued.2.capacity = t.capacity
      rcases register_cases h with ⟨i, free, -, -, hafter⟩ | ⟨-, -, -, hafter⟩ <;> rw [hafter]
    | error error => rw [perform_register_of_error h]
  | remove id =>
    simp only [perform, remove]
    split <;> rfl
  | get id => rfl
  | clear => rfl

theorem Sound.perform (ht : t.Sound) (u : Use α) : (t.perform u).2.Sound := by
  cases u with
  | register callback =>
    cases h : t.register callback with
    | ok issued =>
      rw [perform_register_of_ok h]
      exact ht.register h
    | error error =>
      rw [perform_register_of_error h]
      exact ht
  | remove id => exact ht.remove id
  | get id => exact ht
  | clear => exact ht.clear

theorem sound_run (capacity : Nat) (us : List (Use α)) : (run capacity us).Sound := by
  induction us using List.reverseRecOn with
  | nil => exact Sound.new capacity
  | append_singleton us u ih =>
    rw [run_append_singleton]
    exact ih.perform u

theorem capacity_run (capacity : Nat) (us : List (Use α)) :
    (run capacity us).capacity = min capacity 0x7FFFFFFF := by
  induction us using List.reverseRecOn with
  | nil => rfl
  | append_singleton us u ih => rw [run_append_singleton, capacity_perform, ih]

-- ════════════════════════════════════════════════════════════════════════
-- Numbers in use, by the history
-- ════════════════════════════════════════════════════════════════════════

/-- A number is in use for a callback after a run: a registration of the callback issued it,
    and since then it was not removed and the table not cleared. -/
def LiveAs (capacity : Nat) (us : List (Use α)) (id : Int) (callback : α) : Prop :=
  ∃ before since, us = before ++ .register callback :: since ∧
    (∃ n : Nat, id = n ∧ ((run capacity before).perform (.register callback)).1 = .issued (.ok n)) ∧
    .remove id ∉ since ∧ .clear ∉ since

def Live (capacity : Nat) (us : List (Use α)) (id : Int) : Prop :=
  ∃ callback, LiveAs capacity us id callback

/-- One more use puts the number in use that it issues, and ends the use of those that it
    gives back. -/
theorem liveAs_append_singleton :
    LiveAs capacity (us ++ [u]) id c ↔
      (u = .register c ∧
          ∃ n : Nat, id = n ∧ ((run capacity us).perform u).1 = .issued (.ok n)) ∨
        (LiveAs capacity us id c ∧ u ≠ .remove id ∧ u ≠ .clear) := by
  constructor
  · rintro ⟨before, since, hsplit, hissued, hkept, huncleared⟩
    -- The registration is the last use, or it comes before that one.
    rcases List.eq_nil_or_concat since with rfl | ⟨since, v, rfl⟩
    · obtain ⟨rfl, rfl⟩ := List.append_singleton_inj.mp hsplit
      exact Or.inl ⟨rfl, hissued⟩
    · rw [List.concat_eq_append] at hsplit hkept huncleared
      rw [← List.cons_append, ← List.append_assoc] at hsplit
      obtain ⟨rfl, rfl⟩ := List.append_singleton_inj.mp hsplit
      simp only [List.mem_append, List.mem_singleton, not_or] at hkept huncleared
      exact Or.inr ⟨⟨before, since, rfl, hissued, hkept.1, huncleared.1⟩,
        Ne.symm hkept.2, Ne.symm huncleared.2⟩
  · rintro (⟨rfl, hissued⟩ | ⟨⟨before, since, rfl, hissued, hkept, huncleared⟩, hremove, hclear⟩)
    · exact ⟨us, [], rfl, hissued, List.not_mem_nil, List.not_mem_nil⟩
    · refine ⟨before, since ++ [u], by simp, hissued, ?_, ?_⟩
      · simpa using ⟨hkept, Ne.symm hremove⟩
      · simpa using ⟨huncleared, Ne.symm hclear⟩

theorem get?_perform_register_iff (ht : t.Sound) :
    (t.perform (.register callback)).2.get? id = some c ↔
      (Use.register callback = .register c ∧
          ∃ n : Nat, id = n ∧ (t.perform (.register callback)).1 = .issued (.ok n)) ∨
        (t.get? id = some c ∧ Use.register callback ≠ .remove id ∧
          Use.register callback ≠ .clear) := by
  cases h : t.register callback with
  | ok issued =>
    obtain ⟨n, t'⟩ := issued
    have hfresh : t.get? n = none := (ht.isLeast_register h).1.2
    rw [perform_register_of_ok h, ht.get?_register h]
    -- The number that is issued was not in use, so this callback is all it has.
    by_cases hid : id = n
    · subst hid
      simp [hfresh]
    · simp [hid]
  | error error =>
    rw [perform_register_of_error h]
    simp

/-- The table agrees with the history: its callbacks are those of the numbers in use. -/
theorem get?_run_iff : (run capacity us).get? id = some c ↔ LiveAs capacity us id c := by
  -- By the last use, since a number is in use by what comes after its registration.
  induction us using List.reverseRecOn generalizing id c with
  | nil =>
    refine iff_of_false ?_ ?_
    · simp [run, new, get?]
    · rintro ⟨before, since, hsplit, -⟩
      exact absurd hsplit (by simp)
  | append_singleton us u ih =>
    rw [run_append_singleton, liveAs_append_singleton, ← ih]
    cases u with
    | register callback => exact get?_perform_register_iff (sound_run capacity us)
    | remove k =>
      show ((run capacity us).remove k).2.get? id = some c ↔ _
      rw [get?_remove]
      by_cases hk : id = k
      · simp [hk]
      · simp [hk, Ne.symm hk]
    | get k => simp [perform]
    | clear => simp [perform, clear, get?]

-- ════════════════════════════════════════════════════════════════════════
-- An allocator of least numbers
-- ════════════════════════════════════════════════════════════════════════

/-- A table issues and gives back numbers as its history says. -/
structure Allocates (capacity : Nat) (us : List (Use α)) (t : CallbackTable α) : Prop where
  /-- A registration succeeds exactly if there is room, with the least number not in use. -/
  least : ∀ callback, t.size < min capacity 0x7FFFFFFF →
    ∃ n t', t.perform (.register callback) = (.issued (.ok n), t') ∧
      IsLeast {m : Nat | 1 ≤ m ∧ ¬Live capacity us m} n
  full : ∀ callback, ¬t.size < min capacity 0x7FFFFFFF →
    t.perform (.register callback) =
      (.issued (.error (.callbacksFull (min capacity 0x7FFFFFFF))), t)
  /-- A number leads to the callback of the registration that issued it last. -/
  get?_iff : ∀ id c, t.get? id = some c ↔ LiveAs capacity us id c
  /-- To remove a number answers whether it is in use, and leaves every other number alone. -/
  remove_iff : ∀ id, (t.perform (.remove id)).1 = .removed true ↔ Live capacity us id
  others : ∀ id other, other ≠ id → (t.perform (.remove id)).2.get? other = t.get? other
  idle : ∀ id, ¬Live capacity us id → t.perform (.remove id) = (.removed false, t)
  /-- Only numbers of slots are in use, and they fit 32 bits with a sign. -/
  bounded : ∀ id, Live capacity us id → 0 < id ∧ id ≤ t.slots.length ∧ id ≤ 0x7FFFFFFF
  /-- The size is how many numbers are in use. -/
  size : ∃ ids : Finset Nat, (∀ n : Nat, n ∈ ids ↔ Live capacity us n) ∧ t.size = ids.card
  size_le : t.size ≤ min capacity 0x7FFFFFFF
  /-- The free slots are the empty ones, each of them once, the lowest next, so that there are
      never more of them than slots. -/
  sound : t.Sound
  free_le : t.free.length ≤ t.slots.length

/-- Every run leaves a table that is an allocator of least numbers. -/
theorem allocates_run (capacity : Nat) (us : List (Use α)) :
    Allocates capacity us (run capacity us) := by
  have hsound := sound_run capacity us
  have hcapacity := capacity_run capacity us
  have hlive (id : Int) :
      Live capacity us id ↔ ((run capacity us).get? id).isSome = true := by
    rw [Option.isSome_iff_exists]
    exact exists_congr fun c => get?_run_iff.symm
  have hdead (id : Int) : ¬Live capacity us id ↔ (run capacity us).get? id = none := by
    rw [hlive, Option.not_isSome_iff_eq_none]
  refine
    { least := fun callback hroom => ?_
      full := fun callback hfull => ?_
      get?_iff := fun id c => get?_run_iff
      remove_iff := fun id => ?_
      others := fun id other hother => (get?_remove id other).trans (if_neg hother)
      idle := fun id hid => ?_
      bounded := fun id hid => ?_
      size := ⟨(run capacity us).used.map ⟨Nat.succ, Nat.succ_injective⟩, fun n => ?_, ?_⟩
      size_le := hcapacity ▸ hsound.size_le
      sound := hsound
      free_le := Nat.le_of_add_left_le hsound.card_used_add.le }
  · rw [← hcapacity] at hroom
    obtain ⟨n, t', hregister⟩ := exists_register_eq_ok callback hroom
    refine ⟨n, t', perform_register_of_ok hregister, ?_⟩
    have hleast := hsound.isLeast_register hregister
    simp only [hdead]
    exact hleast
  · rw [← hcapacity] at hfull ⊢
    exact perform_register_of_error (hsound.register_eq_error callback (Nat.le_of_not_lt hfull))
  · rw [hlive, perform]
    by_cases hsome : ((run capacity us).get? id).isSome = true
    · simp [remove_of_isSome hsome, hsome]
    · simp [remove_of_eq_none (Option.not_isSome_iff_eq_none.mp hsome), hsome]
  · rw [perform, remove_of_eq_none ((hdead id).mp hid)]
  · obtain ⟨c, hc⟩ := Option.isSome_iff_exists.mp ((hlive id).mp hid)
    obtain ⟨i, rfl, hslot⟩ := get?_eq_some_iff.mp hc
    have hi : i < (run capacity us).slots.length := (List.getElem?_eq_some_iff.mp hslot).1
    have hfits := hsound.fits
    omega
  · rw [hlive, Finset.mem_map]
    constructor
    · rintro ⟨i, hi, rfl⟩
      exact mem_used_iff.mp hi
    · intro hsome
      obtain ⟨c, hc⟩ := Option.isSome_iff_exists.mp hsome
      obtain ⟨i, hn, -⟩ := get?_eq_some_iff.mp hc
      obtain rfl : n = i + 1 := by omega
      exact ⟨i, mem_used_iff.mpr hsome, rfl⟩
  · rw [Finset.card_map]
    exact hsound.size_eq

end HostBridge.CallbackTable
