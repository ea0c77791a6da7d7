import HostBridge.Proofs.Precompiled
import Mathlib.Data.List.Induction
import Mathlib.Data.List.Nodup

/-!
# Numbers in the order of first request

A table of binding ids is read off the requests that were made of it: each is a key with the
number that it was answered. The keys without repetition, in the order in which they came first,
are the table, so the numbers that were answered are those from one on, in this order. A key is
answered the same number at every request, and no two keys are answered the same.

## Main definitions

- `BindingIds.number?`, `BindingIds.afterRequest` — what a request is answered, and what the table
  is after it
- `BindingIds.Answered` — a table agrees with the requests that were made of it
- `BindingIds.Answered.request` — one more request keeps this
-/

namespace HostBridge

/-- One more element counts if it is new. -/
theorem eraseDups_concat {α : Type} [DecidableEq α] (l : List α) (a : α) :
    (l ++ [a]).eraseDups = if a ∈ l then l.eraseDups else l.eraseDups ++ [a] := by
  rw [List.eraseDups_append]
  split
  · next hmem => simp [List.removeAll, hmem]
  · next hmem => simp [List.removeAll, hmem, List.eraseDups_cons]

theorem nodup_eraseDups {α : Type} [DecidableEq α] (l : List α) : l.eraseDups.Nodup := by
  induction l using List.reverseRecOn with
  | nil => exact List.nodup_nil
  | append_singleton l a ih =>
    rw [eraseDups_concat]
    split
    · exact ih
    · next hmem =>
      rw [← List.concat_eq_append]
      exact List.Nodup.concat (fun hold => hmem (List.mem_eraseDups.mp hold)) ih

namespace BindingIds

variable {κ : Type} {ids : BindingIds κ} {id : Int} {key : κ}

/-- Exactly the numbers from one to the size of the table stand for a key. -/
theorem key?_eq_none_iff : ids.key? id = none ↔ id ≤ 0 ∨ (ids.size : Int) < id := by
  unfold key? size
  split
  · next hpos =>
    rw [List.getElem?_eq_none_iff]
    omega
  · next hpos => exact iff_of_true rfl (Or.inl (Int.not_lt.mp hpos))

theorem le_size_of_key? (h : ids.key? id = some key) : id ≤ ids.size := by
  refine Int.not_lt.mp fun hlt => ?_
  rw [key?_eq_none_iff.mpr (Or.inr hlt)] at h
  exact Option.some_ne_none key h.symm

theorem Extends.size_le {later : BindingIds κ} (h : later.Extends ids) :
    ids.size ≤ later.size := by
  obtain ⟨more, hmore⟩ := h
  rw [size, size, hmore, List.length_append]
  exact Nat.le_add_right ..

theorem mem_of_key? (h : ids.key? id = some key) : key ∈ ids.keys := by
  unfold key? at h
  split at h
  · exact List.mem_of_getElem? h
  · exact absurd h (by simp)

/-- In a table without repetition a key has one number. -/
theorem key?_inj (hnodup : ids.keys.Nodup) {id' : Int} (h : ids.key? id = some key)
    (h' : ids.key? id' = some key) : id = id' := by
  unfold key? at h h'
  split at h
  · next hpos =>
    split at h'
    · next hpos' =>
      obtain ⟨hlt, hat⟩ := List.getElem?_eq_some_iff.mp h
      obtain ⟨hlt', hat'⟩ := List.getElem?_eq_some_iff.mp h'
      have hindex : id.toNat - 1 = id'.toNat - 1 :=
        hnodup.getElem_inj_iff.mp (hat.trans hat'.symm)
      omega
    · exact absurd h' (by simp)
  · exact absurd h (by simp)

variable [DecidableEq κ]

/-- What a key is answered that asks for its number. -/
def number? (ids : BindingIds κ) (key : κ) : Option Nat :=
  (ids.assign key).toOption.map (·.1)

/-- The table once a key has asked for its number. -/
def afterRequest (ids : BindingIds κ) (key : κ) : BindingIds κ :=
  match ids.assign key with
  | .ok (_, later) => later
  | .error _ => ids

theorem extends_afterRequest : (ids.afterRequest key).Extends ids := by
  unfold afterRequest
  split
  · next hassign => exact extends_of_assign hassign
  · exact .refl

/-- A request is answered by the number that the key has, or by the next one, if one is left. -/
theorem request_cases (ids : BindingIds κ) (key : κ) :
    (∃ n : Nat, ids.number? key = some n ∧ ids.afterRequest key = ids ∧ 0 < n ∧ n ≤ ids.size ∧
        key ∈ ids.keys) ∨
      key ∉ ids.keys ∧ ids.size < 0x7FFFFFFF ∧ ids.number? key = some (ids.size + 1) ∧
        ids.afterRequest key = ⟨ids.keys ++ [key]⟩ ∨
      key ∉ ids.keys ∧ 0x7FFFFFFF ≤ ids.size ∧ ids.number? key = none ∧
        ids.afterRequest key = ids := by
  unfold number? afterRequest assign size
  cases hindex : ids.keys.findIdx? (· = key) with
  | some i =>
    obtain ⟨hlt, hat, -⟩ := List.findIdx?_eq_some_iff_getElem.mp hindex
    have hmem : key ∈ ids.keys := of_decide_eq_true hat ▸ List.getElem_mem hlt
    exact Or.inl ⟨i + 1, rfl, rfl, Nat.succ_pos i, hlt, hmem⟩
  | none =>
    have hnew : key ∉ ids.keys := fun hmem => by
      simpa using List.findIdx?_eq_none_iff.mp hindex key hmem
    by_cases hroom : ids.keys.length + 1 < 0x80000000
    · rw [if_pos hroom]
      exact Or.inr (Or.inl ⟨hnew, Nat.lt_of_succ_lt_succ hroom, rfl, rfl⟩)
    · rw [if_neg hroom]
      exact Or.inr (Or.inr ⟨hnew, Nat.le_of_lt_succ (Nat.not_lt.mp hroom), rfl, rfl⟩)

theorem mem_or_eq_of_mem_afterRequest {other : κ} (h : other ∈ (ids.afterRequest key).keys) :
    other ∈ ids.keys ∨ other = key := by
  rcases request_cases ids key with ⟨n, -, hafter, -⟩ | ⟨-, -, -, hafter⟩ | ⟨-, -, -, hafter⟩
  · rw [hafter] at h
    exact Or.inl h
  · rw [hafter] at h
    exact (List.mem_append.mp h).imp id List.mem_singleton.mp
  · rw [hafter] at h
    exact Or.inl h

/-- No table outgrows the positive integers of 32 bits. -/
theorem size_afterRequest_le (key : κ) (h : ids.size ≤ 0x7FFFFFFF) :
    (ids.afterRequest key).size ≤ 0x7FFFFFFF := by
  rcases request_cases ids key with ⟨n, -, hafter, -⟩ | ⟨-, hroom, -, hafter⟩ | ⟨-, -, -, hafter⟩
  · rwa [hafter]
  · rw [hafter, size, List.length_append]
    exact hroom
  · rwa [hafter]

/-- A request is answered by a number as long as there are numbers left. -/
theorem isSome_number?_of_lt (key : κ) (h : ids.size < 0x7FFFFFFF) :
    (ids.number? key).isSome = true := by
  rcases request_cases ids key with ⟨n, hn, -⟩ | ⟨-, -, hn, -⟩ | ⟨-, hfull, -⟩
  · rw [hn, Option.isSome_some]
  · rw [hn, Option.isSome_some]
  · exact absurd h (Nat.not_lt.mpr hfull)

theorem key?_of_number? {n : Nat} (h : ids.number? key = some n) :
    (ids.afterRequest key).key? n = some key := by
  obtain ⟨⟨m, later⟩, hassign, rfl⟩ := Option.map_eq_some_iff.mp h
  have hok : ids.assign key = .ok (m, later) := by
    cases hresult : ids.assign key with
    | ok given =>
      rw [hresult] at hassign
      rw [Option.some.inj hassign]
    | error e =>
      rw [hresult] at hassign
      exact absurd hassign (by simp [Except.toOption])
  rw [afterRequest, hok]
  exact key?_of_assign hok

/-- A table agrees with the requests that were made of it, each a key with the number that it was
    answered. -/
structure Answered (requests : List (κ × Nat)) (ids : BindingIds κ) : Prop where
  /-- The table holds the keys in the order of their first requests. -/
  keys : ids.keys = (requests.map Prod.fst).eraseDups
  /-- The numbers that were answered are those from one on, in the order of first requests. -/
  numbers : (requests.map Prod.snd).eraseDups = List.range' 1 ids.size
  key? : ∀ {key n}, (key, n) ∈ requests → ids.key? n = some key

namespace Answered

variable {requests : List (κ × Nat)}

theorem nil : Answered ([] : List (κ × Nat)) {} :=
  ⟨rfl, rfl, fun h => absurd h List.not_mem_nil⟩

theorem nodup (h : Answered requests ids) : ids.keys.Nodup :=
  h.keys ▸ nodup_eraseDups _

/-- The same key is answered the same number, and different keys are answered different ones. -/
theorem eq_iff (h : Answered requests ids) {p q : κ × Nat} (hp : p ∈ requests)
    (hq : q ∈ requests) : p.1 = q.1 ↔ p.2 = q.2 := by
  have hkeyp : ids.key? p.2 = some p.1 := h.key? hp
  have hkeyq : ids.key? q.2 = some q.1 := h.key? hq
  constructor
  · intro hsame
    rw [← hsame] at hkeyq
    exact Int.ofNat.inj (key?_inj h.nodup hkeyp hkeyq)
  · intro hsame
    rw [hsame, hkeyq] at hkeyp
    exact (Option.some.inj hkeyp).symm

/-- One more request keeps this. A request that is refused leaves no trace. -/
theorem request (h : Answered requests ids) (key : κ) :
    Answered (requests ++ ((ids.number? key).map (key, ·)).toList) (ids.afterRequest key) := by
  have hold {key' n} (hmem : (key', n) ∈ requests) :
      (ids.afterRequest key).key? (n : Nat) = some key' :=
    extends_afterRequest.key? (h.key? hmem)
  have hmem : key ∈ requests.map Prod.fst ↔ key ∈ ids.keys := by
    rw [h.keys, List.mem_eraseDups]
  rcases request_cases ids key with ⟨n, hn, hafter, hpos, hle, hkey⟩ |
      ⟨hkey, -, hn, hafter⟩ | ⟨hkey, -, hn, hafter⟩
  · have hgiven : n ∈ requests.map Prod.snd := by
      rw [← List.mem_eraseDups, h.numbers, List.mem_range'_1]
      omega
    have hnew := key?_of_number? hn
    rw [hafter] at hnew ⊢
    rw [hn, Option.map_some, Option.toList_some]
    refine ⟨?_, ?_, ?_⟩
    · rw [List.map_append, List.map_singleton, eraseDups_concat, if_pos (hmem.mpr hkey), h.keys]
    · rw [List.map_append, List.map_singleton, eraseDups_concat, if_pos hgiven, h.numbers]
    · intro key' n' hp
      rcases List.mem_append.mp hp with hp | hp
      · exact h.key? hp
      · obtain ⟨rfl, rfl⟩ := Prod.mk.inj (List.mem_singleton.mp hp)
        exact hnew
  · have hfresh : ids.size + 1 ∉ requests.map Prod.snd := by
      rw [← List.mem_eraseDups, h.numbers, List.mem_range'_1]
      omega
    have hsize : (ids.afterRequest key).size = ids.size + 1 := by
      rw [hafter, size, List.length_append]
      rfl
    rw [hn, Option.map_some, Option.toList_some]
    refine ⟨?_, ?_, ?_⟩
    · rw [List.map_append, List.map_singleton, eraseDups_concat, if_neg (hmem.not.mpr hkey),
        ← h.keys, hafter]
    · rw [List.map_append, List.map_singleton, eraseDups_concat, if_neg hfresh, h.numbers, hsize,
        List.range'_1_concat, Nat.add_comm 1]
    · intro key' n' hp
      rcases List.mem_append.mp hp with hp | hp
      · exact hold hp
      · obtain ⟨rfl, rfl⟩ := Prod.mk.inj (List.mem_singleton.mp hp)
        exact key?_of_number? hn
  · rw [hn, hafter, Option.map_none, Option.toList_none, List.append_nil]
    exact h

end Answered

end BindingIds

end HostBridge
