import HostBridge.Text.CamelCase

/-!
# Field names by their pieces

The spelling of a field name is made in one pass with two flags: whether something has been
written, and whether the next character starts a later piece. It is the spelling by pieces. The
name is split at its underscores, empty pieces are dropped, and the others are joined with the
first one as it is and each later one capitalized. The pass is past its first character when it
has written something, and from there on an empty piece adds nothing, whether it is dropped or not.

## Main definitions

- `Text.spelled` — pieces as scripts spell them
- `Text.camelCase_eq_spelled` — the spelling of a field name is that of its pieces
-/

namespace HostBridge.Text

variable {cs : List Char} {c : Char}

-- ════════════════════════════════════════════════════════════════════════
-- Pieces
-- ════════════════════════════════════════════════════════════════════════

/-- Pieces as scripts spell them: the first one as it is, each later one with its first character
    in upper case. -/
def spelled : List (List Char) → List Char
  | [] => []
  | first :: later => first ++ later.flatMap capitalize

@[simp] theorem split_underscore (cs : List Char) : split ('_' :: cs) = [] :: split cs := rfl

/-- A character that is no underscore belongs to the first piece. -/
theorem exists_split_cons (hc : c ≠ '_') (cs : List Char) :
    ∃ piece later, split cs = piece :: later ∧ split (c :: cs) = (c :: piece) :: later := by
  rw [split, if_neg hc]
  induction cs with
  | nil => exact ⟨[], [], rfl, rfl⟩
  | cons d cs ih =>
    obtain ⟨piece, later, hsplit, -⟩ := ih
    by_cases hd : d = '_'
    · subst hd
      exact ⟨[], split cs, rfl, rfl⟩
    · refine ⟨d :: piece, later, ?_, ?_⟩ <;> rw [split, if_neg hd, hsplit]

/-- To split at underscores is what the standard library calls so. -/
theorem split_eq_splitOn (cs : List Char) : split cs = cs.splitOn '_' := by
  rw [List.splitOn_eq_splitOnP]
  induction cs with
  | nil => rfl
  | cons c cs ih =>
    rw [List.splitOnP_cons_eq_if_modifyHead, ← ih]
    by_cases hc : c = '_'
    · subst hc
      rfl
    · obtain ⟨piece, later, hsplit, hcons⟩ := exists_split_cons hc cs
      rw [if_neg (by simpa using hc), hcons, hsplit, List.modifyHead_cons]

/-- A name without underscores is its own only piece. -/
theorem split_of_notMem (h : '_' ∉ cs) : split cs = [cs] := by
  rw [split_eq_splitOn, List.splitOn_eq_splitOnP]
  refine List.splitOnP_eq_singleton fun c hc => ?_
  exact beq_eq_false_iff_ne.mpr fun heq => h (heq ▸ hc)

/-- No piece has an underscore. -/
theorem notMem_of_mem_split {piece : List Char} (h : piece ∈ split cs) : '_' ∉ piece := by
  induction cs generalizing piece with
  | nil =>
    rw [List.mem_singleton.mp h]
    exact List.not_mem_nil
  | cons c cs ih =>
    by_cases hc : c = '_'
    · subst hc
      rw [split_underscore] at h
      rcases List.mem_cons.mp h with rfl | hlater
      · exact List.not_mem_nil
      · exact ih hlater
    · obtain ⟨first, later, hsplit, hcons⟩ := exists_split_cons hc cs
      rw [hcons] at h
      rcases List.mem_cons.mp h with rfl | hlater
      · rw [List.mem_cons, not_or]
        exact ⟨Ne.symm hc, ih (hsplit ▸ List.mem_cons_self)⟩
      · exact ih (hsplit ▸ List.mem_cons_of_mem first hlater)

/-- Among later pieces the empty ones add nothing. -/
theorem flatMap_capitalize_filter (ps : List (List Char)) :
    (ps.filter (!·.isEmpty)).flatMap capitalize = ps.flatMap capitalize := by
  induction ps with
  | nil => rfl
  | cons p ps ih => cases p <;> simp [ih, capitalize]

-- ════════════════════════════════════════════════════════════════════════
-- The pass
-- ════════════════════════════════════════════════════════════════════════

/-- In the middle of a piece, and at the start of a later one, the pass spells what is left of the
    name without dropping pieces. -/
theorem camelFrom_started (cs : List Char) :
    camelFrom true false cs = spelled (split cs) ∧
      camelFrom true true cs = (split cs).flatMap capitalize := by
  induction cs with
  | nil => exact ⟨rfl, rfl⟩
  | cons c cs ih =>
    obtain ⟨hpiece, hlater⟩ := ih
    by_cases hc : c = '_'
    · subst hc
      exact ⟨hlater, hlater⟩
    · obtain ⟨piece, later, hsplit, hcons⟩ := exists_split_cons hc cs
      rw [camelFrom, camelFrom, if_neg hc, if_neg hc, hpiece, hsplit, hcons]
      exact ⟨rfl, rfl⟩

/-- Before anything is written, the pass drops the empty pieces. -/
theorem camelFrom_fresh (cs : List Char) : camelFrom false false cs = spelled (pieces cs) := by
  induction cs with
  | nil => rfl
  | cons c cs ih =>
    by_cases hc : c = '_'
    · subst hc
      exact ih
    · obtain ⟨piece, later, hsplit, hcons⟩ := exists_split_cons hc cs
      have hpieces : pieces (c :: cs) = (c :: piece) :: later.filter (!·.isEmpty) := by
        rw [pieces, hcons]
        rfl
      rw [camelFrom, if_neg hc, (camelFrom_started cs).1, hpieces, hsplit, spelled, spelled,
        flatMap_capitalize_filter]
      rfl

-- ════════════════════════════════════════════════════════════════════════
-- Underscores
-- ════════════════════════════════════════════════════════════════════════

/-- Only an underscore is an underscore in upper case. -/
theorem toUpper_ne_underscore (hc : c ≠ '_') : c.toUpper ≠ '_' := by
  unfold Char.toUpper
  split
  · next hlower =>
    intro heq
    have hval : c.val = '_'.val - ('A'.val - 'a'.val) := by
      rw [← heq]
      exact (UInt32.add_sub_cancel _ _).symm
    -- The only character that could come to this lies behind the small letters.
    exact absurd (hval ▸ hlower.2) (by decide)
  · exact hc

theorem notMem_capitalize {piece : List Char} (h : '_' ∉ piece) : '_' ∉ capitalize piece := by
  cases piece with
  | nil => exact h
  | cons c rest =>
    rw [List.mem_cons, not_or] at h
    rw [capitalize, List.mem_cons, not_or]
    exact ⟨(toUpper_ne_underscore (Ne.symm h.1)).symm, h.2⟩

/-- Pieces without underscores are spelled without one. -/
theorem notMem_spelled {ps : List (List Char)} (h : ∀ p ∈ ps, '_' ∉ p) : '_' ∉ spelled ps := by
  cases ps with
  | nil => exact List.not_mem_nil
  | cons first later =>
    rw [List.forall_mem_cons] at h
    rw [spelled, List.mem_append, not_or, List.mem_flatMap]
    refine ⟨h.1, ?_⟩
    rintro ⟨p, hp, hmem⟩
    exact notMem_capitalize (h.2 p hp) hmem

/-- A name that is one piece, or empty, is spelled as it is. -/
theorem spelled_pieces_of_notMem (h : '_' ∉ cs) : spelled (pieces cs) = cs := by
  rw [pieces, split_of_notMem h]
  cases cs with
  | nil => rfl
  | cons c cs => exact List.append_nil _

/-- The spelling of a field name is that of its pieces: the name is split at its underscores, empty
    pieces are dropped, the first one is kept, and each later one is capitalized. So there is no
    underscore in it, a name stays as it is exactly if it has none, and a spelling is its own
    spelling. -/
theorem camelCase_eq_spelled (name : String) :
    camelCase name = String.ofList (spelled (pieces name.toList)) ∧
      '_' ∉ (camelCase name).toList ∧
      (camelCase name = name ↔ '_' ∉ name.toList) ∧
      camelCase (camelCase name) = camelCase name := by
  have hspelled (name : String) :
      camelCase name = String.ofList (spelled (pieces name.toList)) := by
    rw [camelCase, camelFrom_fresh]
  have hnone (name : String) : '_' ∉ (camelCase name).toList := by
    rw [hspelled, String.toList_ofList]
    exact notMem_spelled fun p hp => notMem_of_mem_split (List.mem_filter.mp hp).1
  have hsame (name : String) : camelCase name = name ↔ '_' ∉ name.toList := by
    refine ⟨fun heq => heq ▸ hnone name, fun h => ?_⟩
    rw [hspelled, spelled_pieces_of_notMem h, String.ofList_toList]
  exact ⟨hspelled name, hnone name, hsame name, (hsame _).mpr (hnone name)⟩

example : camelCase "_private__2nd_field_" = "private2ndField" := by decide

end HostBridge.Text
