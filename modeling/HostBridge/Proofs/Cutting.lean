import HostBridge.Text.Utf8

/-!
# Cutting a text to a number of bytes

A text that is too long is cut at a boundary between two characters. The boundary is searched
backwards from the limit. Zero is a boundary, so the search cannot go below it, and as no
character has more than four bytes, it takes at most three steps. What is kept is the longest
beginning of the text that fits.

## Main definitions

- `Text.LongestFit` — a text is the longest beginning of another one that fits a limit
- `Text.StopsWithin` — a backward search stops after some steps
- `Text.cutBytes_longestFit`, `Text.exists_stopsWithin` — the cut, and the search for its end
-/

namespace HostBridge.Text

variable {p s : List Char} {m n : Nat}

-- ════════════════════════════════════════════════════════════════════════
-- Lengths in bytes
-- ════════════════════════════════════════════════════════════════════════

@[simp] theorem byteLength_nil : byteLength [] = 0 := rfl

@[simp] theorem byteLength_cons (c : Char) (s : List Char) :
    byteLength (c :: s) = c.utf8Size + byteLength s := rfl

theorem byteLength_append (s t : List Char) :
    byteLength (s ++ t) = byteLength s + byteLength t := by
  induction s with
  | nil => simp
  | cons c s ih => simp [ih, Nat.add_assoc]

theorem byteLength_le_of_prefix (h : p <+: s) : byteLength p ≤ byteLength s := by
  obtain ⟨rest, rfl⟩ := h
  rw [byteLength_append]
  exact Nat.le_add_right _ _

/-- The length in bytes is the one that a string has. -/
theorem utf8ByteSize_eq (text : String) : text.utf8ByteSize = byteLength text.toList := by
  have hsize (s : List Char) : (String.ofList s).utf8ByteSize = byteLength s := by
    induction s with
    | nil => rfl
    | cons c s ih =>
      have hsplit : String.ofList (c :: s) = String.singleton c ++ String.ofList s := by
        rw [String.singleton_eq_ofList, ← String.ofList_append, List.singleton_append]
      rw [hsplit, String.utf8ByteSize_append, String.utf8ByteSize_singleton, ih, byteLength_cons]
  rw [← hsize, String.ofList_toList]

-- ════════════════════════════════════════════════════════════════════════
-- Boundaries
-- ════════════════════════════════════════════════════════════════════════

/-- A boundary is where a beginning of the text ends. -/
theorem isBoundary_iff : isBoundary s n = true ↔ ∃ p, p <+: s ∧ byteLength p = n := by
  induction s generalizing n with
  | nil =>
    cases n with
    | zero => exact iff_of_true rfl ⟨[], List.prefix_rfl, rfl⟩
    | succ n => simp [isBoundary, List.prefix_nil]
  | cons c s ih =>
    cases n with
    | zero => exact iff_of_true rfl ⟨[], List.nil_prefix, rfl⟩
    | succ n =>
      simp only [isBoundary, Bool.and_eq_true, decide_eq_true_eq, ih]
      constructor
      · rintro ⟨hc, p, hp, hlen⟩
        refine ⟨c :: p, List.cons_prefix_cons.mpr ⟨rfl, hp⟩, ?_⟩
        rw [byteLength_cons]
        omega
      · rintro ⟨p, hp, hlen⟩
        cases p with
        | nil => exact absurd hlen (Nat.succ_ne_zero n).symm
        | cons d p =>
          obtain ⟨rfl, hrest⟩ := List.cons_prefix_cons.mp hp
          rw [byteLength_cons] at hlen
          exact ⟨by omega, p, hrest, by omega⟩

@[simp] theorem isBoundary_zero (s : List Char) : isBoundary s 0 = true := by
  cases s <;> rfl

/-- These are the positions of the string that the standard library calls valid. -/
theorem isBoundary_iff_isValid {text : String} :
    isBoundary text.toList n = true ↔ String.Pos.Raw.IsValid text ⟨n⟩ := by
  rw [isBoundary_iff, String.Pos.Raw.isValid_iff_exists_append]
  constructor
  · rintro ⟨p, ⟨rest, hrest⟩, hlen⟩
    refine ⟨String.ofList p, String.ofList rest, ?_, ?_⟩
    · rw [← String.ofList_append, hrest, String.ofList_toList]
    · rw [String.rawEndPos, utf8ByteSize_eq, String.toList_ofList, hlen]
  · rintro ⟨first, rest, rfl, hlen⟩
    refine ⟨first.toList, ⟨rest.toList, String.toList_append.symm⟩, ?_⟩
    rw [← utf8ByteSize_eq]
    exact (congrArg String.Pos.Raw.byteIdx hlen).symm

/-- As no character has more than four bytes, a boundary is at most three bytes away. -/
theorem exists_isBoundary (h : n ≤ byteLength s) :
    ∃ m ≤ n, n ≤ m + 3 ∧ isBoundary s m = true := by
  induction s generalizing n with
  | nil => exact ⟨0, Nat.zero_le n, by rw [byteLength_nil] at h; omega, rfl⟩
  | cons c s ih =>
    by_cases hc : c.utf8Size ≤ n
    · rw [byteLength_cons] at h
      obtain ⟨m, hm, hn, hbound⟩ := ih (n := n - c.utf8Size) (by omega)
      obtain ⟨p, hp, hlen⟩ := isBoundary_iff.mp hbound
      refine ⟨c.utf8Size + m, by omega, by omega, isBoundary_iff.mpr ⟨c :: p, ?_, ?_⟩⟩
      · exact List.cons_prefix_cons.mpr ⟨rfl, hp⟩
      · rw [byteLength_cons, hlen]
    · have hfour := c.utf8Size_le_four
      exact ⟨0, Nat.zero_le n, by omega, isBoundary_zero _⟩

-- ════════════════════════════════════════════════════════════════════════
-- The backward search
-- ════════════════════════════════════════════════════════════════════════

theorem floorBoundary_le (s : List Char) (n : Nat) : floorBoundary s n ≤ n := by
  induction n with
  | zero => exact Nat.le_refl 0
  | succ n ih =>
    rw [floorBoundary]
    split
    · exact Nat.le_refl _
    · exact Nat.le_succ_of_le ih

theorem isBoundary_floorBoundary (s : List Char) (n : Nat) :
    isBoundary s (floorBoundary s n) = true := by
  induction n with
  | zero => exact isBoundary_zero s
  | succ n ih =>
    rw [floorBoundary]
    split
    · next hbound => exact hbound
    · exact ih

/-- The search passes no boundary. -/
theorem le_floorBoundary (hm : m ≤ n) (hbound : isBoundary s m = true) :
    m ≤ floorBoundary s n := by
  induction n with
  | zero => exact hm
  | succ n ih =>
    rw [floorBoundary]
    split
    · exact hm
    · next hpassed =>
      have hne : m ≠ n + 1 := by
        rintro rfl
        exact hpassed hbound
      exact ih (by omega)

/-- A backward search from a limit takes some number of steps to the first position that passes a
    test: it steps back where the test fails, and never from zero. -/
structure StopsWithin (test : Nat → Prop) (limit steps : Nat) : Prop where
  above : steps ≤ limit
  stops : test (limit - steps)
  fails : ∀ k < steps, ¬test (limit - k)

/-- The search for a boundary stops after three steps at most. -/
theorem exists_stopsWithin {text : String} (h : n ≤ text.utf8ByteSize) :
    ∃ steps ≤ 3, floorBoundary text.toList n = n - steps ∧
      StopsWithin (fun i => String.Pos.Raw.IsValid text ⟨i⟩) n steps := by
  rw [utf8ByteSize_eq] at h
  have hle := floorBoundary_le text.toList n
  obtain ⟨m, hm, hn, hbound⟩ := exists_isBoundary h
  have hnear := le_floorBoundary hm hbound
  refine ⟨n - floorBoundary text.toList n, by omega, by omega, by omega, ?_, ?_⟩
  · rw [Nat.sub_sub_self hle]
    exact isBoundary_iff_isValid.mp (isBoundary_floorBoundary text.toList n)
  · intro k hk hvalid
    have := le_floorBoundary (Nat.sub_le n k) (isBoundary_iff_isValid.mpr hvalid)
    omega

-- ════════════════════════════════════════════════════════════════════════
-- The longest beginning that fits
-- ════════════════════════════════════════════════════════════════════════

theorem isPrefix_takeBytes (n : Nat) (s : List Char) : takeBytes n s <+: s := by
  induction s generalizing n with
  | nil => exact List.prefix_rfl
  | cons c s ih =>
    rw [takeBytes]
    split
    · exact List.cons_prefix_cons.mpr ⟨rfl, ih _⟩
    · exact List.nil_prefix

theorem byteLength_takeBytes_le (n : Nat) (s : List Char) : byteLength (takeBytes n s) ≤ n := by
  induction s generalizing n with
  | nil => exact Nat.zero_le n
  | cons c s ih =>
    rw [takeBytes]
    split
    · have := ih (n - c.utf8Size)
      rw [byteLength_cons]
      omega
    · exact Nat.zero_le n

/-- Whatever fits is a beginning of what is taken. -/
theorem prefix_takeBytes (h : p <+: s) (hfits : byteLength p ≤ n) : p <+: takeBytes n s := by
  induction s generalizing n p with
  | nil => exact h
  | cons c s ih =>
    cases p with
    | nil => exact List.nil_prefix
    | cons d p =>
      obtain ⟨rfl, hp⟩ := List.cons_prefix_cons.mp h
      rw [byteLength_cons] at hfits
      rw [takeBytes, if_pos (by omega)]
      exact List.cons_prefix_cons.mpr ⟨rfl, ih hp (by omega)⟩

/-- What is taken ends at the last boundary. -/
theorem byteLength_takeBytes (n : Nat) (s : List Char) :
    byteLength (takeBytes n s) = floorBoundary s n := by
  obtain ⟨p, hp, hlen⟩ := isBoundary_iff.mp (isBoundary_floorBoundary s n)
  have hfits : byteLength p ≤ n := hlen ▸ floorBoundary_le s n
  refine Nat.le_antisymm (le_floorBoundary (byteLength_takeBytes_le n s) ?_) ?_
  · exact isBoundary_iff.mpr ⟨_, isPrefix_takeBytes n s, rfl⟩
  · rw [← hlen]
    exact byteLength_le_of_prefix (prefix_takeBytes hp hfits)

/-- To take what ends before the last boundary is to take what fits. -/
theorem takeBytes_floorBoundary (s : List Char) (n : Nat) :
    takeBytes (floorBoundary s n) s = takeBytes n s := by
  have hbegins : takeBytes n s <+: takeBytes (floorBoundary s n) s :=
    prefix_takeBytes (isPrefix_takeBytes n s) (Nat.le_of_eq (byteLength_takeBytes n s))
  have hbegins' : takeBytes (floorBoundary s n) s <+: takeBytes n s := by
    refine prefix_takeBytes (isPrefix_takeBytes _ s) (Nat.le_trans ?_ (floorBoundary_le s n))
    exact byteLength_takeBytes_le _ s
  exact (hbegins.eq_of_length_le hbegins'.length_le).symm

/-- A cut is what fits, also where nothing has to be cut off. -/
theorem cutBytes_eq_takeBytes (s : List Char) (limit : Nat) :
    cutBytes s limit = takeBytes limit s := by
  unfold cutBytes
  split
  · next hfits =>
    have hbegins : s <+: takeBytes limit s := prefix_takeBytes List.prefix_rfl hfits
    exact hbegins.eq_of_length_le (isPrefix_takeBytes limit s).length_le
  · exact takeBytes_floorBoundary s limit

/-- A text is the longest beginning of a whole one, in whole characters, that has no more bytes
    than a limit. -/
structure LongestFit (limit : Nat) (whole cut : String) : Prop where
  isPrefix : cut.toList <+: whole.toList
  fits : cut.utf8ByteSize ≤ limit
  longest : ∀ other : String, other.toList <+: whole.toList → other.utf8ByteSize ≤ limit →
    other.toList <+: cut.toList

namespace LongestFit

variable {limit : Nat} {whole cut other : String}

/-- There is one longest beginning. -/
theorem unique (h : LongestFit limit whole cut) (h' : LongestFit limit whole other) :
    other = cut := by
  have hbegins := h.longest other h'.isPrefix h'.fits
  have hbegins' := h'.longest cut h.isPrefix h.fits
  exact String.toList_injective (hbegins.eq_of_length_le hbegins'.length_le)

/-- A text that fits is its own longest beginning. -/
theorem eq_whole (h : LongestFit limit whole cut) (hfits : whole.utf8ByteSize ≤ limit) :
    cut = whole :=
  unique ⟨List.prefix_rfl, hfits, fun _ hother _ => hother⟩ h

end LongestFit

/-- A text that is too long is cut where the search ends. -/
theorem utf8ByteSize_cutBytes (text : String) (limit : Nat) :
    (String.ofList (cutBytes text.toList limit)).utf8ByteSize =
      floorBoundary text.toList limit := by
  rw [utf8ByteSize_eq, String.toList_ofList, cutBytes_eq_takeBytes, byteLength_takeBytes]

/-- A text is cut to the longest beginning that fits. -/
theorem cutBytes_longestFit (text : String) (limit : Nat) :
    LongestFit limit text (String.ofList (cutBytes text.toList limit)) := by
  rw [cutBytes_eq_takeBytes]
  refine ⟨?_, ?_, fun other hother hfits => ?_⟩
  · rw [String.toList_ofList]
    exact isPrefix_takeBytes limit text.toList
  · rw [utf8ByteSize_eq, String.toList_ofList]
    exact byteLength_takeBytes_le limit text.toList
  · rw [utf8ByteSize_eq] at hfits
    rw [String.toList_ofList]
    exact prefix_takeBytes hother hfits

end HostBridge.Text
