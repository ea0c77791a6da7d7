import HostBridge.Proofs.JsonWriting
import HostBridge.Proofs.Meaning
import HostBridge.Proofs.NotationReading
import HostBridge.Script.Property

/-!
# Values of trees

A script that reads an object sets its members one after the other, so a key is found with the
member that came last, and indices are listed first. What is written for such a value denotes what
its tree does: the order of members does not matter, and the members that were replaced do not
either.

## Main definitions

- `Properties.at?` — the value under a key
- `ScriptValue.document` — what is written for a value
- `ScriptValue.at?_ofMembers` — the value under a key is that of the last member
- `ScriptValue.meaning_document` — what is written for the value of a tree denotes the same
-/

namespace HostBridge

open Json (Document Tree)

-- ════════════════════════════════════════════════════════════════════════
-- Properties
-- ════════════════════════════════════════════════════════════════════════

namespace Properties

variable {own : Properties} {key k : CodePoints} {value : Option ScriptValue}

/-- The value under a key, if it has one. -/
def at? (own : Properties) (key : CodePoints) : Option ScriptValue :=
  (own.find? (·.1 = key)).bind (·.2)

theorem at?_cons (k : CodePoints) (v : ScriptValue) (own : Properties) (key : CodePoints) :
    at? ((k, some v) :: own) key = if k = key then some v else at? own key := by
  by_cases hk : k = key <;> simp [at?, hk]

theorem at?_of_notMem (h : key ∉ own.map (·.1)) : at? own key = none := by
  rw [at?, List.find?_eq_none.mpr, Option.bind_none]
  exact fun p hp hkey => h (List.mem_map.mpr ⟨p, hp, of_decide_eq_true hkey⟩)

/-- A key that is there is set where it stands. -/
theorem put_of_mem (h : k ∈ own.map (·.1)) :
    put own k value = own.map fun p => if p.1 = k then (k, value) else p := by
  obtain ⟨p, hp, hk⟩ := List.mem_map.mp h
  exact if_pos (List.any_eq_true.mpr ⟨p, hp, decide_eq_true hk⟩)

/-- A new key is set somewhere among the others. -/
theorem exists_put_of_notMem (h : k ∉ own.map (·.1)) :
    ∃ before behind, own = before ++ behind ∧
      put own k value = before ++ (k, value) :: behind := by
  refine ⟨own.takeWhile fun p => !precedes k p.1, own.dropWhile fun p => !precedes k p.1,
    List.takeWhile_append_dropWhile.symm, if_neg fun hany => ?_⟩
  obtain ⟨p, hp, hk⟩ := List.any_eq_true.mp hany
  exact h (List.mem_map.mpr ⟨p, hp, of_decide_eq_true hk⟩)

/-- What is found under a key once one is set. -/
theorem find?_put (own : Properties) (k : CodePoints) (value : Option ScriptValue)
    (key : CodePoints) :
    (put own k value).find? (·.1 = key) =
      if k = key then some (key, value) else own.find? (·.1 = key) := by
  by_cases hmem : k ∈ own.map (·.1)
  · have hkeys : ((fun p => decide (p.1 = key)) ∘ fun p => if p.1 = k then (k, value) else p) =
        fun p : CodePoints × Option ScriptValue => decide (p.1 = key) := by
      funext p
      by_cases hp : p.1 = k <;> simp [hp]
    rw [put_of_mem hmem, List.find?_map, hkeys]
    cases hfound : own.find? (·.1 = key) with
    | none =>
      have hne : k ≠ key := by
        rintro rfl
        obtain ⟨p, hp, hk⟩ := List.mem_map.mp hmem
        exact absurd hk (by simpa using List.find?_eq_none.mp hfound p hp)
      rw [if_neg hne]
      rfl
    | some p =>
      have hp : p.1 = key := by simpa using List.find?_some hfound
      by_cases hk : k = key
      · simp [hp, hk]
      · simp [hp, hk, Ne.symm hk]
  · obtain ⟨before, behind, hown, hput⟩ := @exists_put_of_notMem own k value hmem
    rw [hput, hown, List.find?_append, List.find?_append, List.find?_cons]
    by_cases hk : k = key
    · have hnone : before.find? (·.1 = key) = none := by
        refine List.find?_eq_none.mpr fun p hp hkey => hmem ?_
        rw [hown, List.map_append, List.mem_append, hk]
        exact Or.inl (List.mem_map.mpr ⟨p, hp, of_decide_eq_true hkey⟩)
      simp [hnone, hk]
    · simp [hk]

theorem at?_put (own : Properties) (k : CodePoints) (v : ScriptValue) (key : CodePoints) :
    at? (put own k (some v)) key = if k = key then some v else at? own key := by
  rw [at?, find?_put, at?]
  split <;> rfl

theorem mem_put {p : CodePoints × Option ScriptValue} (h : p ∈ put own k value) :
    p = (k, value) ∨ p ∈ own := by
  by_cases hmem : k ∈ own.map (·.1)
  · rw [put_of_mem hmem] at h
    obtain ⟨q, hq, rfl⟩ := List.mem_map.mp h
    split
    · exact Or.inl rfl
    · exact Or.inr hq
  · obtain ⟨before, behind, hown, hput⟩ := @exists_put_of_notMem own k value hmem
    rw [hput] at h
    rw [hown]
    exact List.mem_cons.mp (List.perm_middle.mem_iff.mp h)

/-- No key is listed twice. -/
theorem nodup_put (h : (own.map (·.1)).Nodup) (k : CodePoints) (value : Option ScriptValue) :
    ((put own k value).map (·.1)).Nodup := by
  by_cases hmem : k ∈ own.map (·.1)
  · have hkeys : ((·.1) ∘ fun p => if p.1 = k then (k, value) else p) =
        fun p : CodePoints × Option ScriptValue => p.1 := by
      funext p
      by_cases hp : p.1 = k <;> simp [hp]
    rw [put_of_mem hmem, List.map_map, hkeys]
    exact h
  · obtain ⟨before, behind, hown, hput⟩ := @exists_put_of_notMem own k value hmem
    have hperm : ((put own k value).map (·.1)).Perm (k :: own.map (·.1)) := by
      rw [hput, hown]
      exact List.perm_middle.map _
    exact hperm.nodup_iff.mpr (List.nodup_cons.mpr ⟨hmem, h⟩)

/-- The value under a key is found where no property is a getter. -/
theorem own_eq_at? (hvalues : ∀ p ∈ own, p.2.isSome) (key : CodePoints) :
    Lookup.own own key = match at? own key with
      | some v => .value v
      | none => .missing := by
  rw [Lookup.own, at?]
  cases hfound : own.find? (·.1 = key) with
  | none => rfl
  | some p =>
    obtain ⟨v, hv⟩ := Option.isSome_iff_exists.mp (hvalues p (List.mem_of_find?_eq_some hfound))
    obtain ⟨k, value⟩ := p
    obtain rfl : value = some v := hv
    rfl

end Properties

-- ════════════════════════════════════════════════════════════════════════
-- Values of trees
-- ════════════════════════════════════════════════════════════════════════

namespace ScriptValue

mutual

/-- What is written for a value that has been read. -/
def document : ScriptValue → Document
  | .bool b => .bool b
  | .number n => n.document
  | .string s => .string s
  | .array items => .array (itemDocuments items)
  | .object own => .object (ownDocuments own)
  | _ => .null

/-- What is written for the items of an array. -/
def itemDocuments : List ScriptValue → List Document
  | [] => []
  | v :: rest => v.document :: itemDocuments rest

/-- What is written for the properties of an object. -/
def ownDocuments : Properties → List (CodePoints × Document)
  | [] => []
  | (_, none) :: rest => ownDocuments rest
  | (key, some v) :: rest => (key, v.document) :: ownDocuments rest

end

theorem ofItems_eq_map (items : List Tree) : ofItems items = items.map ofTree :=
  Tree.eq_map_of_cons rfl (fun _ _ => rfl) items

/-- The value under a key is that of the last member with the key. -/
theorem at?_ofMembers (members : List (CodePoints × Tree)) (read : Properties)
    (key : CodePoints) :
    Properties.at? (ofMembers read members) key =
      ((Tree.last? members key).map ofTree).or (Properties.at? read key) := by
  induction members generalizing read with
  | nil => rfl
  | cons m members ih =>
    obtain ⟨k, v⟩ := m
    rw [ofMembers, ih, Properties.at?_put, Tree.last?, Option.map_or, Option.or_assoc]
    split <;> rfl

theorem mem_ofMembers {members : List (CodePoints × Tree)} {read : Properties}
    {p : CodePoints × Option ScriptValue} (h : p ∈ ofMembers read members) :
    p ∈ read ∨ ∃ m ∈ members, p = (m.1, some (ofTree m.2)) := by
  induction members generalizing read with
  | nil => exact Or.inl h
  | cons m members ih =>
    obtain ⟨k, v⟩ := m
    rcases ih h with hput | ⟨m, hm, rfl⟩
    · rcases Properties.mem_put hput with rfl | hread
      · exact Or.inr ⟨(k, v), List.mem_cons_self, rfl⟩
      · exact Or.inl hread
    · exact Or.inr ⟨m, List.mem_cons_of_mem _ hm, rfl⟩

/-- The properties of an object that has been read are those of its members. -/
theorem exists_member {members : List (CodePoints × Tree)}
    {p : CodePoints × Option ScriptValue} (h : p ∈ ofMembers [] members) :
    ∃ m ∈ members, p = (m.1, some (ofTree m.2)) :=
  (mem_ofMembers h).resolve_left List.not_mem_nil

theorem nodup_ofMembers (members : List (CodePoints × Tree)) (read : Properties)
    (h : (read.map (·.1)).Nodup) : ((ofMembers read members).map (·.1)).Nodup := by
  induction members generalizing read with
  | nil => exact h
  | cons m members ih => exact ih _ (Properties.nodup_put h _ _)

theorem isSome_of_mem {members : List (CodePoints × Tree)} :
    ∀ p ∈ ofMembers [] members, p.2.isSome := by
  intro p hp
  obtain ⟨m, -, rfl⟩ := exists_member hp
  rfl

/-- A property of an object that has been read, by the last member with the key. -/
theorem own_ofMembers (members : List (CodePoints × Tree)) (key : CodePoints) :
    Lookup.own (ofMembers [] members) key = match Tree.last? members key with
      | some t => .value (ofTree t)
      | none => .missing := by
  rw [Properties.own_eq_at? isSome_of_mem, at?_ofMembers]
  cases Tree.last? members key <;> rfl

-- ════════════════════════════════════════════════════════════════════════
-- What is written for them
-- ════════════════════════════════════════════════════════════════════════

theorem itemDocuments_eq_map (items : List ScriptValue) :
    itemDocuments items = items.map document :=
  Tree.eq_map_of_cons rfl (fun _ _ => rfl) items

theorem mem_ownDocuments {own : Properties} {d : CodePoints × Document}
    (h : d ∈ ownDocuments own) : ∃ v, (d.1, some v) ∈ own ∧ d.2 = v.document := by
  induction own with
  | nil => nomatch h
  | cons p own ih =>
    obtain ⟨k, value⟩ := p
    cases value with
    | none =>
      obtain ⟨v, hv, hd⟩ := ih h
      exact ⟨v, List.mem_cons_of_mem _ hv, hd⟩
    | some w =>
      rcases List.mem_cons.mp h with rfl | h
      · exact ⟨w, List.mem_cons_self, rfl⟩
      · obtain ⟨v, hv, hd⟩ := ih h
        exact ⟨v, List.mem_cons_of_mem _ hv, hd⟩

/-- What is written under a key is the value under the key. -/
theorem memberMeaning?_ownDocuments {own : Properties} (hkeys : (own.map (·.1)).Nodup)
    (hvalues : ∀ p ∈ own, p.2.isSome) (key : CodePoints) :
    Tree.memberMeaning? (Document.memberTrees (ownDocuments own)) key =
      (Properties.at? own key).map fun v => v.document.tree.meaning := by
  induction own with
  | nil => rfl
  | cons p own ih =>
    obtain ⟨k, value⟩ := p
    obtain ⟨v, rfl⟩ := Option.isSome_iff_exists.mp (hvalues _ List.mem_cons_self)
    obtain ⟨hk, hrest⟩ := List.nodup_cons.mp hkeys
    have hbehind := ih hrest fun p hp => hvalues p (List.mem_cons_of_mem _ hp)
    rw [ownDocuments, Document.memberTrees, Tree.memberMeaning?, hbehind]
    rw [Properties.at?_cons]
    by_cases heq : k = key
    · rw [if_pos heq, if_pos heq, Properties.at?_of_notMem (heq ▸ hk)]
      rfl
    · rw [if_neg heq, if_neg heq, Option.or_none]

/-- What is written for a number is a number. -/
theorem document_number {n : Json.Number} {i : Int} (hv : n.value = i)
    (hlow : -0x80000000 ≤ i) (hhigh : i ≤ 0x7FFFFFFF) :
    (ofTree (.number n)).document = .number (toString i) :=
  ScriptNumber.document_ofNumber hv hlow hhigh

/-- An integer that is written out has its value. -/
theorem value_ofInt (i : Int) : (Json.Number.ofInt i).value = i := by
  have hint : (Json.Number.ofInt i).numeral.toInt = i := by
    change (if decide (i < 0) = true then -(i.natAbs : Int) else i.natAbs) = i
    split
    · next hneg =>
      have hi : i < 0 := of_decide_eq_true hneg
      omega
    · next hpos =>
      have hi : ¬i < 0 := fun hi => hpos (decide_eq_true hi)
      omega
  have hinteger : (Json.Number.ofInt i).isInteger = true := rfl
  rw [Json.Number.value, if_pos hinteger, hint]

theorem plainItems_iff {items : List Document} :
    Document.PlainItems items ↔ ∀ d ∈ items, d.Plain := by
  induction items with
  | nil => simp [Document.PlainItems]
  | cons d items ih => simp [Document.PlainItems, ih]

theorem plainMembers_iff {members : List (CodePoints × Document)} :
    Document.PlainMembers members ↔
      ∀ m ∈ members, (∃ text : String, m.1 = CodePoints.ofString text) ∧ m.2.Plain := by
  induction members with
  | nil => simp [Document.PlainMembers]
  | cons m members ih => simp [Document.PlainMembers, ih, and_assoc]

theorem itemTrees_eq_map (items : List Document) :
    Document.itemTrees items = items.map Document.tree :=
  Tree.eq_map_of_cons rfl (fun _ _ => rfl) items

/-- What is written for the value of a tree can be read. -/
theorem plain_document {t : Tree} (h : t.Portable) : (ofTree t).document.Plain := by
  induction h with
  | null | bool => trivial
  | number hv hlow hhigh =>
    rw [document_number hv hlow hhigh]
    exact ⟨_, rfl⟩
  | string text => exact ⟨text, rfl⟩
  | array _ ih =>
    refine plainItems_iff.mpr fun d hd => ?_
    rw [itemDocuments_eq_map, ofItems_eq_map, List.map_map] at hd
    obtain ⟨v, hv, rfl⟩ := List.mem_map.mp hd
    exact ih v hv
  | object hkeys _ ih =>
    refine plainMembers_iff.mpr fun d hd => ?_
    obtain ⟨v, hv, hd⟩ := mem_ownDocuments hd
    obtain ⟨m, hm, hp⟩ := exists_member hv
    obtain ⟨hkey, hvalue⟩ := Prod.mk.inj hp
    obtain rfl := Option.some.inj hvalue
    exact ⟨hkey ▸ hkeys m hm, hd ▸ ih m hm⟩

/-- What is written for the value of a tree denotes the same as the tree. -/
theorem meaning_document {t : Tree} (h : t.Portable) :
    (ofTree t).document.tree.meaning = t.meaning := by
  induction h with
  | null | bool | string => rfl
  | number hv hlow hhigh =>
    rw [document_number hv hlow hhigh, Document.tree, Document.numberOf_toString, Tree.meaning,
      Tree.meaning, value_ofInt, hv]
  | @array items _ ih =>
    rw [ofTree, document, Document.tree, Tree.meaning, Tree.meaning, itemTrees_eq_map,
      itemDocuments_eq_map, ofItems_eq_map, Tree.itemMeanings_eq_map, Tree.itemMeanings_eq_map,
      List.map_map, List.map_map, List.map_map]
    exact congrArg Json.Meaning.array (List.map_congr_left ih)
  | @object members hkeys _ ih =>
    rw [ofTree, document, Document.tree, Tree.meaning, Tree.meaning]
    refine congrArg Json.Meaning.object (funext fun key => ?_)
    rw [memberMeaning?_ownDocuments (nodup_ofMembers members [] List.nodup_nil) isSome_of_mem,
      at?_ofMembers, Tree.memberMeaning?_eq]
    cases hlast : Tree.last? members key with
    | none => rfl
    | some v => exact congrArg some (ih _ (Tree.mem_of_last? hlast))

/-- The last member with a key counts, and it stands where the first one did. -/
example :
    (ofTree (.object [(CodePoints.ofString "k", .number ⟨⟨false, 1, 0⟩, true⟩),
      (CodePoints.ofString "l", .null),
      (CodePoints.ofString "k", .number ⟨⟨false, 1, 2⟩, false⟩)])).document.write =
        "\x7b\"k\":100,\"l\":null\x7d" := by
  decide +kernel

-- ════════════════════════════════════════════════════════════════════════
-- How deep they nest
-- ════════════════════════════════════════════════════════════════════════

theorem itemsDepth_le_iff {items : List ScriptValue} {n : Nat} :
    itemsDepth items ≤ n ↔ ∀ v ∈ items, v.depth ≤ n := by
  induction items with
  | nil => simp [itemsDepth]
  | cons v items ih => simp [itemsDepth, ih]

theorem ownDepth_le_iff {own : Properties} {n : Nat} :
    ownDepth own ≤ n ↔ ∀ p ∈ own, ∀ v, p.2 = some v → v.depth ≤ n := by
  induction own with
  | nil => simp [ownDepth]
  | cons p own ih =>
    obtain ⟨k, value⟩ := p
    cases value <;> simp [ownDepth, ih]

/-- The value of a tree nests no deeper than the tree. -/
theorem depth_ofTree_le (t : Tree) : (ofTree t).depth ≤ t.depth := by
  induction t using Tree.induction with
  | null | bool | number | string => exact Nat.le_refl _
  | array items ih =>
    refine Nat.succ_le_succ (itemsDepth_le_iff.mpr fun v hv => ?_)
    rw [ofItems_eq_map] at hv
    obtain ⟨t, ht, rfl⟩ := List.mem_map.mp hv
    exact Nat.le_trans (ih t ht) (Tree.depth_le_itemsDepth ht)
  | object members ih =>
    refine Nat.succ_le_succ (ownDepth_le_iff.mpr fun p hp v hv => ?_)
    obtain ⟨m, hm, rfl⟩ := exists_member hp
    obtain rfl := Option.some.inj hv
    exact Nat.le_trans (ih m hm) (Tree.depth_le_membersDepth hm)

end ScriptValue

end HostBridge
