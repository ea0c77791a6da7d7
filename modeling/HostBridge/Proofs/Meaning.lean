import HostBridge.Json.Tree
import HostBridge.Proofs.WholeNumerals

/-!
# What object notation denotes

Two texts denote the same document if they differ in blanks, in how numbers and strings are
written, in the order of members and in members that a later one with the same key replaces. So an
object denotes a function from keys, and of several members with one key the last counts.

## Main definitions

- `Json.Meaning` — what a tree denotes
- `Json.Tree.meaning` — numbers by their value, objects as functions from keys
- `Json.Tree.last?` — the member of an object that counts
- `Json.Tree.Portable` — trees that a script holds without loss
-/

namespace HostBridge.Json

/-- What object notation denotes. -/
inductive Meaning where
  | null
  | bool (b : Bool)
  | number (q : ℚ)
  | string (s : CodePoints)
  | array (items : List Meaning)
  | object (value? : CodePoints → Option Meaning)

namespace Tree

/-- Induction over trees: what holds of an array or an object if it holds of its parts. -/
@[elab_as_elim]
theorem induction {P : Tree → Prop} (null : P .null) (bool : ∀ b, P (.bool b))
    (number : ∀ n, P (.number n)) (string : ∀ s, P (.string s))
    (array : ∀ items, (∀ v ∈ items, P v) → P (.array items))
    (object : ∀ members, (∀ m ∈ members, P m.2) → P (.object members)) (t : Tree) : P t :=
  match t with
  | .null => null
  | .bool b => bool b
  | .number n => number n
  | .string s => string s
  | .array items => array items fun v _ => induction null bool number string array object v
  | .object members => object members fun m _ => induction null bool number string array object m.2
termination_by sizeOf t
decreasing_by
  · have hv : v ∈ items := ‹_›
    have hlt := List.sizeOf_lt_of_mem hv
    rw [Tree.array.sizeOf_spec]
    omega
  · have hm : m ∈ members := ‹_›
    have hlt := List.sizeOf_lt_of_mem hm
    have hpair : sizeOf m.2 < sizeOf m := by
      rw [Prod.mk.sizeOf_spec m.1 m.2]
      omega
    rw [Tree.object.sizeOf_spec]
    omega

mutual

/-- What a tree denotes. -/
def meaning : Tree → Meaning
  | null => .null
  | bool b => .bool b
  | number n => .number n.value
  | string s => .string s
  | array items => .array (itemMeanings items)
  | object members => .object (memberMeaning? members)

/-- What the items of an array denote. -/
def itemMeanings : List Tree → List Meaning
  | [] => []
  | v :: rest => v.meaning :: itemMeanings rest

/-- What the last member with a key denotes. -/
def memberMeaning? : List (CodePoints × Tree) → CodePoints → Option Meaning
  | [], _ => none
  | (k, v) :: rest, key =>
    (memberMeaning? rest key).or (if k = key then some v.meaning else none)

end

/-- The last member with a key. -/
def last? : List (CodePoints × Tree) → CodePoints → Option Tree
  | [], _ => none
  | (k, v) :: rest, key => (last? rest key).or (if k = key then some v else none)

theorem memberMeaning?_eq (members : List (CodePoints × Tree)) (key : CodePoints) :
    memberMeaning? members key = (last? members key).map meaning := by
  induction members with
  | nil => rfl
  | cons m members ih =>
    obtain ⟨k, v⟩ := m
    rw [memberMeaning?, last?, ih, Option.map_or]
    split <;> rfl

theorem mem_of_last? {members : List (CodePoints × Tree)} {key : CodePoints} {t : Tree}
    (h : last? members key = some t) : (key, t) ∈ members := by
  induction members with
  | nil => nomatch h
  | cons m members ih =>
    obtain ⟨k, v⟩ := m
    rw [last?, Option.or_eq_some_iff] at h
    rcases h with hrest | ⟨-, hfirst⟩
    · exact List.mem_cons_of_mem _ (ih hrest)
    · split at hfirst
      · next hk =>
        obtain rfl := Option.some.inj hfirst
        exact hk ▸ List.mem_cons_self
      · nomatch hfirst

/-- A function that goes through the items of an array one by one maps them. -/
theorem eq_map_of_cons {α β : Type} {f : List α → List β} {g : α → β} (hnil : f [] = [])
    (hcons : ∀ v items, f (v :: items) = g v :: f items) (items : List α) :
    f items = items.map g := by
  induction items with
  | nil => exact hnil
  | cons v items ih => rw [hcons, ih, List.map_cons]

theorem itemMeanings_eq_map (items : List Tree) : itemMeanings items = items.map meaning :=
  eq_map_of_cons rfl (fun _ _ => rfl) items

theorem depth_le_itemsDepth {items : List Tree} {v : Tree} (h : v ∈ items) :
    v.depth ≤ itemsDepth items := by
  induction items with
  | nil => nomatch h
  | cons w items ih =>
    rw [itemsDepth]
    rcases List.mem_cons.mp h with rfl | h
    · exact Nat.le_max_left _ _
    · exact Nat.le_trans (ih h) (Nat.le_max_right _ _)

theorem depth_le_membersDepth {members : List (CodePoints × Tree)} {m : CodePoints × Tree}
    (h : m ∈ members) : m.2.depth ≤ membersDepth members := by
  induction members with
  | nil => nomatch h
  | cons n members ih =>
    obtain ⟨k, w⟩ := n
    rw [membersDepth]
    rcases List.mem_cons.mp h with rfl | h
    · exact Nat.le_max_left _ _
    · exact Nat.le_trans (ih h) (Nat.le_max_right _ _)

/-- Trees that a script holds without loss: the numbers are integers of 32 bits, and no text has
    half of a surrogate pair. -/
inductive Portable : Tree → Prop where
  | null : Portable .null
  | bool (b : Bool) : Portable (.bool b)
  | number {n : Number} {i : Int} (value : n.value = i) (low : -0x80000000 ≤ i)
      (high : i ≤ 0x7FFFFFFF) : Portable (.number n)
  | string (text : String) : Portable (.string (CodePoints.ofString text))
  | array {items : List Tree} (items_portable : ∀ v ∈ items, Portable v) : Portable (.array items)
  | object {members : List (CodePoints × Tree)}
      (keys : ∀ m ∈ members, ∃ text : String, m.1 = CodePoints.ofString text)
      (values : ∀ m ∈ members, Portable m.2) : Portable (.object members)

namespace Portable

theorem array_nil : Portable (.array []) :=
  .array fun _ h => nomatch h

theorem array_cons {v : Tree} {items : List Tree} (hv : v.Portable)
    (hrest : Portable (.array items)) : Portable (.array (v :: items)) := by
  cases hrest with
  | array hitems => exact .array (List.forall_mem_cons.mpr ⟨hv, hitems⟩)

theorem object_nil : Portable (.object []) :=
  .object (fun _ h => nomatch h) fun _ h => nomatch h

theorem object_cons {v : Tree} {members : List (CodePoints × Tree)} (key : String)
    (hv : v.Portable) (hrest : Portable (.object members)) :
    Portable (.object ((CodePoints.ofString key, v) :: members)) := by
  cases hrest with
  | object hkeys hvalues =>
    exact .object (List.forall_mem_cons.mpr ⟨⟨key, rfl⟩, hkeys⟩)
      (List.forall_mem_cons.mpr ⟨hv, hvalues⟩)

end Portable

end Tree

end HostBridge.Json
