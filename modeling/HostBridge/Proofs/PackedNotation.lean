import HostBridge.Host.Conversion
import HostBridge.Playground.Basic
import HostBridge.Proofs.CodecTable
import HostBridge.Proofs.JsonWriting
import HostBridge.Proofs.Rounding
import Mathlib.Data.List.Forall2
import Mathlib.Data.List.Induction

/-!
# Packed types in object notation

A type that packs into lanes reads object notation through its converter: leniently, from the
members of an object, in the spelling of scripts or else in that of the host. A type without a
codec is read strictly. What the strict reader accepts the lenient one reads alike: a field has one
member, and the lenient reader finds the same one; a number is rounded once by the one and twice by
the other, which comes to the same up to 2 ^ 53. What is no object, nests too deep or holds a value
that the lenient reader cannot hold goes to the strict reader in either case.

## Main definitions

- `Schema.PlainKeys` — trees in which no key is how only scripts spell a field
- `Schema.ShortIntegers` — trees whose integers in 32-bit float fields a 64-bit float holds

## Main results

- `LaneKind.ofJson?_of_read?` — what a field is read as strictly it is read as leniently
- `Schema.writeMembers_of_readFields?` — so is a record
- `CodecTable.decode_packing` — packing does not change how well-formed text is read
-/

namespace HostBridge

-- ════════════════════════════════════════════════════════════════════════
-- Members
-- ════════════════════════════════════════════════════════════════════════

namespace Json

theorem Members.get?_cons (p : String × Value) (m : Members) (name : String) :
    get? (p :: m) name = if p.1 = name then some p.2 else get? m name := by
  unfold get?
  by_cases hp : p.1 = name
  · simp [hp]
  · simp [hp]

theorem Members.get?_replaced_of_ne {key name : String} (h : key ≠ name) (m : Members)
    (v : Value) :
    get? (m.map fun p => if p.1 = key then (key, v) else p) name = m.get? name := by
  induction m with
  | nil => rfl
  | cons p m ih =>
    rw [List.map_cons, get?_cons, get?_cons, ih]
    by_cases hp : p.1 = key
    · rw [if_pos hp, if_neg h, if_neg (hp ▸ h)]
    · rw [if_neg hp]

theorem Members.get?_replaced {m : Members} {key : String} (hany : m.any (·.1 = key) = true)
    (v : Value) (name : String) :
    get? (m.map fun p => if p.1 = key then (key, v) else p) name =
      if key = name then some v else m.get? name := by
  induction m with
  | nil => simp at hany
  | cons p m ih =>
    by_cases hname : key = name
    · rw [List.map_cons, get?_cons, if_pos hname]
      by_cases hp : p.1 = key
      · rw [if_pos hp, if_pos hname]
      · have hrest : m.any (·.1 = key) = true := by simpa [hp] using hany
        rw [if_neg hp, if_neg (hname ▸ hp), ih hrest, if_pos hname]
    · rw [if_neg hname, get?_replaced_of_ne hname]

theorem Members.get?_append_singleton {m : Members} {key : String}
    (hnew : m.any (·.1 = key) = false) (v : Value) (name : String) :
    get? (m ++ [(key, v)]) name = if key = name then some v else m.get? name := by
  induction m with
  | nil => exact get?_cons (key, v) [] name
  | cons p m ih =>
    obtain ⟨hp, hrest⟩ : p.1 ≠ key ∧ m.any (·.1 = key) = false := by
      simpa [List.any_cons] using hnew
    rw [List.cons_append, get?_cons, get?_cons, ih hrest]
    by_cases hname : key = name
    · rw [if_neg (hname ▸ hp), if_pos hname, if_pos hname]
    · rw [if_neg hname, if_neg hname]

theorem Members.get?_insert (m : Members) (key name : String) (v : Value) :
    (m.insert key v).get? name = if key = name then some v else m.get? name := by
  unfold insert
  split
  · next hany => exact get?_replaced hany v name
  · next hnew => exact get?_append_singleton (Bool.eq_false_iff.mpr hnew) v name

/-- Of several members with one key the last counts. -/
theorem Members.get?_ofList (pairs : List (String × Value)) (name : String) :
    (ofList pairs).get? name = (pairs.filter (·.1 = name)).getLast?.map (·.2) := by
  induction pairs using List.reverseRecOn with
  | nil => rfl
  | append_singleton pairs p ih =>
    have hconcat : ofList (pairs ++ [p]) = (ofList pairs).insert p.1 p.2 := List.foldl_append
    rw [hconcat, get?_insert, ih, List.filter_append]
    by_cases hp : p.1 = name
    · simp [hp]
    · simp [hp]

/-- A member as both readers have it. -/
def SameMember (p : String × Tree) (q : String × Value) : Prop :=
  p.1 = q.1 ∧ Value.ofTree? p.2 = some q.2

theorem sameMember_of_ofMembers? {members : List (CodePoints × Tree)}
    {keyed : List (String × Tree)} {pairs : List (String × Value)}
    (hkeyed : Source.stringKeys? members = some keyed)
    (hpairs : Value.ofMembers? members = some pairs) : List.Forall₂ SameMember keyed pairs := by
  induction members generalizing keyed pairs with
  | nil =>
    cases hkeyed
    cases hpairs
    exact .nil
  | cons p members ih =>
    obtain ⟨key, tree⟩ := p
    simp only [Source.stringKeys?, Option.bind_eq_some_iff, Option.map_eq_some_iff] at hkeyed
    obtain ⟨name, hname, rest, hrest, rfl⟩ := hkeyed
    simp only [Value.ofMembers?, hname, Option.bind_some, Option.bind_eq_some_iff,
      Option.map_eq_some_iff] at hpairs
    obtain ⟨v, hv, others, hothers, rfl⟩ := hpairs
    exact .cons ⟨rfl, hv⟩ (ih hrest hothers)

theorem sameMember_filter {keyed : List (String × Tree)} {pairs : List (String × Value)}
    (h : List.Forall₂ SameMember keyed pairs) (name : String) :
    List.Forall₂ SameMember (keyed.filter (·.1 = name)) (pairs.filter (·.1 = name)) := by
  induction h with
  | nil => exact .nil
  | @cons p q keyed pairs hpq _ ih =>
    by_cases hp : p.1 = name
    · have hq : q.1 = name := hpq.1 ▸ hp
      simpa [hp, hq] using ⟨hpq, ih⟩
    · have hq : q.1 ≠ name := hpq.1 ▸ hp
      simpa [hp, hq] using ih

theorem Source.exists_of_mem_stringKeys? {members : List (CodePoints × Tree)}
    {keyed : List (String × Tree)} (h : stringKeys? members = some keyed) {p : String × Tree}
    (hp : p ∈ keyed) : ∃ q ∈ members, q.1.toString? = some p.1 ∧ q.2 = p.2 := by
  induction members generalizing keyed with
  | nil =>
    cases h
    cases hp
  | cons q members ih =>
    simp only [stringKeys?, Option.bind_eq_some_iff, Option.map_eq_some_iff] at h
    obtain ⟨name, hname, rest, hrest, rfl⟩ := h
    rcases List.mem_cons.mp hp with rfl | hp
    · exact ⟨q, List.mem_cons_self, hname, rfl⟩
    · obtain ⟨q', hq', hsame⟩ := ih hrest hp
      exact ⟨q', List.mem_cons_of_mem q hq', hsame⟩

/-- The members of an object; nothing else has any. -/
def Tree.members : Tree → List (CodePoints × Tree)
  | object members => members
  | _ => []

/-- Whether a tree is no integer literal greater than 2 ^ 53. -/
def Tree.isShort : Tree → Bool
  | number n => !n.isInteger || n.numeral.digits ≤ 2 ^ 53
  | _ => true

theorem Tree.le_of_isShort {n : Number} (h : (Tree.number n).isShort = true)
    (hn : n.isInteger = true) : n.numeral.digits ≤ 2 ^ 53 := by
  simpa [isShort, hn] using h

/-- A field without a fallback is read from the one member that it has. -/
theorem Source.field?_members_eq_some {α : Type} {members : List (String × Tree)} {index : Nat}
    {name : String} {read : Tree → Option α} {x : α}
    (h : (Source.members members).field? index name read none = some x) :
    ∃ p, members.filter (·.1 = name) = [p] ∧ read p.2 = some x := by
  unfold field? at h
  simp only at h
  split at h
  · cases h
  · next key v hone => exact ⟨(key, v), hone, h⟩
  · cases h

end Json

-- ════════════════════════════════════════════════════════════════════════
-- Fields
-- ════════════════════════════════════════════════════════════════════════

section

variable {keyed : List (String × Json.Tree)} {pairs : List (String × Json.Value)}
  {name : String}

/-- The one member that a field has is found, unless scripts spell another one so. -/
theorem Schema.member?_ofList (h : List.Forall₂ Json.SameMember keyed pairs)
    (hkeys : ∀ p ∈ keyed, p.1 = Text.camelCase name → Text.camelCase name = name)
    {p : String × Json.Tree} (hone : keyed.filter (·.1 = name) = [p]) :
    ∃ v, Json.Value.ofTree? p.2 = some v ∧ member? (.ofList pairs) name = some v := by
  obtain ⟨q, rest, ⟨-, hq⟩, hnil, hpairs⟩ :=
    List.forall₂_cons_left_iff.mp (hone ▸ Json.sameMember_filter h name)
  obtain rfl := List.forall₂_nil_left_iff.mp hnil
  have hlast : Json.Members.get? (.ofList pairs) name = some q.2 := by
    rw [Json.Members.get?_ofList, hpairs]
    rfl
  refine ⟨q.2, hq, ?_⟩
  by_cases hspelled : Text.camelCase name = name
  · rw [member?, hspelled, hlast]
  · have hother : keyed.filter (·.1 = Text.camelCase name) = [] := by
      rw [List.filter_eq_nil_iff]
      exact fun p hp => by simpa using mt (hkeys p hp) hspelled
    have hnone : Json.Members.get? (.ofList pairs) (Text.camelCase name) = none := by
      have hfilter := Json.sameMember_filter h (Text.camelCase name)
      rw [hother, List.forall₂_nil_left_iff] at hfilter
      rw [Json.Members.get?_ofList, hfilter]
      rfl
    rw [member?, hnone, hlast]

end

/-- A number is rounded once by either reader if a 64-bit float holds the integer that is
    written. -/
theorem Json.Num.narrow_toFloat {n : Json.Number} {x : Json.Num}
    (hx : Json.Num.ofNumber? n = some x)
    (hshort : n.isInteger = true → n.numeral.digits ≤ 2 ^ 53) :
    Decimal.narrow x.toFloat = x.toFloat32 := by
  unfold ofNumber? at hx
  simp only [Bool.and_eq_true, decide_eq_true_eq] at hx
  split at hx
  · next hunsigned =>
    obtain ⟨⟨hinteger, -⟩, hlt⟩ := hunsigned
    obtain rfl := Option.some.inj hx
    have hn : (UInt64.ofNat n.numeral.digits).toNat = n.numeral.digits :=
      UInt64.toNat_ofNat_of_lt' hlt
    refine Decimal.narrow_ofInt (i := ((UInt64.ofNat n.numeral.digits).toNat : Int)) ?_
    rw [Int.natAbs_natCast, hn]
    exact hshort hinteger
  · split at hx
    · next hnegative =>
      obtain ⟨⟨⟨hinteger, -⟩, -⟩, hle⟩ := hnegative
      obtain rfl := Option.some.inj hx
      have hn : (Int64.ofInt (-(n.numeral.digits : Int))).toInt = -(n.numeral.digits : Int) :=
        Int64.toInt_ofInt_of_le (by omega) (by omega)
      refine Decimal.narrow_ofInt (i := (Int64.ofInt (-(n.numeral.digits : Int))).toInt) ?_
      rw [hn, Int.natAbs_neg, Int.natAbs_natCast]
      exact hshort hinteger
    · split at hx
      · cases hx
      · obtain rfl := Option.some.inj hx
        rfl

namespace LaneKind

theorem clampInt32_ofInt {n : Int} (hlow : -0x80000000 ≤ n) (hhigh : n ≤ 0x7FFFFFFF) :
    clampInt32 (Int64.ofInt n) = Int32.ofInt n := by
  have hn : (Int64.ofInt n).toInt = n := Int64.toInt_ofInt_of_le (by omega) (by omega)
  rw [clampInt32, hn, Int.min_eq_right hhigh, Int.max_eq_right hlow]

/-- What a field is read as strictly it is read as leniently, integers up to 2 ^ 53 included. -/
theorem ofJson?_of_read? {k : LaneKind} {tree : Json.Tree} {x : k.Carrier} {v : Json.Value}
    (hread : (FieldType.lane k).read? tree = some x) (hv : Json.Value.ofTree? tree = some v)
    (hshort : k = .float32 → tree.isShort = true) : k.ofJson? v = some x := by
  cases tree with
  | bool b =>
    obtain rfl := Option.some.inj hv
    cases k with
    | bool => exact hread
    | int32 | float32 | float64 => cases hread
  | number n =>
    obtain ⟨y, hy, rfl⟩ := Option.map_eq_some_iff.mp hv
    cases k with
    | bool => cases hread
    | int32 =>
      obtain ⟨i, hi, rfl⟩ := Option.map_eq_some_iff.mp hread
      rw [Json.Tree.readInt?, Json.Tree.num?, hy, Option.bind_some,
        Option.bind_eq_some_iff] at hi
      obtain ⟨j, hj, hrange⟩ := hi
      obtain ⟨⟨hlow, hhigh⟩, hij⟩ := Option.ite_none_right_eq_some.mp hrange
      obtain rfl := Option.some.inj hij
      have hword : Json.Value.toInt64? (.number y) = some (Int64.ofInt j) := by
        rw [Json.Value.toInt64?, Json.Num.toInt64?, hj, Option.bind_some, if_pos (by omega)]
      rw [ofJson?, hword, ← clampInt32_ofInt hlow hhigh]
    | float32 =>
      have hx : (Json.Num.ofNumber? n).map Json.Num.toFloat32 = some x := hread
      rw [hy, Option.map_some] at hx
      rw [← hx, ← Json.Num.narrow_toFloat hy (Json.Tree.le_of_isShort (hshort rfl))]
      rfl
    | float64 =>
      have hx : (Json.Num.ofNumber? n).map Json.Num.toFloat = some x := hread
      rw [hy] at hx
      exact hx
  | null | string | array | object => cases k <;> cases hread

end LaneKind

-- ════════════════════════════════════════════════════════════════════════
-- Records
-- ════════════════════════════════════════════════════════════════════════

theorem Record.writeJson?_zero (name : String) (k : LaneKind) {fs : List Field}
    (r : Record (⟨name, .lane k⟩ :: fs)) (v : Json.Value) :
    writeJson? (⟨name, .lane k⟩ :: fs) r 0 v = (k.ofJson? v).map fun x => (x, r.2) := rfl

theorem Record.writeJson?_succ (f : Field) {fs : List Field} (x : f.type.Carrier)
    (rest : Record fs) (index : Nat) (v : Json.Value) :
    writeJson? (f :: fs) (x, rest) (index + 1) v =
      (writeJson? fs rest index v).map fun rest => (x, rest) := by
  obtain ⟨name, type⟩ := f
  cases type <;> rfl

namespace Schema

/-- No key of an object is how scripts spell a field, unless the field is declared so. -/
def PlainKeys (fs : List Field) (t : Json.Tree) : Prop :=
  ∀ p ∈ t.members, ∀ f ∈ fs,
    p.1.toString? = some (Text.camelCase f.name) → Text.camelCase f.name = f.name

/-- No member of an object that belongs to a 32-bit float field is an integer literal greater
    than 2 ^ 53. -/
def ShortIntegers (fs : List Field) (t : Json.Tree) : Prop :=
  ∀ p ∈ t.members, ∀ f ∈ fs,
    p.1.toString? = some f.name → f.type = .lane .float32 → p.2.isShort = true

instance (fs : List Field) (t : Json.Tree) : Decidable (PlainKeys fs t) :=
  inferInstanceAs (Decidable (∀ p ∈ t.members, ∀ f ∈ fs, _ → _))

instance (fs : List Field) (t : Json.Tree) : Decidable (ShortIntegers fs t) :=
  inferInstanceAs (Decidable (∀ p ∈ t.members, ∀ f ∈ fs, _ → _))

/-- Storing behind the first field leaves it alone. -/
theorem writeMembers_succ (name : String) {f : Field} {fs : List Field}
    (default : Record (f :: fs)) (default' : Record fs) (m : Json.Members) (x : f.type.Carrier)
    (rest : Record fs) (index : Nat) (l : List Field) :
    writeMembers ⟨name, f :: fs, default⟩ m (x, rest) (index + 1) l =
      (x, writeMembers ⟨name, fs, default'⟩ m rest index l) := by
  induction l generalizing rest index with
  | nil => rfl
  | cons g l ih =>
    let stored : Option (Record fs) :=
      (member? m g.name).bind (Record.writeJson? fs rest index)
    have hstored : ((member? m g.name).bind
        (Record.writeJson? (f :: fs) (x, rest) (index + 1))).getD (x, rest) =
        (x, stored.getD rest) := by
      simp only [stored]
      cases member? m g.name with
      | none => rfl
      | some v =>
        rw [Option.bind_some, Option.bind_some, Record.writeJson?_succ]
        cases Record.writeJson? fs rest index v <;> rfl
    have hstep := congrArg (writeMembers ⟨name, f :: fs, default⟩ m · (index + 1 + 1) l) hstored
    exact hstep.trans (ih (stored.getD rest) (index + 1))

/-- A record that is read strictly from the members of an object is stored by the lenient reader,
    whatever was there before. -/
theorem writeMembers_of_readFields? (name : String) {fs : List Field} (default : Record fs)
    {keyed : List (String × Json.Tree)} {pairs : List (String × Json.Value)}
    (hlanes : ∀ f ∈ fs, f.type.laneKind?.isSome)
    (hsame : List.Forall₂ Json.SameMember keyed pairs)
    (hkeys : ∀ f ∈ fs, ∀ p ∈ keyed, p.1 = Text.camelCase f.name → Text.camelCase f.name = f.name)
    (hshort : ∀ f ∈ fs, ∀ p ∈ keyed, p.1 = f.name → f.type = .lane .float32 →
      p.2.isShort = true)
    {x : Record fs} {index : Nat} (hread : Record.readFields? (.members keyed) fs index = some x)
    (r : Record fs) : writeMembers ⟨name, fs, default⟩ (.ofList pairs) r 0 fs = x := by
  induction fs generalizing index with
  | nil => rfl
  | cons f fs ih =>
    obtain ⟨first, hfirst, hread⟩ := Option.bind_eq_some_iff.mp hread
    obtain ⟨rest, hrest, rfl⟩ := Option.map_eq_some_iff.mp hread
    obtain ⟨p, hone, hp⟩ := Json.Source.field?_members_eq_some hfirst
    have hmem : f ∈ f :: fs := List.mem_cons_self
    obtain ⟨hpmem, hpname⟩ : p ∈ keyed ∧ p.1 = f.name := by
      have hpone : p ∈ keyed.filter (·.1 = f.name) := hone ▸ List.mem_singleton_self p
      simpa using hpone
    obtain ⟨v, hv, hmember⟩ := member?_ofList hsame (hkeys f hmem) hone
    have hstored : ((member? (.ofList pairs) f.name).bind
        (Record.writeJson? (f :: fs) r 0)).getD r = (first, r.2) := by
      rw [hmember, Option.bind_some]
      obtain ⟨fname, type⟩ := f
      cases type with
      | lane k =>
        have hlane := LaneKind.ofJson?_of_read? hp hv fun hk =>
          hshort _ hmem p hpmem hpname (congrArg FieldType.lane hk)
        rw [Record.writeJson?_zero, hlane]
        rfl
      | uint32 | strings => exact absurd (hlanes _ hmem) Bool.false_ne_true
    have hstep := congrArg (writeMembers ⟨name, f :: fs, default⟩ (.ofList pairs) · 1 fs) hstored
    have hbehind := writeMembers_succ name default rest (.ofList pairs) first r.2 0 fs
    have hrecord := ih rest (fun g hg => hlanes g (List.mem_cons_of_mem f hg))
      (fun g hg => hkeys g (List.mem_cons_of_mem f hg))
      (fun g hg => hshort g (List.mem_cons_of_mem f hg)) hrest r.2
    exact hstep.trans (hbehind.trans (congrArg (Prod.mk first) hrecord))

/-- The members of an object that is read strictly are stored as the same record. -/
theorem ofMembers_of_read? {s : Schema} {tree : Json.Tree} {m : Json.Members} {x : s.Value}
    (hlanes : ∀ f ∈ s.fields, f.type.laneKind?.isSome)
    (hread : Record.read? s.fields tree = some x)
    (hm : (Json.Value.ofTree? tree).bind Json.Value.members? = some m)
    (hkeys : PlainKeys s.fields tree) (hshort : ShortIntegers s.fields tree) :
    s.ofMembers m = x := by
  cases tree with
  | object members =>
    obtain ⟨v, hv, hvm⟩ := Option.bind_eq_some_iff.mp hm
    obtain ⟨pairs, hpairs, rfl⟩ := Option.map_eq_some_iff.mp hv
    obtain rfl := Option.some.inj hvm
    obtain ⟨source, hsource, hfields⟩ := Option.bind_eq_some_iff.mp hread
    obtain ⟨keyed, hkeyed, rfl⟩ := Option.map_eq_some_iff.mp hsource
    refine writeMembers_of_readFields? s.name s.default hlanes
      (Json.sameMember_of_ofMembers? hkeyed hpairs) (fun f hf p hp hname => ?_)
      (fun f hf p hp hname => ?_) hfields s.default
    · obtain ⟨q, hq, hqname, -⟩ := Json.Source.exists_of_mem_stringKeys? hkeyed hp
      exact hkeys q hq f hf (hqname.trans (congrArg some hname))
    · obtain ⟨q, hq, hqname, hqtree⟩ := Json.Source.exists_of_mem_stringKeys? hkeyed hp
      exact hqtree ▸ hshort q hq f hf (hqname.trans (congrArg some hname))
  | array items =>
    obtain ⟨v, hv, hvm⟩ := Option.bind_eq_some_iff.mp hm
    obtain ⟨values, -, rfl⟩ := Option.map_eq_some_iff.mp hv
    cases hvm
  | null | bool | number | string => cases hread

end Schema

-- ════════════════════════════════════════════════════════════════════════
-- Codecs
-- ════════════════════════════════════════════════════════════════════════

namespace CodecTable

variable {τ : Type} [DecidableEq τ] {schema : τ → Schema}

/-- A type that has been registered as packed has the codec that packs it. -/
theorem codec?_registerPacked {table packed : CodecTable τ schema} {t : τ} {warn : Bool}
    (h : (table.registerPacked t warn).value = (true, packed)) :
    packed.codec? t = some (Codec.packing (schema t)) := by
  rw [value_registerPacked] at h
  split at h
  · cases h
  · cases h
    exact codec?_put_self table _

/-- Packing does not change how well-formed text is read. A text that the strict reader accepts
    for a type all of whose fields are numeric is read as the same value with the codec that packs
    the type and without any codec, unless an object has a key that only scripts use for a field,
    or an integer greater than 2 ^ 53 for a 32-bit float. -/
theorem decode_packing {packed bare : CodecTable τ schema} {t : τ}
    (hlanes : (schema t).laneFields ≠ [])
    (hpacked : packed.codec? t = some (Codec.packing (schema t))) (hbare : bare.codec? t = none)
    {slot : Slot} {text : String} (hslot : slot = .string text ∨ slot = .json text)
    {tree : Json.Tree} {x : (schema t).Value} (htree : Json.Tree.parse? text = some tree)
    (hread : Record.read? (schema t).fields tree = some x)
    (hkeys : Schema.PlainKeys (schema t).fields tree)
    (hshort : Schema.ShortIntegers (schema t).fields tree) :
    packed.decode t slot = bare.decode t slot ∧ bare.decode t slot = x := by
  have hfields : ∀ f ∈ (schema t).fields, f.type.laneKind?.isSome := by
    unfold Schema.laneFields at hlanes
    split at hlanes
    · next hall => exact List.all_eq_true.mp hall
    · exact absurd rfl hlanes
  have htext : slot.text? = some text := by
    rcases hslot with rfl | rfl <;> rfl
  have hstrict : slot.tree?.bind (Record.read? (schema t).fields) = some x := by
    rw [Slot.tree?, htext, Option.bind_some, htree, Option.bind_some, hread]
  have hfallback : bare.decode t slot = x := by
    rw [decode, decode?, hbare, Option.bind_none, hstrict, Option.getD_some]
  have hunpack : (schema t).unpackSlot? slot = none := by
    rcases hslot with rfl | rfl <;> rfl
  have hdecode : packed.decode? t slot = slot.members?.map (schema t).ofMembers := by
    rw [decode?_eq, unpacker?_of_codec? hpacked, converter?_of_codec? hpacked]
    change ((schema t).unpackSlot? slot).or _ = _
    rw [hunpack, Option.none_or]
    rfl
  have hlenient : packed.decode t slot = x := by
    rw [decode, hdecode]
    cases hmembers : slot.members? with
    | none => rw [Option.map_none, hstrict, Option.getD_some]
    | some m =>
      rw [Slot.members?, htext, Option.bind_some, Json.Members.parse?, Json.Value.parse?, htree,
        Option.bind_some] at hmembers
      obtain ⟨v, hdepth, hm⟩ := Option.bind_eq_some_iff.mp hmembers
      obtain ⟨-, hv⟩ := Option.ite_none_right_eq_some.mp hdepth
      have hvalue : (Json.Value.ofTree? tree).bind Json.Value.members? = some m := by
        rw [hv, Option.bind_some, hm]
      exact Schema.ofMembers_of_read? hfields hread hvalue hkeys hshort
  exact ⟨hlenient.trans hfallback.symm, hfallback⟩

/-- An escaped key, unknown keys that repeat, keys in another order, and an integer that a 32-bit
    float has to round. -/
theorem decode_packing_stats :
    let t : HostType Playground := .own .stats
    let bare : Codecs Playground := {}
    let packed : Codecs Playground := (bare.registerPacked t true).value.2
    let text := "\x7b\"\\u0073peed\": 16777217, \"more\": [\x7b\x7d], \"alive\": true, " ++
      "\"more\": null, \"health\": -3\x7d"
    let x : t.schema.Value := ((-3 : Int32), (16777217 : UInt64).toFloat32, true, ())
    packed.decode t (.json text) = bare.decode t (.json text) ∧ bare.decode t (.json text) = x := by
  intro t bare packed text x
  let n (digits : Nat) (negative : Bool) : Json.Tree :=
    .number ⟨⟨negative, digits, 0⟩, true⟩
  let key (name : String) : CodePoints := .ofString name
  let tree : Json.Tree := .object [(key "speed", n 16777217 false),
    (key "more", .array [.object []]), (key "alive", .bool true), (key "more", .null),
    (key "health", n 3 true)]
  have htree : Json.Tree.parse? text = some tree :=
    Json.Tree.parse?_eq_some_iff.mpr (by decide)
  have hread : Record.read? t.schema.fields tree = some x := by rfl
  have hregistered : (bare.registerPacked t true).value = (true, packed) := by rfl
  exact decode_packing (by decide) (codec?_registerPacked hregistered) rfl (Or.inr rfl) htree
    hread (by decide) (by decide)

end CodecTable

end HostBridge
