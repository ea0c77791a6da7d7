import HostBridge.Codec.Table
import HostBridge.Host.Conversion
import HostBridge.Playground.Basic
import HostBridge.Proofs.JsonWriting
import HostBridge.Slot.Members

/-!
# Records in object notation

A struct value without a codec crosses the boundary as object notation. If the fields of its
type have names of their own and none is a float, then what is written for a value is read as
the value: integers keep their digits, and every string comes through its escapes.

## Main definitions

- `FieldType.Exact`, `Schema.Exact` — types whose values are written without rounding
- `Record.read?_document` — a record is read from what is written for it
- `CodecTable.decode_encode` — a value comes back from its slot
-/

namespace HostBridge

-- ════════════════════════════════════════════════════════════════════════
-- Integers
-- ════════════════════════════════════════════════════════════════════════

namespace Json

/-- An integer in the range of the 64-bit words is read as itself. -/
theorem Num.toInt?_ofInt {n : Int} (hlow : -0x8000000000000000 ≤ n)
    (hhigh : n < 0x10000000000000000) : (Num.ofNumber? (.ofInt n)).bind Num.toInt? = some n := by
  unfold Num.ofNumber? Number.ofInt
  by_cases hn : n < 0
  · have hpos : 0 < n.natAbs := by omega
    have hle : n.natAbs ≤ 0x8000000000000000 := by omega
    have habs : -(n.natAbs : Int) = n := by omega
    simp only [hn, decide_true, Bool.not_true, Bool.and_false, Bool.false_and, Bool.false_eq_true,
      if_false, Bool.and_true, hpos, hle, if_true, Option.bind_some, habs, Num.toInt?]
    rw [Int64.toInt_ofInt_of_le]
    · omega
    · omega
  · have hlt : n.natAbs < 0x10000000000000000 := by omega
    simp only [hn, decide_false, Bool.not_false, Bool.and_true, Bool.true_and, hlt, decide_true,
      if_true, Option.bind_some, Num.toInt?]
    rw [UInt64.toNat_ofNat_of_lt']
    · congr
      omega
    · exact hlt

theorem Tree.readInt?_ofInt {low high n : Int} (hlow : low ≤ n) (hhigh : n ≤ high)
    (hmin : -0x8000000000000000 ≤ low) (hmax : high < 0x10000000000000000) :
    (Tree.number (.ofInt n)).readInt? low high = some n := by
  rw [Tree.readInt?, Tree.num?,
    Num.toInt?_ofInt (Int.le_trans hmin hlow) (Int.lt_of_le_of_lt hhigh hmax), Option.bind_some,
    if_pos ⟨hlow, hhigh⟩]

end Json

-- ════════════════════════════════════════════════════════════════════════
-- Fields
-- ════════════════════════════════════════════════════════════════════════

namespace FieldType

/-- Field types that are written without rounding: all but the floats. -/
def Exact : FieldType → Prop
  | lane .float32 => False
  | lane .float64 => False
  | _ => True

instance (t : FieldType) : Decidable t.Exact :=
  match t with
  | lane .float32 | lane .float64 => .isFalse id
  | lane .bool | lane .int32 | uint32 | strings => .isTrue trivial

theorem plain_strings (l : List String) :
    Json.Document.PlainItems (l.map fun s => .string (CodePoints.ofString s)) := by
  induction l with
  | nil => trivial
  | cons s l ih => exact ⟨⟨s, rfl⟩, ih⟩

theorem mapM_readString?_strings (l : List String) :
    (Json.Document.itemTrees (l.map fun s => .string (CodePoints.ofString s))).mapM
      Json.Tree.readString? = some l := by
  induction l with
  | nil => rfl
  | cons s l ih =>
    rw [List.map_cons, Json.Document.itemTrees, Json.Document.tree, List.mapM_cons,
      Json.Tree.readString?, CodePoints.toString?_ofString, ih]
    rfl

theorem plain_document {t : FieldType} (h : t.Exact) (x : t.Carrier) : (t.document x).Plain := by
  match t with
  | lane .bool => trivial
  | lane .int32 => exact ⟨_, rfl⟩
  | uint32 => exact ⟨(UInt32.toNat x : Int), rfl⟩
  | strings => exact plain_strings x

/-- A value of a field is read from what is written for it. -/
theorem read?_document {t : FieldType} (h : t.Exact) (x : t.Carrier) :
    t.read? (t.document x).tree = some x := by
  match t with
  | lane .bool => rfl
  | lane .int32 =>
    have hlow : (-0x80000000 : Int) ≤ Int32.toInt x := Int32.le_toInt x
    have hhigh : Int32.toInt x < 0x80000000 := Int32.toInt_lt x
    have hdocument : (lane .int32).document x = .number (toString (Int32.toInt x)) := rfl
    rw [hdocument, Json.Document.tree, Json.Document.numberOf_toString, read?,
      Json.Tree.readInt?_ofInt hlow (by omega) (by decide) (by decide), Option.map_some,
      Int32.ofInt_toInt]
  | uint32 =>
    have hlow : (0 : Int) ≤ (UInt32.toNat x : Int) := Int.natCast_nonneg _
    have hhigh : UInt32.toNat x < 0x100000000 := UInt32.toNat_lt x
    have hdocument : uint32.document x = .number (toString (UInt32.toNat x : Int)) := rfl
    rw [hdocument, Json.Document.tree, Json.Document.numberOf_toString, read?,
      Json.Tree.readInt?_ofInt hlow (by omega) (by decide) (by decide), Option.map_some,
      Int.toNat_natCast, UInt32.ofNat_toNat]
  | strings => exact mapM_readString?_strings x

end FieldType

-- ════════════════════════════════════════════════════════════════════════
-- Records
-- ════════════════════════════════════════════════════════════════════════

namespace Record

/-- The members that are read where a record is written. -/
def memberTrees : (fs : List Field) → Record fs → List (String × Json.Tree)
  | [], _ => []
  | f :: fs, (x, rest) => (f.name, (f.type.document x).tree) :: memberTrees fs rest

theorem plain_memberDocuments {fs : List Field} (h : ∀ f ∈ fs, f.type.Exact) (r : Record fs) :
    Json.Document.PlainMembers (memberDocuments fs r) := by
  induction fs with
  | nil => trivial
  | cons f fs ih =>
    exact ⟨⟨f.name, rfl⟩, FieldType.plain_document (h f List.mem_cons_self) r.1,
      ih (fun g hg => h g (List.mem_cons_of_mem f hg)) r.2⟩

theorem stringKeys?_memberDocuments {fs : List Field} (r : Record fs) :
    Json.Source.stringKeys? (Json.Document.memberTrees (memberDocuments fs r)) =
      some (memberTrees fs r) := by
  induction fs with
  | nil => rfl
  | cons f fs ih =>
    obtain ⟨x, rest⟩ := r
    rw [memberDocuments, Json.Document.memberTrees, Json.Source.stringKeys?,
      CodePoints.toString?_ofString, Option.bind_some, ih rest]
    rfl

theorem filter_memberTrees_of_notMem {fs : List Field} {name : String}
    (h : name ∉ fs.map Field.name) (r : Record fs) :
    (memberTrees fs r).filter (·.1 = name) = [] := by
  induction fs with
  | nil => rfl
  | cons f fs ih =>
    obtain ⟨x, rest⟩ := r
    obtain ⟨hne, hrest⟩ := not_or.mp (mt List.mem_cons.mpr h)
    rw [memberTrees, List.filter_cons_of_neg (by simpa using Ne.symm hne)]
    exact ih hrest rest

/-- The fields are found by their names, whatever stands before them. -/
theorem readFields?_memberTrees {fs : List Field} (hnames : (fs.map Field.name).Nodup)
    (hexact : ∀ f ∈ fs, f.type.Exact) (r : Record fs) {front : List (String × Json.Tree)}
    (hfront : ∀ f ∈ fs, front.filter (·.1 = f.name) = []) (index : Nat) :
    readFields? (.members (front ++ memberTrees fs r)) fs index = some r := by
  induction fs generalizing front index with
  | nil => rfl
  | cons f fs ih =>
    obtain ⟨x, rest⟩ := r
    obtain ⟨hname, hrest⟩ := List.nodup_cons.mp hnames
    let tree : Json.Tree := (f.type.document x).tree
    have hfound : (front ++ memberTrees (f :: fs) (x, rest)).filter (·.1 = f.name) =
        [(f.name, tree)] := by
      rw [List.filter_append, hfront f List.mem_cons_self, memberTrees, List.nil_append,
        List.filter_cons_of_pos (by simp), filter_memberTrees_of_notMem hname]
    have hfield : Json.Source.field? (.members (front ++ memberTrees (f :: fs) (x, rest))) index
        f.name f.type.read? none = some x := by
      rw [Json.Source.field?, hfound]
      exact FieldType.read?_document (hexact f List.mem_cons_self) x
    have hother : front ++ memberTrees (f :: fs) (x, rest) =
        (front ++ [(f.name, tree)]) ++ memberTrees fs rest := by
      rw [List.append_assoc]
      rfl
    rw [readFields?, hfield, Option.bind_some, hother, ih hrest]
    · rfl
    · exact fun g hg => hexact g (List.mem_cons_of_mem f hg)
    · intro g hg
      have hne : f.name ≠ g.name := fun heq => hname (heq ▸ List.mem_map_of_mem hg)
      rw [List.filter_append, hfront g (List.mem_cons_of_mem f hg), List.nil_append,
        List.filter_cons_of_neg (by simpa using hne)]
      rfl

/-- A record is read from what is written for it. -/
theorem read?_document {fs : List Field} (hnames : (fs.map Field.name).Nodup)
    (hexact : ∀ f ∈ fs, f.type.Exact) (r : Record fs) :
    (Json.Tree.parse? (document fs r).write).bind (read? fs) = some r := by
  have hplain : (document fs r).Plain := plain_memberDocuments hexact r
  rw [Json.Document.parse?_write hplain, Option.bind_some, read?, document, Json.Document.tree,
    Json.Source.ofTree?, stringKeys?_memberDocuments, Option.map_some, Option.bind_some]
  have hfront : ∀ f ∈ fs, ([] : List (String × Json.Tree)).filter (·.1 = f.name) = [] :=
    fun _ _ => rfl
  exact readFields?_memberTrees hnames hexact r hfront 0

end Record

/-- Struct types whose fields have names of their own and are written without rounding. -/
structure Schema.Exact (s : Schema) : Prop where
  names : (s.fields.map Field.name).Nodup
  types : ∀ f ∈ s.fields, f.type.Exact

/-- A value of a type without a codec comes back from the slot that it crosses in, and from any
    text that reads the same. -/
theorem CodecTable.decode_encode {τ : Type} [DecidableEq τ] {schema : τ → Schema}
    {table : CodecTable τ schema} {t : τ} (hnone : table.codec? t = none)
    (hexact : (schema t).Exact) (x : (schema t).Value) :
    ∃ text, table.encode t x = .json text ∧ table.decode t (.json text) = x ∧
      table.decode t (.string text) = x := by
  let text : String := (Record.document (schema t).fields x).write
  have hread : (Json.Tree.parse? text).bind (Record.read? (schema t).fields) = some x :=
    Record.read?_document hexact.names hexact.types x
  have hencode : table.encode? t x = none := by
    rw [encode?, hnone, Option.bind_none]
  have hdecode (slot : Slot) : table.decode? t slot = none := by
    rw [decode?, hnone, Option.bind_none]
  refine ⟨text, ?_, ?_, ?_⟩
  · rw [encode, hencode]
    rfl
  · rw [decode, hdecode]
    exact congrArg (·.getD (schema t).default) hread
  · rw [decode, hdecode]
    exact congrArg (·.getD (schema t).default) hread

/-- Among the types of the playground are one with a list of strings and a count, and two of
    integers. Without a codec their values come back from the slot that they cross in, and from
    any text that reads the same. -/
theorem Playground.fallback_roundtrip {t : Playground}
    (ht : t = .loadout ∨ t = .cell ∨ t = .single) {codecs : Codecs Playground}
    (hnone : codecs.codec? (.own t) = none) (x : (HostType.own t).schema.Value) :
    ∃ text, codecs.encode (.own t) x = .json text ∧ codecs.decode (.own t) (.json text) = x ∧
      codecs.decode (.own t) (.string text) = x := by
  refine CodecTable.decode_encode hnone ⟨?_, ?_⟩ x
  · rcases ht with rfl | rfl | rfl <;> decide
  · rcases ht with rfl | rfl | rfl <;> decide

/-- Quotes, backslashes, control characters, characters beyond sixteen bits and the empty string
    come back, and so does the greatest count. -/
theorem Playground.fallback_roundtrip_escapes :
    let t : HostType Playground := .own .loadout
    let codecs : Codecs Playground :=
      ({} : Codecs Playground).registerConverter (.own .cell) fun _ => (3, 4, ())
    let x : t.schema.Value :=
      (["\"\\\"", "", "\x00\x1f\x7f\n\t", "größe 😀", "\\u0041/"], (0xFFFFFFFF : UInt32), ())
    codecs.codec? t = none ∧
      ∃ text, codecs.encode t x = .json text ∧ codecs.decode t (.json text) = x ∧
        codecs.decode t (.string text) = x := by
  intro t codecs x
  have hnone : codecs.codec? t = none := by decide
  exact ⟨hnone, fallback_roundtrip (Or.inl rfl) hnone x⟩

end HostBridge
