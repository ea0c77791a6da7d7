import HostBridge.Proofs.History
import HostBridge.Proofs.NotationCalls

/-!
# Slots that come back from a script

A host gives a script a value and takes it back. On the way back a value is known by its shape
only: an object with a handle becomes a handle, one with three numbers under the names of lanes
becomes a vector, and only what is left becomes object notation. So object notation comes back if
its top level has no such shape, and what is below the top level stays data, whatever its shape.

## Main definitions

- `Json.Tree.PlainTop` — trees that have no such shape at their top level
- `Slot.Held` — slots that a script holds without loss
- `Slot.ComesBackAs` — what comes back of them
- `Script.toSlot_fromSlot` — a host gets back what it gives to a script
-/

namespace HostBridge

open Json (Tree)

-- ════════════════════════════════════════════════════════════════════════
-- Shapes
-- ════════════════════════════════════════════════════════════════════════

namespace Json.Tree

/-- Whether a tree is a number. -/
def isNumber : Tree → Bool
  | number _ => true
  | _ => false

/-- Whether the members that count have numbers under some keys. -/
def hasNumbers (members : List (CodePoints × Tree)) (keys : List String) : Bool :=
  keys.all fun key => (last? members (CodePoints.ofString key)).any isNumber

/-- Trees that stand for nothing but themselves: arrays, and objects that are neither handles nor
    vectors. What is below the top does not matter. -/
def PlainTop : Tree → Prop
  | array _ => True
  | object members =>
    last? members (CodePoints.ofString "__handle") = none ∧
      hasNumbers members ["x", "y", "z"] = false ∧ hasNumbers members ["r", "g", "b"] = false
  | _ => False

end Json.Tree

namespace Scope

variable (s : Scope) (members : List (CodePoints × Tree))

/-- A property of an object that has been read is its last member with the key. -/
theorem property_ofTree {key : CodePoints} (hroot : NotShared key) :
    s.property key (.ofTree (.object members)) = match Tree.last? members key with
      | some t => .value (.ofTree t)
      | none => .missing :=
  (s.property_object _ hroot).trans (ScriptValue.own_ofMembers members key)

/-- There is a number under a key if the last member with the key is one. -/
theorem isSome_numberAt? {key : String} (hroot : NotShared (CodePoints.ofString key)) :
    (s.numberAt? (.ofTree (.object members)) key).isSome =
      (Tree.last? members (CodePoints.ofString key)).any Tree.isNumber := by
  rw [numberAt?, property_ofTree s members hroot]
  cases Tree.last? members (CodePoints.ofString key) with
  | none => rfl
  | some t => cases t <;> rfl

/-- Lanes that are not all numbers are no vector. -/
theorem lanes?_eq_none {keys : List String}
    (hroot : ∀ key ∈ keys, NotShared (CodePoints.ofString key))
    (h : Tree.hasNumbers members keys = false) :
    s.lanes? (.ofTree (.object members)) keys = none := by
  induction keys with
  | nil => nomatch h
  | cons key keys ih =>
    have hnumber := s.isSome_numberAt? members (hroot key List.mem_cons_self)
    rw [lanes?, List.mapM_cons]
    cases hlane : s.numberAt? (.ofTree (.object members)) key with
    | none => rfl
    | some n =>
      rw [Tree.hasNumbers, List.all_cons, ← hnumber, hlane, Option.isSome_some, Bool.true_and] at h
      have hrest := ih (fun k hk => hroot k (List.mem_cons_of_mem key hk)) h
      rw [lanes?] at hrest
      rw [hrest]
      rfl

/-- An object that has been read has no handle without a member for it. -/
theorem has_handle_eq_false
    (h : Tree.last? members (CodePoints.ofString "__handle") = none) :
    s.has (.ofTree (.object members)) "__handle" = false := by
  have hroot : NotShared (CodePoints.ofString "__handle") := rfl
  rw [has, property_ofTree s members hroot, h]
  rfl

/-- It is no vector without numbers for all lanes. -/
theorem vector?_eq_none (hposition : Tree.hasNumbers members ["x", "y", "z"] = false)
    (hcolor : Tree.hasNumbers members ["r", "g", "b"] = false) :
    s.vector? (.ofTree (.object members)) = none := by
  have hlanes (a b c : String) (ha : NotShared (CodePoints.ofString a))
      (hb : NotShared (CodePoints.ofString b)) (hc : NotShared (CodePoints.ofString c))
      (h : Tree.hasNumbers members [a, b, c] = false) :
      s.lanes? (.ofTree (.object members)) [a, b, c] = none :=
    s.lanes?_eq_none members (List.forall_mem_cons.mpr ⟨ha, List.forall_mem_cons.mpr ⟨hb,
      List.forall_mem_singleton.mpr hc⟩⟩) h
  rw [vector?, hlanes "x" "y" "z" rfl rfl rfl hposition, hlanes "r" "g" "b" rfl rfl rfl hcolor]

end Scope

namespace Script

variable {ε : Type} [Embedding ε] {inner : Inner ε} {s : Script ε} {limit : ℕ∞}

/-- The host gets object notation back for a tree that has no other shape. -/
theorem returns_toSlot (h : s.Notates inner limit) {t : Tree} (hplain : t.PlainTop)
    (hdepth : t.depth ≤ limit) :
    s.Returns (toSlot inner (.ofTree t)) (.json (ScriptValue.ofTree t).document.write) := by
  have hwritten := returns_stringify h hdepth
  match t with
  | .array items => exact hwritten.bind rfl
  | .object members =>
    obtain ⟨hhandle, hposition, hcolor⟩ := hplain
    rw [toSlot_of_plainObject rfl]
    refine (Returns.get s).bind ?_
    simp only [s.scope.has_handle_eq_false members hhandle,
      s.scope.vector?_eq_none members hposition hcolor]
    exact hwritten.bind rfl

end Script

-- ════════════════════════════════════════════════════════════════════════
-- Slots
-- ════════════════════════════════════════════════════════════════════════

namespace Slot

/-- Slots that a script holds without loss, given how deep its engine reads and writes object
    notation. -/
def Held (limit : ℕ∞) : Slot → Prop
  | null | bool _ | int32 _ | string _ | object .. => True
  | int64 n => -0x80000000 ≤ n.toInt ∧ n.toInt ≤ 0x7FFFFFFF
  | json text => ∃ t, Tree.parse? text = some t ∧ t.PlainTop ∧ t.Portable ∧ t.depth ≤ limit
  | float32 _ | double _ | vector3 _ | vector4 _ => False

/-- What comes back of a slot: the integer that it holds in 32 bits, the handle without the name of
    its type, a text that denotes the same, or the slot itself. -/
def ComesBackAs : Slot → Slot → Prop
  | int64 n, back => ∃ m : Int32, back = int32 m ∧ m.toInt = n.toInt
  | object h _, back => back = object h none
  | json text, back => ∃ written t t', back = json written ∧ Tree.parse? text = some t ∧
      Tree.parse? written = some t' ∧ t'.meaning = t.meaning
  | slot, back => back = slot

end Slot

namespace Script

variable {ε : Type} [Embedding ε] {inner : Inner ε} {s : Script ε} {limit : ℕ∞}

/-- A handle is what its number stands for, with or without the name of a type beside it. -/
theorem returns_toSlot_handle (s : Script ε) (inner : Inner ε) (h : Handle)
    (hint : Option String) :
    s.Returns (toSlot inner (.ofSlot (.object h hint))) (.object h none) := by
  let v : ScriptValue := .ofSlot (.object h hint)
  have hproperty : s.scope.property (CodePoints.ofString "__handle") v =
      .value (.ofNat h.number) :=
    s.scope.property_object _ rfl
  have hhas : s.scope.has v "__handle" = true := by
    rw [Scope.has, hproperty]
    rfl
  have hnumber : (ScriptNumber.ofNat h.number).toInt32.toInt = h.number :=
    ScriptNumber.toInt_ofNat (Nat.le_of_lt_succ h.bounded)
  have hlookup : s.scope.numberAt? v "__handle" = some (.ofNat h.number) := by
    rw [Scope.numberAt?, hproperty]
    rfl
  have hhandle : s.scope.handle? v = some h := by
    change (s.scope.numberAt? v "__handle").bind (fun n => Handle.ofInt? n.toInt32.toInt) = _
    rw [hlookup, Option.bind_some, hnumber, Handle.ofInt?_number]
  change s.Returns (toSlot inner v) _
  rw [toSlot_of_plainObject rfl]
  refine (Returns.get s).bind ?_
  simp only [hhas, if_true, hhandle]
  rfl

/-- A host that gives a slot to a script and takes it back has what it gave. To convert it runs no
    code of the script, and the context stays as it is. Only object notation depends on what the
    script has done. -/
theorem toSlot_fromSlot {slot : Slot}
    (hnotates : ∀ text, slot = .json text → s.Notates inner limit) (h : slot.Held limit) :
    ∃ back, s.Returns (fromSlot inner slot >>= toSlot inner) back ∧ slot.ComesBackAs back := by
  match slot with
  | .null | .bool _ | .int32 _ => exact ⟨_, rfl, rfl⟩
  | .string text =>
    refine ⟨.string text, ?_, rfl⟩
    have htext : s.Returns (hostText (CodePoints.ofString text)) text := by
      rw [hostText, CodePoints.toString?_ofString]
      rfl
    exact (Returns.pure s (ScriptValue.text text)).bind (htext.bind rfl)
  | .int64 n =>
    obtain ⟨hlow, hhigh⟩ := h
    have hread : ScriptValue.ofSlot (.int64 n) = .number (.int (Int32.ofInt n.toInt)) := by
      rw [ScriptValue.ofSlot, ScriptNumber.ofInt?, if_pos ⟨hlow, hhigh⟩,
        Option.getD_some]
    refine ⟨.int32 (Int32.ofInt n.toInt), ?_, _, rfl, Int32.toInt_ofInt_of_le hlow ?_⟩
    · change s.Returns (toSlot inner (.ofSlot (.int64 n))) _
      rw [hread]
      rfl
    · exact Int.lt_of_le_of_lt hhigh (by decide)
  | .object handle hint =>
    exact ⟨_, (Returns.pure s _).bind (returns_toSlot_handle s inner handle hint), rfl⟩
  | .json text =>
    obtain ⟨t, ht, hplain, hportable, hdepth⟩ := h
    have hjson : s.Notates inner limit := hnotates text rfl
    have hback := Json.Document.parse?_write (ScriptValue.plain_document hportable)
    exact ⟨_, (returns_fromSlot hjson ht hdepth).bind (returns_toSlot hjson hplain hdepth),
      _, _, _, rfl, ht, hback, ScriptValue.meaning_document hportable⟩

end Script

namespace Playground

open Script

/-- A text with a member that comes twice, an escaped pair, and objects that look like a handle and
    like a vector below the top level. -/
def nestedNotation : String :=
  "\x7b\"k\": 0, \"h\": \x7b\"__handle\": 7\x7d, " ++
    "\"v\": [\x7b\"x\": 1, \"y\": -0, \"z\": 1e2\x7d], \"k\": \"\\ud83d\\ude00\"\x7d"

/-- The tree of this text. -/
def nestedTree : Tree :=
  .object [(CodePoints.ofString "k", .number ⟨⟨false, 0, 0⟩, true⟩),
    (CodePoints.ofString "h",
      .object [(CodePoints.ofString "__handle", .number ⟨⟨false, 7, 0⟩, true⟩)]),
    (CodePoints.ofString "v",
      .array [.object [(CodePoints.ofString "x", .number ⟨⟨false, 1, 0⟩, true⟩),
        (CodePoints.ofString "y", .number ⟨⟨true, 0, 0⟩, true⟩),
        (CodePoints.ofString "z", .number ⟨⟨false, 1, 2⟩, false⟩)]]),
    (CodePoints.ofString "k", .string (CodePoints.ofString "😀"))]

theorem parse?_nestedNotation : Tree.parse? nestedNotation = some nestedTree := by
  rw [Tree.parse?_eq_some_iff]
  decide +kernel

theorem portable_nestedTree : nestedTree.Portable := by
  have hwhole (negative : Bool) (digits : Nat) (hdigits : digits ≤ 0x7FFFFFFF) :
      (Tree.number ⟨⟨negative, digits, 0⟩, true⟩).Portable := by
    have hint : (if negative then -(digits : Int) else digits) ≤ 0x7FFFFFFF ∧
        -0x80000000 ≤ if negative then -(digits : Int) else digits := by
      split <;> omega
    exact .number (if_pos rfl) hint.2 hint.1
  have hhundred : (Tree.number ⟨⟨false, 1, 2⟩, false⟩).Portable := by
    refine .number (i := 100) ?_ (by decide) (by decide)
    norm_num [Json.Number.value, Decimal.Numeral.value, Decimal.Numeral.toInt]
  have hhandle : (Tree.object [(CodePoints.ofString "__handle",
      .number ⟨⟨false, 7, 0⟩, true⟩)]).Portable :=
    .object_cons _ (hwhole false 7 (by decide)) .object_nil
  have hvector : (Tree.object [(CodePoints.ofString "x", .number ⟨⟨false, 1, 0⟩, true⟩),
      (CodePoints.ofString "y", .number ⟨⟨true, 0, 0⟩, true⟩),
      (CodePoints.ofString "z", .number ⟨⟨false, 1, 2⟩, false⟩)]).Portable :=
    .object_cons _ (hwhole false 1 (by decide)) <|
      .object_cons _ (hwhole true 0 (by decide)) <| .object_cons _ hhundred .object_nil
  exact .object_cons _ (hwhole false 0 (by decide)) <| .object_cons _ hhandle <|
    .object_cons _ (.array_cons hvector .array_nil) <| .object_cons _ (.string "😀") .object_nil

/-- A script on a bridge of the playground. -/
def quietScript : Script Playground :=
  (Script.new {} (.new {} quietHost)).value

end Playground

namespace Script

open Playground

/-- The text comes back from the engine, with the members that look like a handle and like a
    vector. -/
theorem toSlot_fromSlot_nested :
    quietScript.Notates engine maxWrittenDepth ∧ (Slot.json nestedNotation).Held maxWrittenDepth ∧
      ∃ back, quietScript.Returns (fromSlot engine (.json nestedNotation) >>= toSlot engine) back ∧
        (Slot.json nestedNotation).ComesBackAs back := by
  have hnotates : quietScript.Notates engine maxWrittenDepth := ⟨notates_engine, by rfl⟩
  have hdepth : nestedTree.depth ≤ maxWrittenDepth := by decide
  have hheld : (Slot.json nestedNotation).Held maxWrittenDepth :=
    ⟨nestedTree, parse?_nestedNotation, ⟨rfl, rfl, rfl⟩, portable_nestedTree,
      by exact_mod_cast hdepth⟩
  exact ⟨hnotates, hheld, toSlot_fromSlot (fun _ _ => hnotates) hheld⟩

end Script

end HostBridge
