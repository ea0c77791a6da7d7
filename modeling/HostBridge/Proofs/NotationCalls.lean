import HostBridge.Proofs.NativeCalls
import HostBridge.Proofs.TreeValues
import Mathlib.Data.ENat.Basic

/-!
# Calls that read and write object notation

What a script has read holds no functions, so to write it down runs no code of the script: it is
written as it is, and the context stays the same. The host reaches the two functions for object
notation through a global variable. As long as this has the value that it has in the language, a
call of one reads or writes, down to the depth that the engine allows.

## Main definitions

- `Script.Returns` — a computation that returns a value and changes nothing
- `Script.returns_written` — the value of a tree is written as its document
- `Script.Inner.Notates` — an engine that reads and writes down to a depth
- `Script.notates_engine` — the engine does
- `Script.Notates` — a script in which the host reads and writes object notation
-/

namespace HostBridge

open Json (Tree Document)

theorem Lookup.own_ne_parent (own : Properties) (key : CodePoints) :
    Lookup.own own key ≠ .parent := by
  unfold Lookup.own
  split <;> exact nofun

namespace Scope

/-- A key that no object inherits. -/
def NotShared (key : CodePoints) : Prop :=
  Lookup.fixture (.shared .object) key = .missing

/-- Only what all objects share is behind the properties of an object's own. -/
theorem property_object (s : Scope) (own : Properties) {key : CodePoints}
    (hroot : NotShared key) :
    s.property key (.object own) = Lookup.own own key := by
  have hrest : s.first key [.root] = .missing := by
    change (Lookup.fixture (.shared .object) key).orElse .missing = _
    rw [hroot]
    rfl
  have hfirst : s.first key (.object own :: s.ancestors (.object own)) = Lookup.own own key := by
    change (Lookup.own own key).orElse (s.first key [.root]) = _
    rw [hrest]
    cases Lookup.own own key <;> rfl
  have hparent := Lookup.own_ne_parent own key
  rw [property, hfirst]
  revert hparent
  cases Lookup.own own key <;> first | exact fun _ => rfl | exact fun h => absurd rfl h

theorem property_array (s : Scope) {items : List ScriptValue} {key : CodePoints}
    (hitems : Lookup.items items key = .missing)
    (harray : Lookup.fixture (.shared .array) key = .missing)
    (hroot : NotShared key) : s.property key (.array items) = .missing := by
  have hfirst : s.first key (.array items :: s.ancestors (.array items)) = .missing := by
    change (Lookup.items items key).orElse ((Lookup.fixture (.shared .array) key).orElse
      ((Lookup.fixture (.shared .object) key).orElse .missing)) = _
    rw [hitems, harray, hroot]
    rfl
  rw [property, hfirst]

end Scope

namespace Script

variable {ε : Type} [Embedding ε] {α β : Type} {inner : Inner ε} {s : Script ε}

-- ════════════════════════════════════════════════════════════════════════
-- Computations that change nothing
-- ════════════════════════════════════════════════════════════════════════

/-- A computation returns a value and leaves the context as it is. -/
def Returns (s : Script ε) (x : ScriptM ε α) (a : α) : Prop :=
  (x s).value = (.ok a, s)

namespace Returns

variable {x : ScriptM ε α} {f : α → ScriptM ε β} {a : α} {b : β}

theorem answer (h : s.Returns x a) : s.answer x = .ok a :=
  congrArg Prod.fst h

theorem after (h : s.Returns x a) : s.after x = s :=
  congrArg Prod.snd h

protected theorem pure (s : Script ε) (a : α) : s.Returns (pure a) a := rfl

protected theorem get (s : Script ε) : s.Returns get s := rfl

protected theorem bind (hx : s.Returns x a) (hf : s.Returns (f a) b) : s.Returns (x >>= f) b := by
  rw [Returns, value_bind, hx.answer, hx.after]
  exact hf

protected theorem tryCatch (hx : s.Returns x a) (handle : Thrown → ScriptM ε α) :
    s.Returns (tryCatch x handle) a := by
  rw [Returns, value_tryCatch, hx.answer, hx.after]

protected theorem framed (hx : s.Returns x a) : s.Returns (framed x) a :=
  hx.tryCatch _

end Returns

-- ════════════════════════════════════════════════════════════════════════
-- What is written for a value
-- ════════════════════════════════════════════════════════════════════════

/-- No property of the value of a tree is a function. -/
theorem returns_toJson (s : Script ε) {t : Tree} (h : (ScriptValue.ofTree t).isObject = true) :
    ∃ v, s.Returns (readProperty (.ofTree t) toJsonKey) v ∧ ∀ code, v ≠ .function code := by
  match t with
  | .null | .bool _ | .number _ | .string _ => nomatch h
  | .array items =>
    have hmissing : s.scope.property toJsonKey (.ofTree (.array items)) = .missing :=
      s.scope.property_array rfl rfl rfl
    refine ⟨.undefined, ?_, nofun⟩
    change ((found (s.scope.property toJsonKey (.ofTree (.array items))) : ScriptM ε _) s).value = _
    rw [hmissing]
    rfl
  | .object members =>
    have hown : s.scope.property toJsonKey (.ofTree (.object members)) =
        Lookup.own (ScriptValue.ofMembers [] members) toJsonKey :=
      s.scope.property_object _ rfl
    have hread : ((readProperty (.ofTree (.object members)) toJsonKey : ScriptM ε _) s).value =
        (found (Lookup.own (ScriptValue.ofMembers [] members) toJsonKey) s).value := by
      rw [← hown]
      rfl
    rw [ScriptValue.own_ofMembers] at hread
    cases hlast : Tree.last? members toJsonKey with
    | none =>
      rw [hlast] at hread
      exact ⟨.undefined, hread, nofun⟩
    | some t =>
      rw [hlast] at hread
      exact ⟨.ofTree t, hread, fun code => by cases t <;> exact nofun⟩

/-- The script has no say in how the value of a tree is written. -/
theorem returns_replaced (s : Script ε) (inner : Inner ε) (holder : ScriptValue) (key : CodePoints)
    (t : Tree) : s.Returns (replaced inner {} holder key (.ofTree t)) none := by
  by_cases hobject : (ScriptValue.ofTree t).isObject = true
  · obtain ⟨v, hv, hnone⟩ := returns_toJson s hobject
    simp only [replaced, if_pos hobject]
    refine hv.bind ?_
    cases v <;> first | exact absurd rfl (hnone _) | rfl
  · simp only [replaced, if_neg hobject]
    rfl

/-- Items and properties, of which each is written as its document, are written in order. -/
theorem returns_writtenItems {e : Enclosing} {holder : ScriptValue} {items : List Tree}
    (h : ∀ t ∈ items, ∀ key, s.Returns (written inner {} e false holder key (.ofTree t))
      (some (ScriptValue.ofTree t).document)) (i : Nat) :
    s.Returns (writtenItems inner {} e holder i (ScriptValue.ofItems items))
      (ScriptValue.itemDocuments (ScriptValue.ofItems items)) := by
  induction items generalizing i with
  | nil => rfl
  | cons t items ih =>
    have hrest := ih (fun u hu => h u (List.mem_cons_of_mem t hu)) (i + 1)
    exact (h t List.mem_cons_self _).bind (hrest.bind rfl)

theorem returns_writtenMembers {e : Enclosing} {holder : ScriptValue} {own : Properties}
    (h : ∀ p ∈ own, ∃ v, p.2 = some v ∧
      s.Returns (written inner {} e false holder p.1 v) (some v.document)) :
    s.Returns (writtenMembers inner {} e holder own) (ScriptValue.ownDocuments own) := by
  induction own with
  | nil => rfl
  | cons p own ih =>
    obtain ⟨key, value⟩ := p
    obtain ⟨v, rfl, hv⟩ := h _ List.mem_cons_self
    have hrest := ih fun q hq => h q (List.mem_cons_of_mem _ hq)
    exact hv.bind (hrest.bind rfl)

/-- The value of a tree is written as its document, whatever encloses it. -/
theorem returns_written (s : Script ε) (inner : Inner ε) (e : Enclosing) (holder : ScriptValue)
    (key : CodePoints) (t : Tree) :
    s.Returns (written inner {} e false holder key (.ofTree t))
      (some (ScriptValue.ofTree t).document) := by
  induction t using Tree.induction generalizing holder key with
  | null | bool | number | string => exact (returns_replaced s inner holder key _).bind rfl
  | array items ih =>
    have hitems := returns_writtenItems (fun t ht => ih t ht (.ofTree (.array items))) 0
    exact (returns_replaced s inner holder key (.array items)).bind (hitems.bind rfl)
  | object members ih =>
    have hmembers : s.Returns (writtenMembers inner {} e (.ofTree (.object members))
        (ScriptValue.ofMembers [] members))
        (ScriptValue.ownDocuments (ScriptValue.ofMembers [] members)) := by
      refine returns_writtenMembers fun p hp => ?_
      obtain ⟨m, hm, rfl⟩ := ScriptValue.exists_member hp
      exact ⟨_, rfl, ih m hm _ _⟩
    exact (returns_replaced s inner holder key (.object members)).bind (hmembers.bind rfl)

-- ════════════════════════════════════════════════════════════════════════
-- Engines
-- ════════════════════════════════════════════════════════════════════════

/-- The functions for object notation read a text as the value of its tree and write the value of a
    tree as its document, if arrays and objects nest no deeper than a limit. -/
structure Inner.Notates (inner : Inner ε) (limit : ℕ∞) : Prop where
  parse : ∀ (s : Script ε) {text : String} {t : Tree}, Tree.parse? text = some t →
    t.depth ≤ limit →
      s.Returns (inner.apply (.intrinsic .parse) .undefined [.text text]) (.ofTree t)
  stringify : ∀ (s : Script ε) {t : Tree}, t.depth ≤ limit →
    s.Returns (inner.apply (.intrinsic .stringify) .undefined [.ofTree t])
      (.text (ScriptValue.ofTree t).document.write)

theorem characters_ofString (text : String) :
    characters (CodePoints.ofString text) = text.toList := by
  rw [characters, CodePoints.ofString, CodePoints.ofChars, List.map_map]
  exact List.map_id _

theorem returns_readNotation (s : Script ε) (inner : Inner ε) {text : String} {t : Tree}
    (h : Tree.parse? text = some t) (hdepth : t.depth ≤ Notation.maxDepth) :
    s.Returns (readNotation inner [.text text]) (.ofTree t) := by
  have htext : s.Returns (textOf inner (.text text)) (CodePoints.ofString text) := rfl
  refine htext.bind ?_
  simp only [characters_ofString, ScriptValue.parse_of_parse? h hdepth]
  rfl

theorem returns_writeNotation (s : Script ε) (inner : Inner ε) {t : Tree}
    (hdepth : t.depth ≤ maxWrittenDepth) :
    s.Returns (writeNotation inner [.ofTree t])
      (.text (ScriptValue.ofTree t).document.write) := by
  have hshallow : ¬maxWrittenDepth < ([ScriptValue.ofTree t].headD .undefined).depth :=
    Nat.not_lt.mpr (Nat.le_trans (ScriptValue.depth_ofTree_le t) hdepth)
  have hwriting : s.Returns (writingOf inner .undefined) {} := rfl
  have hgap : s.Returns (gapOf inner .undefined) "" := rfl
  refine hwriting.bind (hgap.bind ?_)
  rw [if_neg hshallow]
  exact (returns_written s inner {} (.object [([], some (.ofTree t))]) [] t).bind rfl

/-- The engine reads and writes as deep as it writes. -/
theorem notates_engine : (engine : Inner ε).Notates maxWrittenDepth where
  parse s text t h hdepth := by
    have hle : t.depth ≤ maxWrittenDepth := by exact_mod_cast hdepth
    exact (returns_readNotation s _ h (Nat.le_trans hle (by decide))).framed
  stringify s t hdepth := by
    have hle : t.depth ≤ maxWrittenDepth := by exact_mod_cast hdepth
    exact (returns_writeNotation s _ hle).framed

-- ════════════════════════════════════════════════════════════════════════
-- The host
-- ════════════════════════════════════════════════════════════════════════

/-- A script in which the host reads and writes object notation down to a limit: the engine does,
    and the script has the functions for it where the language has them. -/
structure Notates (s : Script ε) (inner : Inner ε) (limit : ℕ∞) : Prop where
  engine : inner.Notates limit
  global : s.scope.global (CodePoints.ofString "JSON") = .value (.fixture .objectNotation)

section

variable {limit : ℕ∞} (h : s.Notates inner limit)

include h

/-- The host finds a function for object notation where the language has it. -/
theorem returns_jsonFunction
    {name : String} {f : Intrinsic} (hname : Lookup.fixture .objectNotation
      (CodePoints.ofString name) = .value (.function (.intrinsic f))) :
    s.Returns (jsonFunction name) (.intrinsic f) := by
  have hglobal : s.Returns (hostGlobal "JSON") (.fixture .objectNotation) := by
    change ((found (s.scope.global (CodePoints.ofString "JSON")) : ScriptM ε _) s).value = _
    rw [h.global]
    rfl
  have hmember : s.Returns (readProperty (.fixture .objectNotation) (CodePoints.ofString name))
      (.function (.intrinsic f)) := by
    have hproperty : s.scope.property (CodePoints.ofString name) (.fixture .objectNotation) =
        .value (.function (.intrinsic f)) := by
      have hfirst (line : List ScriptValue) : s.scope.first (CodePoints.ofString name)
          (.fixture .objectNotation :: line) = .value (.function (.intrinsic f)) := by
        change (Lookup.fixture .objectNotation (CodePoints.ofString name)).orElse _ = _
        rw [hname]
        rfl
      rw [Scope.property, hfirst]
    change ((found (s.scope.property (CodePoints.ofString name) (.fixture .objectNotation)) :
      ScriptM ε _) s).value = _
    rw [hproperty]
    rfl
  exact hglobal.bind (hmember.bind rfl)

/-- What the host reads of the value of a tree is what is written for it. -/
theorem returns_stringify {t : Tree} (hdepth : t.depth ≤ limit) :
    s.Returns (stringify inner (.ofTree t)) (ScriptValue.ofTree t).document.write := by
  have hcode : s.Returns (jsonFunction "stringify") (.intrinsic .stringify) :=
    returns_jsonFunction h rfl
  refine hcode.bind ((h.engine.stringify s hdepth).bind ?_)
  change ((hostText (CodePoints.ofString (ScriptValue.ofTree t).document.write) :
    ScriptM ε String) s).value = _
  rw [hostText, CodePoints.toString?_ofString]
  rfl

/-- What the host gives a script for object notation is the value of its tree. -/
theorem returns_fromSlot {text : String} {t : Tree} (ht : Tree.parse? text = some t)
    (hdepth : t.depth ≤ limit) : s.Returns (fromSlot inner (.json text)) (.ofTree t) := by
  have hcode : s.Returns (jsonFunction "parse") (.intrinsic .parse) :=
    returns_jsonFunction h rfl
  exact hcode.bind ((h.engine.parse s ht hdepth).tryCatch _)

end

end Script

end HostBridge
