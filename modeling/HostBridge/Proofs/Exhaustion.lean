import HostBridge.Proofs.Latest
import HostBridge.Proofs.Precompiled
import HostBridge.Proofs.StaticCall

/-!
# A bridge that has no number left

Numbers of bindings are positive integers of 32 bits, and none is ever taken back. An embedder with
types enough can use them all up: it registers a member for one type after the other and asks for
the number of each. All types have the same name here, so the name leads to the type that was
registered last. The member of one more type is then bound, and its names lead to it, but it gets
no number.

## Main definitions

- `Serial` — an embedding with a type for every natural number
- `Serial.Numbered` — the members of the first types have all the numbers that are given out
- `Serial.exists_numbered` — such a bridge is reached, as long as there are numbers left
- `Serial.exists_unnumbered` — a bridge with a member that gets no number
- `Serial.not_static_hit_iff_numbered` — to be bound is not always to get a number
-/

namespace HostBridge

/-- Types that are told apart by a number. -/
structure Serial where
  number : Nat
deriving DecidableEq

namespace Serial

instance : HostTypes Serial where
  decEq := inferInstance
  name _ := "Serial"
  State _ := Unit
  schema _ := .ofFields "Serial" []

instance : Embedding Serial where
  World := Unit
  Report := Unit

/-- A host on which nothing has happened. -/
def host : Host Serial where
  environment := .new Environment.defaultSeed
  own := ()

open Bridge

/-- The type with a number. -/
def type (n : Nat) : HostType Serial :=
  .own ⟨n⟩

/-- A constant of the type with a number. -/
def constant (n : Nat) : Registration Serial :=
  .onType (type n) "size" (.getter (return .value .int32 7))

/-- What serves the calls of constants. -/
def handler : Handler Serial :=
  .function [] fun _ => return .value .int32 7

/-- The one placement of a constant. -/
def placement (n : Nat) : Placement Serial :=
  .onType (type n) "size" true .get handler

/-- The key of a constant. -/
def key (n : Nat) : Key (HostType Serial) :=
  .ofName (.hostType (type n)) "size" .get true

/-- The constant by its names. -/
def request : Request Serial :=
  .byName "Serial" "size" .get true

theorem key_inj {m n : Nat} (h : key m = key n) : m = n := by
  simpa [key, Key.ofName, type] using h

/-- The constants of the first types have all the numbers that are given out. -/
structure Numbered (n : Nat) (b : Bridge Serial) : Prop where
  reachable : b.Reachable
  phase : b.phase = .ready
  keys : b.ids.keys = (List.range n).map key
  namespaces : b.registry.namespaces = []
  keepExisting : b.registry.keepExisting = false

/-- The constant of one more type is registered, but has no number yet. -/
structure Registered (n : Nat) (b : Bridge Serial) : Prop extends Numbered n b where
  lookup? : lookup? b.registry request = some (key n)
  get? : b.registry.get? (key n) = some handler

variable {n : Nat} {b : Bridge Serial}

theorem Numbered.settled (h : Numbered n b) : b.Settled := by
  unfold Settled
  rw [h.phase]
  exact Phase.noConfusion

theorem Numbered.not_mem (h : Numbered n b) : key n ∉ b.ids.keys := by
  rw [h.keys]
  intro hmem
  obtain ⟨m, hm, hkey⟩ := List.mem_map.mp hmem
  rw [key_inj hkey] at hm
  exact Nat.lt_irrefl n (List.mem_range.mp hm)

theorem Numbered.size (h : Numbered n b) : b.ids.size = n := by
  rw [BindingIds.size, h.keys, List.length_map, List.length_range]

theorem numbered_new :
    Numbered 0 ((new {} host).after (performWith ensureReady [] .ensureReady)) where
  reachable := ⟨new {} host, ⟨_, _, Or.inl rfl⟩, History.refl.performed trivial []⟩
  phase := rfl
  keys := rfl
  namespaces := rfl
  keepExisting := rfl

/-- The name of a registered constant leads to it. -/
theorem lookup?_place {r : Registry (HostType Serial) (Handler Serial)}
    (hkeep : r.keepExisting = false) (hspaces : r.namespaces = []) :
    lookup? ((placement n).place r) request = some (key n) := by
  have hname : NameHash.ofBytes (Text.utf8 "Serial") = NameHash.ofText (type n).name := by
    show _ = NameHash.ofText "Serial"
    decide +kernel
  have hspace : ((placement n).place r).isNamespace (NameHash.ofText (type n).name) = false := by
    rw [Placement.isNamespace_place, Registry.isNamespace, hspaces]
    rfl
  have htype : ((placement n).place r).typeFor? (NameHash.ofText (type n).name) =
      some (type n) := by
    rw [Placement.typeFor?_place hkeep, placement, Placement.claimant?, if_pos rfl, Option.some_or]
  have hbound : ((placement n).place r).contains (key n) = true := by
    have hkey : (placement n).key? = some (key n) := rfl
    rw [Placement.contains_place, decide_eq_true hkey, Bool.true_or]
  show Registry.keyByName? _ (NameHash.ofBytes (Text.utf8 "Serial")) request.key true = _
  rw [hname, Registry.keyByName?, hspace, htype, Option.bind_some]
  exact if_pos hbound

/-- To register a constant moves the name to its type. -/
theorem Numbered.register (h : Numbered n b) :
    Registered n (b.after (performWith ensureReady [] (.register (constant n)))) := by
  have hperformed := performed_performWith b [] (.register (constant n))
  have hregistry : (b.after (performWith ensureReady [] (.register (constant n)))).registry =
      (placement n).place b.registry := hperformed.registry
  refine ⟨⟨?_, hperformed.phase.trans h.phase, ?_, ?_, ?_⟩, ?_, ?_⟩
  · obtain ⟨a, ha, hhistory⟩ := h.reachable
    exact ⟨a, ha, hhistory.performed trivial []⟩
  · rw [hperformed.ids]
    exact h.keys
  all_goals rw [hregistry]
  · simpa [placement, Placement.place] using h.namespaces
  · rw [Placement.keepExisting_place]
    exact h.keepExisting
  · exact lookup?_place h.keepExisting h.namespaces
  · have hbinding : (placement n).bindingAt? (key n) = some ⟨"size", handler⟩ := if_pos rfl
    rw [Registry.get?, Placement.binding?_place h.keepExisting, hbinding]
    rfl

/-- The constant gets the next number, if one is left. -/
theorem Registered.number (h : Registered n b) (hroom : n < 0x7FFFFFFF) :
    Numbered (n + 1)
      (b.after (performWith ensureReady [] (.resolveId "Serial" "size" .get true))) := by
  have hperformed := performed_performWith b [] (.resolveId "Serial" "size" .get true)
  have hprepared : (Command.resolveId "Serial" "size" .get true).prepared b = b :=
    after_ensureReady_of_settled h.settled []
  rw [hprepared] at hperformed
  have hregistry : (b.after (performWith ensureReady []
      (.resolveId "Serial" "size" .get true))).registry = b.registry := hperformed.registry
  refine ⟨?_, hperformed.phase.trans h.phase, ?_, ?_, ?_⟩
  · obtain ⟨a, ha, hhistory⟩ := h.reachable
    exact ⟨a, ha, hhistory.performed trivial []⟩
  · have hasked : (Command.resolveId "Serial" "size" .get true).asked? b.registry =
        some (key n) := h.lookup?
    rw [hperformed.ids, Command.onIds_of_ne_clear (by simp), hasked, Option.elim_some]
    rcases b.ids.request_cases (key n) with ⟨i, -, -, -, -, hmem⟩ | ⟨-, -, -, hafter⟩ |
      ⟨-, hfull, -⟩
    · exact absurd hmem h.not_mem
    · rw [hafter, h.keys, List.range_succ, List.map_append]
      rfl
    · rw [h.size] at hfull
      exact absurd hroom (Nat.not_lt.mpr hfull)
  all_goals rw [hregistry]
  · exact h.namespaces
  · exact h.keepExisting

theorem exists_numbered (h : n ≤ 0x7FFFFFFF) : ∃ b : Bridge Serial, Numbered n b := by
  induction n with
  | zero => exact ⟨_, numbered_new⟩
  | succ n ih =>
    obtain ⟨b, hb⟩ := ih (Nat.le_of_succ_le h)
    exact ⟨_, hb.register.number h⟩

/-- The constant that is registered when all numbers are given out gets none. -/
theorem Registered.answer_resolveId (h : Registered 0x7FFFFFFF b) :
    b.answer (resolveId (ensureReady []) "Serial" "size" .get true) =
      .error .bindingIdsExhausted := by
  have hresolved := outcome_resolveId b (ensureReady []) "Serial" "size" .get true
  have hasked : (Command.resolveId "Serial" "size" .get true).asked? b.registry =
      some (key 0x7FFFFFFF) := h.lookup?
  rw [after_ensureReady_of_settled h.settled, hasked, Option.elim_some] at hresolved
  refine (congrArg Prod.fst hresolved).trans ?_
  rcases answer_assignId_cases b (key 0x7FFFFFFF) with ⟨id, hid⟩ | ⟨hfull, -⟩
  · have hnumber := number?_answer_assignId b (key 0x7FFFFFFF)
    rw [hid] at hnumber
    rcases b.ids.request_cases (key 0x7FFFFFFF) with ⟨i, -, -, -, -, hmem⟩ | ⟨-, hroom, -⟩ |
      ⟨-, -, hnone, -⟩
    · exact absurd hmem h.not_mem
    · rw [h.size] at hroom
      exact absurd hroom (Nat.lt_irrefl _)
    · exact absurd (hnumber.trans hnone) (Option.some_ne_none id)
  · exact hfull

/-- It can be called by its names all the same. -/
theorem Registered.answer_call (h : Registered n b) :
    b.answer (call ensureReady [] (.named "Serial" "size" .get true none)) = some (.int32 7) := by
  have hcalled := outcome_call_of_settled h.settled (.named "Serial" "size" .get true none) []
  have hservice : ((Callee.named "Serial" "size" .get true none).errand b []).service? b =
      some ⟨key n, handler, none, []⟩ := by
    show (Bridge.lookup? b.registry request).bind _ = _
    rw [h.lookup?, Option.bind_some]
    show b.serviceAt? (key n) none [] = _
    rw [serviceAt?, h.get?]
    rfl
  rw [hservice] at hcalled
  exact congrArg Prod.fst hcalled

/-- A bridge is reached with a member that can be called by its names and gets no number. -/
theorem exists_unnumbered :
    ∃ b : Bridge Serial, b.Reachable ∧ b.phase = .ready ∧
      b.hasBinding "Serial" "size" .get true = true ∧
      b.answer (resolveId (ensureReady []) "Serial" "size" .get true) =
        .error .bindingIdsExhausted ∧
      b.answer (call ensureReady [] (.named "Serial" "size" .get true none)) =
        some (.int32 7) := by
  obtain ⟨b, hb⟩ := exists_numbered (Nat.le_refl 0x7FFFFFFF)
  have hregistered := hb.register
  exact ⟨_, hregistered.reachable, hregistered.phase,
    Option.isSome_of_eq_some hregistered.lookup?, hregistered.answer_resolveId,
    hregistered.answer_call⟩

/-- So a static member of a ready bridge that is bound, and whose calls are hits, may get no
    number. -/
theorem not_static_hit_iff_numbered :
    ¬∀ b : Bridge Serial, b.Reachable → b.phase = .ready → ∀ typeName member kind args,
      ((b.answer (call ensureReady args (.static typeName member kind))).isSome = true ↔
        b.hasBinding typeName member kind true = true) ∧
      (b.hasBinding typeName member kind true = true ↔
        ∃ id, b.answer (resolveId (ensureReady []) typeName member kind true) = .ok id) := by
  intro hall
  obtain ⟨b, hreachable, hready, hbound, hnumber, -⟩ := exists_unnumbered
  obtain ⟨id, hid⟩ := (hall b hreachable hready "Serial" "size" .get []).2.mp hbound
  rw [hnumber] at hid
  exact absurd hid (by simp)

end Serial

end HostBridge
