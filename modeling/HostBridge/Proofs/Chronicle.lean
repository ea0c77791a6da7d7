import HostBridge.Proofs.Install
import HostBridge.Proofs.Keeping
import HostBridge.Proofs.Latest
import HostBridge.Proofs.Orderly
import Mathlib.Data.Finset.Card

/-!
# What names lead to after a history of registrations

Outside initialization, what a request by name reaches can be told from the registrations
since the registry was last cleared, without the registry: a static member from the latest
registration in the namespace with this name; failing that, a member from the latest
registration on the host type that claimed the name last. The number of bindings is that of
the keys on record.

## Main definitions

- `Chronicle`, `Chronicle.of` — what is on record since the last clearing
- `Chronicle.reached?`, `Chronicle.keys` — what a request reaches, and the keys on record
- `Bridge.Reachable.agrees_with_chronicle` — a bridge agrees with the record
-/

namespace HostBridge

variable {ε : Type} [Embedding ε]

/-- What is on record since a registry was last cleared: what it held at the start of the
    record, which after clearing is nothing, and the placements since, in order. -/
structure Chronicle (ε : Type) [Embedding ε] where
  start : Registry (HostType ε) (Handler ε)
  placements : List (Placement ε) := []

namespace Chronicle

/-- The record after an operation. -/
def note (ch : Chronicle ε) : Command ε → Chronicle ε
  | .clear => { start := {} }
  | c => { ch with placements := ch.placements ++ c.placements }

/-- The record after operations on a bridge with some registry. -/
def of (start : Registry (HostType ε) (Handler ε)) (cs : List (Command ε)) : Chronicle ε :=
  cs.foldl note { start }

variable (ch : Chronicle ε)

def handler? (key : Key (HostType ε)) : Option (Handler ε) :=
  ((latest? (Placement.bindingAt? key) ch.placements).or (ch.start.binding? key)).map (·.handler)

/-- The host type that claimed a name last. -/
def claimant? (hash : UInt32) : Option (HostType ε) :=
  (latest? (Placement.claimant? hash) ch.placements).or (ch.start.typeFor? hash)

/-- The handler that a request by name reaches: for a static member the one that was last
    registered in the namespace; failing that, the one that was last registered on the host
    type that claimed the name last. -/
def reached? (hash : UInt32) (q : Request ε) : Option (Handler ε) :=
  (if q.isStatic then ch.handler? (q.key (.named hash)) else none).or
    ((ch.claimant? hash).bind fun t => ch.handler? (q.key (.hostType t)))

def keys : Finset (Key (HostType ε)) :=
  (ch.placements.filterMap Placement.key? ++ ch.start.bindings.map (·.1)).toFinset

/-- The registry that a record amounts to. -/
def registry : Registry (HostType ε) (Handler ε) :=
  Placement.placeAll ch.start ch.placements

variable {ch}

theorem get?_registry (hstart : ch.start.keepExisting = false) (key : Key (HostType ε)) :
    ch.registry.get? key = ch.handler? key := by
  rw [Registry.get?, registry, Placement.binding?_placeAll hstart]
  rfl

theorem typeFor?_registry (hstart : ch.start.keepExisting = false) (hash : UInt32) :
    ch.registry.typeFor? hash = ch.claimant? hash :=
  Placement.typeFor?_placeAll hstart ch.placements hash

theorem size_registry (h : ch.registry.Distinct) : ch.registry.size = ch.keys.card := by
  have hkeys : (ch.registry.bindings.map (·.1)).toFinset = ch.keys := by
    ext key
    rw [List.mem_toFinset, ← Registry.contains_iff_mem, registry, Placement.contains_placeAll, keys,
      List.mem_toFinset, List.mem_append, List.mem_filterMap, Registry.contains_iff_mem]
  rw [← hkeys, List.toFinset_card_of_nodup h, List.length_map]
  rfl

end Chronicle

-- ════════════════════════════════════════════════════════════════════════
-- From a name to a handler
-- ════════════════════════════════════════════════════════════════════════

/-- In an orderly registry the mark of a namespace says nothing that its members do not. -/
theorem Orderly.handler?_eq {r : Registry (HostType ε) (Handler ε)} (h : Orderly r)
    {q : Request ε} {name : List UInt8} (howner : q.owner = none)
    (hname : q.typeName = some name) :
    Bridge.handler? r q =
      (if q.isStatic then r.get? (q.key (.named (NameHash.ofBytes name))) else none).or
        ((r.typeFor? (NameHash.ofBytes name)).bind fun t => r.get? (q.key (.hostType t))) := by
  have hlookup : Bridge.lookup? r q =
      r.keyByName? (NameHash.ofBytes name) q.key q.isStatic := by
    rw [Bridge.lookup?, howner, hname]
    rfl
  rw [Bridge.handler?, hlookup]
  by_cases hin : r.InNamespace (NameHash.ofBytes name) q.key q.isStatic
  · have hkey := Registry.keyByName?_of_inNamespace r hin
    obtain ⟨hstatic, -, hbound⟩ := hin
    obtain ⟨found, hfound⟩ := Option.isSome_iff_exists.mp hbound
    have hget : r.get? (q.key (.named (NameHash.ofBytes name))) = some found.handler := by
      rw [Registry.get?, hfound, Option.map_some]
    rw [hkey, Option.bind_some, if_pos hstatic, hget, Option.some_or]
  · -- A static member that is bound in the namespace would be reached there.
    have hnone : (if q.isStatic then r.get? (q.key (.named (NameHash.ofBytes name))) else none) =
        none := by
      split
      · next hstatic =>
        have hunbound : ¬r.contains (q.key (.named (NameHash.ofBytes name))) = true :=
          fun hbound => hin ⟨hstatic, h.marked rfl hbound, hbound⟩
        rw [Registry.get?, Option.map_eq_none_iff]
        exact Option.not_isSome_iff_eq_none.mp hunbound
      · rfl
    rw [hnone, Option.none_or, Registry.keyByName?_of_not_inNamespace r hin, Option.bind_assoc]
    congr 1
    funext t
    split
    · rfl
    · next hunbound =>
      rw [Option.bind_none, Registry.get?, Option.not_isSome_iff_eq_none.mp hunbound]
      rfl

namespace Bridge

variable {a b : Bridge ε}

-- ════════════════════════════════════════════════════════════════════════
-- Keys stand once
-- ════════════════════════════════════════════════════════════════════════

theorem distinct_placeAll {r : Registry (HostType ε) (Handler ε)} (h : r.Distinct)
    (ps : List (Placement ε)) : (Placement.placeAll r ps).Distinct := by
  induction ps generalizing r with
  | nil => exact h
  | cons p ps ih =>
    refine ih ?_
    cases p with
    | onType t name isStatic kind handler =>
      exact Registry.distinct_insert _
        (Registry.distinct_of_bindings_eq (Registry.bindings_nameType r _ t) h) _ _ _
    | onNamespace space name kind handler =>
      exact Registry.distinct_insert _
        (Registry.distinct_of_bindings_eq (Registry.bindings_markNamespace r _) h) _ _ _
    | typeName t name =>
      exact Registry.distinct_of_bindings_eq (Registry.bindings_nameType r _ t) h

theorem distinct_apply (c : Change ε) (h : b.registry.Distinct) :
    (c.apply b).registry.Distinct := by
  rw [registry_apply]
  cases c with
  | register r => exact distinct_placeAll h r.placements
  | clear => exact List.nodup_nil
  | begin | finish => exact h
  | number | lend | release | releaseAll | work | setInitializer | skip => exact h

/-- No key is bound twice on a reachable bridge. -/
theorem Reachable.distinct (h : Reachable b) : b.registry.Distinct := by
  refine h.invariant (I := fun d => d.registry.Distinct) ?_ fun _ c _ hd => distinct_apply c hd
  intro a hnew
  rw [hnew.tables_eq.1]
  exact List.nodup_nil

-- ════════════════════════════════════════════════════════════════════════
-- Histories of registrations
-- ════════════════════════════════════════════════════════════════════════

/-- A bridge comes from another one by what is on record, and nothing gives way. -/
structure OnRecord (a : Bridge ε) (ch : Chronicle ε) (b : Bridge ε) : Prop where
  registry : b.registry = ch.registry
  free : ch.start.keepExisting = false
  phase : b.phase = a.phase
  initializer : b.initializer = a.initializer

variable {ready : Readiness ε} {kept : List ObjectRef} {ch : Chronicle ε}

theorem OnRecord.step {c : Command ε} (h : a.OnRecord ch b)
    (hc : c.Registers ∨ c = .clear) :
    a.OnRecord (ch.note c) (b.after (performWith ready kept c)) := by
  rcases hc with hregisters | rfl
  · obtain ⟨ids, hafter⟩ := after_performWith_of_registers b ready kept hregisters
    have hnote : ch.note c = { ch with placements := ch.placements ++ c.placements } := by
      cases c <;> first | rfl | exact absurd hregisters id
    rw [hafter, hnote]
    refine ⟨?_, h.free, h.phase, h.initializer⟩
    rw [Chronicle.registry, Placement.placeAll_append, h.registry]
    rfl
  · refine ⟨?_, rfl, h.phase, h.initializer⟩
    have hfree : b.registry.keepExisting = false := by
      rw [h.registry, Chronicle.registry, Placement.keepExisting_placeAll, h.free]
    show b.registry.clear = {}
    rw [Registry.clear, hfree]

theorem OnRecord.run {cs : List (Command ε)} (h : a.OnRecord ch b)
    (hcs : ∀ c ∈ cs, c.Registers ∨ c = .clear) :
    a.OnRecord (cs.foldl Chronicle.note ch) (b.after (performAllWith ready kept cs)) := by
  induction cs generalizing b ch with
  | nil => exact h
  | cons c cs ih =>
    have hfirst : a.OnRecord (ch.note c) (b.after (performWith ready kept c)) :=
      h.step (hcs c List.mem_cons_self)
    exact ih hfirst fun d hd => hcs d (List.mem_cons_of_mem c hd)

/-- A bridge without an initializer to run gets ready by a change of phase at most. -/
theorem registry_ensureReady_of_idle (h : b.phase = .uninitialized → b.initializer = none)
    (kept : List ObjectRef) : (b.after (ensureReady kept)).registry = b.registry := by
  by_cases hs : b.Settled
  · rw [after_ensureReady_of_settled hs]
  · have hphase : b.phase = .uninitialized := Decidable.not_not.mp hs
    rw [after_ensureReady_of_none hphase (h hphase)]

theorem Reachable.run (h : Reachable b) (kept : List ObjectRef)
    (cs : List (Command ε)) : Reachable (b.after (performAllWith ensureReady kept cs)) := by
  induction cs generalizing b with
  | nil => exact h
  | cons c cs ih =>
    obtain ⟨a, hnew, hhistory⟩ := h
    exact ih ⟨a, hnew, hhistory.performed trivial kept⟩

/-- After any history of registrations and clearings outside initialization, a request by
    name reaches what the record says, or is a miss, and the number of bindings is that of
    the keys on record. -/
theorem Reachable.agrees_with_chronicle (ha : a.Reachable) (hphase : a.phase ≠ .initializing)
    (kept : List ObjectRef) {cs : List (Command ε)}
    (hcs : ∀ c ∈ cs, c.Registers ∨ c = .clear) :
    let b := a.after (performAllWith ensureReady kept cs)
    let ch := Chronicle.of a.registry cs
    (∀ (q : Request ε) (name : List UInt8), q.owner = none → q.typeName = some name →
      handler? b.registry q = ch.reached? (NameHash.ofBytes name) q ∧
        ((a.phase = .uninitialized → a.initializer = none) →
          let ready := b.after (ensureReady q.target.toList)
          b.outcome ((Entry.request q).call ensureReady) =
            match ch.reached? (NameHash.ofBytes name) q with
            | none => (none, ready)
            | some handler => ready.outcome (invoke handler q.target q.args))) ∧
      b.registry.size = ch.keys.card := by
  intro b ch
  have hfree : a.registry.keepExisting = false := ha.guarded.trans (decide_eq_false hphase)
  have hstart : a.OnRecord { start := a.registry } a := ⟨rfl, hfree, rfl, rfl⟩
  have hrecord : a.OnRecord ch b := hstart.run hcs
  have hb : b.Reachable := ha.run kept cs
  refine ⟨fun q name howner hname => ?_, ?_⟩
  · -- The registry is the one that the record amounts to, and its laws read off the record.
    have hreached : handler? b.registry q = ch.reached? (NameHash.ofBytes name) q := by
      rw [hb.orderly.handler?_eq howner hname, hrecord.registry,
        Chronicle.typeFor?_registry hrecord.free]
      simp only [Chronicle.get?_registry hrecord.free]
      rfl
    refine ⟨hreached, fun hidle => ?_⟩
    intro ready
    have hready : ready.registry = b.registry := by
      refine registry_ensureReady_of_idle (fun huninit => ?_) _
      rw [hrecord.initializer]
      exact hidle (hrecord.phase.symm.trans huninit)
    rw [← hreached, ← hready]
    exact outcome_dispatch_eq b _ q
  · rw [hrecord.registry]
    exact Chronicle.size_registry (hrecord.registry ▸ hb.distinct)

/-- A host that has cleared its bridge lets counters go by the name `Tools`, which is that of
    a namespace as well. A static member that the namespace has no longer is looked for with
    counters, and found there. -/
theorem agrees_with_chronicle_fallback :
    let a : Bridge Playground := new {} Playground.quietHost
    let constant (s : String) : StaticMember Playground := .getter (return .value .string s)
    let cs : List (Command Playground) :=
      [.register (.onNamespace "Tools" "limit" (constant "tools")), .clear,
        .register (.onType Playground.counterType "limit" (constant "counters")),
        .register (.typeName Playground.counterType "Tools"),
        .register (.onNamespace "Tools" "size" (constant "tools"))]
    let b : Bridge Playground := a.after (performAllWith ensureReady [] cs)
    let q : Request Playground := Request.byName "Tools" "limit" .get true
    b.registry.size = (Chronicle.of {} cs).keys.card ∧ (Chronicle.of {} cs).keys.card = 2 ∧
      handler? b.registry q =
        (Chronicle.of {} cs).reached? (NameHash.ofBytes (Text.utf8 "Tools")) q ∧
      (b.answer ((Entry.request q).call ensureReady)).bind Slot.text? = some "counters" := by
  intro a constant cs b q
  have hreachable : a.Reachable := ⟨a, ⟨_, _, Or.inl rfl⟩, .refl⟩
  have hcs : ∀ c ∈ cs, c.Registers ∨ c = .clear := by
    simp [cs, Command.Registers]
  obtain ⟨hnames, hsize⟩ := Reachable.agrees_with_chronicle hreachable Phase.noConfusion [] hcs
  refine ⟨hsize, ?_, (hnames q _ rfl rfl).1, ?_⟩
  · decide +kernel
  · decide +kernel

end Bridge

end HostBridge
