import HostBridge.Proofs.Latest
import HostBridge.Proofs.Requests

/-!
# Numbers along the life of a bridge

A journal is what is on record since a bridge was last cleared: the placements that took effect
and the keys that asked for a number, each with the number that it was answered. It is kept from
the operations and their answers alone, also while an initializer works. Along every run the
tables of the bridge agree with the journal. So a number stands for one key until the bridge is
cleared, and a call by number runs what was registered last under the key, however often the
member was registered since the number was given.

## Main definitions

- `Journal`, `Journal.note` — what is on record, and how an operation adds to it
- `Journal.readied` — the journal once a bridge has got ready
- `Journal.Describes` — the tables of a bridge agree with a journal
- `Bridge.Noted` — a run of a bridge, with the journal that is kept of it
- `Bridge.Numbering` — what holds of the numbers of a bridge that has been in use
- `Bridge.numbering_run` — it holds along every run from a new bridge
-/

namespace HostBridge

variable {ε : Type} [Embedding ε]

/-- What is on record since a bridge was last cleared. -/
structure Journal (ε : Type) [Embedding ε] where
  /-- The placements that took effect. -/
  placements : List (Placement ε) := []
  /-- The keys that asked for a number, each with the number that it was answered. -/
  requests : List (Key (HostType ε) × Nat) := []

namespace Journal

/-- What was registered last under a key. -/
def binding? (j : Journal ε) (key : Key (HostType ε)) : Option (Binding (Handler ε)) :=
  latest? (Placement.bindingAt? key) j.placements

/-- How many keys have a number. -/
def size (j : Journal ε) : Nat :=
  (j.requests.map Prod.fst).eraseDups.length

/-- The journal after a placement. While an initializer works, a placement does not take effect
    where there is one already. -/
def place (phase : Phase) (j : Journal ε) (p : Placement ε) : Journal ε :=
  if phase = .initializing ∧ p.key?.any (fun key => (j.binding? key).isSome) then j
  else { j with placements := j.placements ++ [p] }

/-- The journal after a request that was answered by a number. -/
def answer (j : Journal ε) (key? : Option (Key (HostType ε))) (number? : Option Nat) :
    Journal ε :=
  { j with requests := j.requests ++ (key?.bind fun key => number?.map (key, ·)).toList }

/-- The journal after an operation, given its answer and the bridge that was ready for it. -/
def note (j : Journal ε) (b : Bridge ε) (a : Answer ε) : Command ε → Journal ε
  | .clear => {}
  | c => (c.placements.foldl (place b.phase) j).answer (c.asked? b.registry) a.number?

/-- The journal after operations one after the other, none of which gets the bridge ready. -/
def noteAll (j : Journal ε) (b : Bridge ε) : List (Command ε) → Journal ε
  | [] => j
  | c :: cs =>
    (j.note b (b.answer (Bridge.performWith (fun _ => pure ()) [] c)) c).noteAll
      (b.after (Bridge.performWith (fun _ => pure ()) [] c)) cs

/-- The journal once a bridge has got ready: its initializer is followed operation by operation. -/
def readied (j : Journal ε) (b : Bridge ε) : Journal ε :=
  match b.phase, b.initializer with
  | .uninitialized, some i => j.noteAll b.begun i.commands
  | _, _ => j

/-- The journal where something started to get ready. -/
def started (j : Journal ε) (start? : Option (Bridge ε)) : Journal ε :=
  start?.elim j j.readied

-- ════════════════════════════════════════════════════════════════════════
-- A journal describes a bridge
-- ════════════════════════════════════════════════════════════════════════

/-- The tables of a bridge agree with a journal. -/
structure Describes (j : Journal ε) (b : Bridge ε) : Prop where
  binding? : ∀ key, b.registry.binding? key = j.binding? key
  answered : b.ids.Answered j.requests
  /-- Keys that have a number are bound. -/
  bound : ∀ key ∈ b.ids.keys, b.registry.contains key = true
  guarded : b.Guarded

variable {j : Journal ε} {b d : Bridge ε}

/-- Only bindings, numbers and whether existing entries stay matter. -/
theorem Describes.congr (h : j.Describes b) (hbindings : d.registry.bindings = b.registry.bindings)
    (hids : d.ids = b.ids) (hguarded : d.Guarded) : j.Describes d where
  binding? key := (congrFun (Registry.binding?_congr hbindings) key).trans (h.binding? key)
  answered := hids ▸ h.answered
  bound key hkey :=
    (congrFun (Registry.contains_congr hbindings) key).trans (h.bound key (hids ▸ hkey))
  guarded := hguarded

theorem Describes.of_sameTables (h : j.Describes b) (hsame : d.SameTables b) : j.Describes d := by
  refine h.congr (congrArg Registry.bindings hsame.registry) hsame.ids ?_
  rw [Bridge.Guarded, hsame.registry, hsame.phase]
  exact h.guarded

@[simp] theorem requests_place (phase : Phase) (p : Placement ε) :
    (j.place phase p).requests = j.requests := by
  unfold place
  split <;> rfl

@[simp] theorem requests_placeAll (phase : Phase) (ps : List (Placement ε)) :
    (ps.foldl (place phase) j).requests = j.requests := by
  induction ps generalizing j with
  | nil => rfl
  | cons p ps ih => rw [List.foldl_cons, ih, requests_place]

theorem bindingAt?_eq_none {p : Placement ε} {key : Key (HostType ε)}
    (h : p.key? ≠ some key) : p.bindingAt? key = none := by
  unfold Placement.bindingAt?
  cases hentry : p.entry? with
  | none => rfl
  | some entry =>
    obtain ⟨bound, binding⟩ := entry
    have hne : bound ≠ key := fun he => h (by rw [Placement.key?, hentry, Option.map_some, he])
    exact if_neg hne

/-- A placement takes effect in a registry exactly if it is put on record. -/
theorem binding?_place {r : Registry (HostType ε) (Handler ε)} {phase : Phase}
    (hkeep : r.keepExisting = decide (phase = .initializing))
    (h : ∀ key, r.binding? key = j.binding? key) (p : Placement ε) (key : Key (HostType ε)) :
    (p.place r).binding? key = (j.place phase p).binding? key := by
  have hrecorded : (Journal.mk (j.placements ++ [p]) j.requests).binding? key =
      (p.bindingAt? key).or (j.binding? key) := latest?_concat _ _ _
  by_cases hphase : phase = .initializing
  · rw [Placement.binding?_place_keeping (hkeep.trans (decide_eq_true hphase)), h key, place]
    by_cases hkey : p.key? = some key
    · rw [hkey, Option.any_some]
      cases hold : j.binding? key with
      | none => simp [hrecorded, hold]
      | some found => simp [hphase, hold]
    · -- The placement is for another key, so it does not matter whether it takes effect.
      rw [bindingAt?_eq_none hkey, Option.or_none]
      split
      · rfl
      · rw [hrecorded, bindingAt?_eq_none hkey, Option.none_or]
  · rw [Placement.binding?_place (hkeep.trans (decide_eq_false hphase)), h key, place,
      if_neg fun hboth => hphase hboth.1, hrecorded]

theorem binding?_placeAll {r : Registry (HostType ε) (Handler ε)} {phase : Phase}
    (hkeep : r.keepExisting = decide (phase = .initializing))
    (h : ∀ key, r.binding? key = j.binding? key) (ps : List (Placement ε))
    (key : Key (HostType ε)) :
    (Placement.placeAll r ps).binding? key = (ps.foldl (place phase) j).binding? key := by
  induction ps generalizing r j with
  | nil => exact h key
  | cons p ps ih =>
    refine ih ?_ fun other => binding?_place hkeep h p other
    rw [Placement.keepExisting_place]
    exact hkeep

theorem note_of_ne_clear {c : Command ε} (h : c ≠ .clear) (b : Bridge ε) (a : Answer ε) :
    j.note b a c =
      (c.placements.foldl (place b.phase) j).answer (c.asked? b.registry) a.number? := by
  cases c with
  | clear => exact absurd rfl h
  | _ => rfl

/-- A cleared bridge has an empty journal. -/
theorem describes_cleared (hregistry : d.registry = b.registry.clear) (hids : d.ids = {})
    (hguarded : d.Guarded) : Describes {} d where
  binding? key := by
    rw [hregistry]
    rfl
  answered := by
    rw [hids]
    exact .nil
  bound key hkey := by
    rw [hids] at hkey
    exact absurd hkey List.not_mem_nil
  guarded := hguarded

/-- An operation keeps a journal true. -/
theorem Describes.note {c : Command ε} {a : Answer ε} (h : j.Describes b)
    (hperformed : b.Performed c a d) : (j.note b a c).Describes d := by
  have hkeep : (c.onRegistry b.registry).keepExisting = b.registry.keepExisting := by
    cases c with
    | clear => rfl
    | _ => exact Placement.keepExisting_placeAll _ _
  have hguarded : d.Guarded := by
    rw [Bridge.Guarded, hperformed.registry, hperformed.phase, hkeep]
    exact h.guarded
  have hregistry := hperformed.registry
  have hids := hperformed.ids
  by_cases hclear : c = .clear
  · subst hclear
    exact describes_cleared hregistry hids hguarded
  · rw [c.onIds_of_ne_clear hclear] at hids
    have hasked {key : Key (HostType ε)} (hkey : c.asked? b.registry = some key) :
        d.registry.contains key = true :=
      hregistry ▸ Command.contains_onRegistry_of_asked? hkey
    rw [c.onRegistry_of_ne_clear hclear] at hregistry
    rw [note_of_ne_clear hclear, hperformed.number?]
    have hold : ∀ key ∈ b.ids.keys, d.registry.contains key = true := fun key hkey => by
      rw [hregistry]
      exact (Placement.contains_placeAll _ _ key).mpr (Or.inr (h.bound key hkey))
    refine ⟨fun key => ?_, ?_, fun key hkey => ?_, hguarded⟩
    · rw [hregistry]
      exact binding?_placeAll h.guarded h.binding? c.placements key
    · rw [hids, answer, requests_placeAll]
      cases c.asked? b.registry with
      | none =>
        rw [Option.elim_none, Option.bind_none, Option.toList_none, List.append_nil]
        exact h.answered
      | some key => exact h.answered.request key
    · rw [hids] at hkey
      cases hkey? : c.asked? b.registry with
      | none =>
        rw [hkey?, Option.elim_none] at hkey
        exact hold key hkey
      | some asked =>
        rw [hkey?, Option.elim_some] at hkey
        rcases BindingIds.mem_or_eq_of_mem_afterRequest hkey with hmem | rfl
        · exact hold key hmem
        · exact hasked hkey?

-- ════════════════════════════════════════════════════════════════════════
-- Getting ready
-- ════════════════════════════════════════════════════════════════════════

/-- On a settled bridge operations one after the other keep a journal true. -/
theorem Describes.noteAll (h : j.Describes b) (hs : b.Settled) (cs : List (Command ε)) :
    (j.noteAll b cs).Describes
      (b.after (Bridge.performAllWith (fun _ => pure ()) [] cs)) := by
  induction cs generalizing j b with
  | nil => exact h
  | cons c cs ih =>
    exact ih (h.note (Bridge.performed_of_settled hs [] c)) (Bridge.settled_performWith hs [] c)

theorem readied_of_settled (hs : b.Settled) (j : Journal ε) : j.readied b = j := by
  unfold readied
  split
  · next hphase _ => exact absurd hphase hs
  · rfl

/-- To get ready keeps a journal true that follows the initializer. -/
theorem Describes.ensureReady (h : j.Describes b) (kept : List ObjectRef) :
    (j.readied b).Describes (b.after (Bridge.ensureReady kept)) := by
  by_cases hs : b.Settled
  · rw [readied_of_settled hs, Bridge.after_ensureReady_of_settled hs]
    exact h
  · have hphase : b.phase = .uninitialized := Decidable.not_not.mp hs
    unfold readied
    cases hinit : b.initializer with
    | none =>
      rw [Bridge.after_ensureReady_of_none hphase hinit, hphase]
      refine h.congr rfl rfl ?_
      have hguarded : b.registry.keepExisting = decide (b.phase = .initializing) := h.guarded
      rw [hphase] at hguarded
      exact hguarded
    | some i =>
      have hbegun : j.Describes b.begun := h.congr rfl rfl rfl
      have hworked := hbegun.noteAll Phase.noConfusion i.commands
      obtain ⟨replies, hinstall⟩ := Bridge.exists_replies_after_install b.begun kept i
      rw [Bridge.after_performAllWith_kept _ kept []] at hinstall
      rw [Bridge.after_ensureReady_of_some hphase hinit, hinstall, hphase]
      exact hworked.congr rfl rfl rfl

theorem Describes.started (h : j.Describes b) {start? : Option (Bridge ε)}
    (hstart : ∀ d, start? = some d → d.SameTables b) :
    (j.started start?).Describes (b.started start?) := by
  cases start? with
  | none => exact h
  | some d => exact (h.of_sameTables (hstart d rfl)).ensureReady []

end Journal

namespace Bridge

open Journal

-- ════════════════════════════════════════════════════════════════════════
-- Runs with a journal
-- ════════════════════════════════════════════════════════════════════════

/-- One bridge comes from another, and this journal is kept on the way. An initializer may be
    followed operation by operation. -/
inductive Noted (a : Bridge ε) : Journal ε → Bridge ε → Prop where
  | refl : Noted a {} a
  /-- A public operation, while calls under way keep hold of some objects. -/
  | performed {j : Journal ε} {b : Bridge ε} (before : Noted a j b) (kept : List ObjectRef)
      (c : Command ε) :
      Noted a ((j.started (c.start? b)).note (c.prepared b)
          (b.answer (performWith ensureReady kept c)) c)
        (b.after (performWith ensureReady kept c))
  /-- A call, which may be a request of the host. -/
  | called {j : Journal ε} {b : Bridge ε} (before : Noted a j b) (e : Entry ε) :
      Noted a (j.started (e.start? b)) (b.after (e.call ensureReady))
  /-- The host has worked on its own state. -/
  | worked {j : Journal ε} {b : Bridge ε} (before : Noted a j b) (host : Host ε) :
      Noted a j { b with host }
  | begun {j : Journal ε} {b : Bridge ε} (before : Noted a j b)
      (uninitialized : b.phase = .uninitialized) : Noted a j b.begun
  | finished {j : Journal ε} {b : Bridge ε} (before : Noted a j b)
      (initializing : b.phase = .initializing) (replies : List (Reply ε)) :
      Noted a j { b.finished with replies := b.replies ++ replies }

variable {a b : Bridge ε} {j : Journal ε}

theorem IsNew.describes (ha : a.IsNew) : Describes {} a := by
  obtain ⟨hregistry, -, hphase⟩ := ha.tables_eq
  have hids : a.ids = {} := by
    obtain ⟨config, host, rfl | rfl⟩ := ha <;> rfl
  refine describes_cleared (b := a) ?_ hids ?_
  · rw [hregistry]
    rfl
  · rw [Guarded, hregistry, hphase]
    rfl

/-- The journal of a run is true of the bridge that the run leads to. -/
theorem Noted.describes (ha : Describes {} a) (hrun : Noted a j b) : j.Describes b := by
  induction hrun with
  | refl => exact ha
  | @performed j b _ kept c ih =>
    exact (ih.started fun d hd => sameTables_of_start? hd).note (performed_performWith b kept c)
  | @called j b _ e ih =>
    have hready : (j.started (e.start? b)).Describes (b.started (e.start? b)) := by
      refine ih.started fun d hd => ?_
      rw [eq_of_start? hd]
      exact ⟨rfl, rfl, rfl⟩
    exact hready.of_sameTables (sameTables_call b [] e)
  | worked _ host ih => exact ih.congr rfl rfl ih.guarded
  | begun _ _ ih => exact ih.congr rfl rfl rfl
  | finished _ _ replies ih => exact ih.congr rfl rfl rfl

-- ════════════════════════════════════════════════════════════════════════
-- The numbers of a bridge
-- ════════════════════════════════════════════════════════════════════════

/-- What holds of the numbers of a bridge with this journal. A call by number gets the bridge
    ready first, and with it the journal. -/
structure Numbering (j : Journal ε) (b : Bridge ε) : Prop where
  /-- The numbers that were given are those from one on, in the order of first request. -/
  numbers : (j.requests.map Prod.snd).eraseDups = List.range' 1 j.size
  /-- The same key always gets the same number, and different keys get different numbers. -/
  eq_iff : ∀ {p q}, p ∈ j.requests → q ∈ j.requests → (p.1 = q.1 ↔ p.2 = q.2)
  /-- An operation that asks gets a number, as long as there are numbers left. -/
  asked : ∀ kept {c : Command ε} {key}, c.asked? (c.prepared b).registry = some key →
    (j.started (c.start? b)).size < 0x7FFFFFFF →
    (b.answer (performWith ensureReady kept c)).number?.isSome = true
  /-- A number that is not positive or was not given is a miss. -/
  missed : ∀ {id args}, id ≤ 0 ∨ ((j.readied b).size : Int) < id →
    b.outcome ((Entry.callee (.byId id) args).call ensureReady) = (none, b.after (ensureReady []))
  /-- A number that was given runs what was registered last under its key. -/
  served : ∀ {key} {n : Nat}, (key, n) ∈ (j.readied b).requests →
    ∃ found, (j.readied b).binding? key = some found ∧
      ∀ args, b.outcome ((Entry.callee (.byId n) args).call ensureReady) =
        match splitTarget? (b.after (ensureReady [])).handles key.isStatic args with
        | none => (none, b.after (ensureReady []))
        | some (target, rest) =>
          (b.after (ensureReady [])).outcome (invoke found.handler target rest)
  /-- A settled bridge is ready. -/
  settled : b.Settled → j.readied b = j ∧ b.after (ensureReady []) = b
  /-- After clearing, whatever follows, every number is a miss until a key asks for one. -/
  cleared : ∀ {kept j' d}, Noted (b.after (performWith ensureReady kept .clear)) j' d →
    (j'.readied d).requests = [] → ∀ id args,
      d.outcome ((Entry.callee (.byId id) args).call ensureReady) = (none, d.after (ensureReady []))

theorem size_eq_of_describes (h : j.Describes b) : b.ids.size = j.size :=
  congrArg List.length h.answered.keys

/-- A call by number gets the bridge ready and has its service serve it there. -/
theorem outcome_byId (b : Bridge ε) (id : Int) (args : List Slot) :
    b.outcome ((Entry.callee (.byId id) args).call ensureReady) =
      (b.after (ensureReady [])).serve ((b.after (ensureReady [])).serviceById? id args) :=
  outcome_dispatchById b (ensureReady []) id args

/-- A number that no key has is a miss. -/
theorem outcome_byId_of_unused (h : j.Describes b) {id : Int} (args : List Slot)
    (hid : id ≤ 0 ∨ ((j.readied b).size : Int) < id) :
    b.outcome ((Entry.callee (.byId id) args).call ensureReady) =
      (none, b.after (ensureReady [])) := by
  have hready : (j.readied b).Describes (b.after (ensureReady [])) := h.ensureReady []
  rw [← size_eq_of_describes hready] at hid
  rw [outcome_byId, serviceById?, BindingIds.key?_eq_none_iff.mpr hid]
  rfl

/-- What holds of the numbers of a bridge that has been in use since it was made. -/
theorem numbering_run (ha : a.IsNew) (hrun : Noted a j b) : Numbering j b := by
  have hdescribes : j.Describes b := hrun.describes ha.describes
  have hready : (j.readied b).Describes (b.after (ensureReady [])) := hdescribes.ensureReady []
  refine
    { numbers := by rw [← size_eq_of_describes hdescribes]; exact hdescribes.answered.numbers
      eq_iff := hdescribes.answered.eq_iff
      asked := fun kept {c key} hkey hfew => ?_
      missed := fun {id args} hid => outcome_byId_of_unused hdescribes args hid
      served := fun {key n} hmem => ?_
      settled := fun hs => ⟨readied_of_settled hs j, after_ensureReady_of_settled hs []⟩
      cleared := fun {kept j' d} hlater hnone id args => ?_ }
  · have hprepared := hdescribes.started fun d hd => sameTables_of_start? (c := c) hd
    rw [← size_eq_of_describes hprepared] at hfew
    rw [(performed_performWith b kept c).number?, hkey, Option.bind_some]
    exact BindingIds.isSome_number?_of_lt key hfew
  · have hkey : (b.after (ensureReady [])).ids.key? n = some key := hready.answered.key? hmem
    obtain ⟨found, hfound⟩ := Option.isSome_iff_exists.mp
      (hready.bound key (BindingIds.mem_of_key? hkey))
    refine ⟨found, (hready.binding? key).symm.trans hfound, fun args => ?_⟩
    have hget : (b.after (ensureReady [])).registry.get? key = some found.handler := by
      rw [Registry.get?, hfound, Option.map_some]
    rw [outcome_byId, serviceById?, hkey, Option.bind_some]
    cases splitTarget? (b.after (ensureReady [])).handles key.isStatic args with
    | none => rfl
    | some split => exact (outcome_invoke _ split.1 split.2 hget).symm
  · have hcleared : Describes {} (b.after (performWith ensureReady kept .clear)) :=
      describes_cleared (b := b) rfl rfl hdescribes.guarded
    refine outcome_byId_of_unused (hlater.describes hcleared) args ?_
    rw [size, hnone]
    show id ≤ 0 ∨ (0 : Int) < id
    omega

/-- A host registers a method with a number, and then another method under the same name. The
    number now runs the other one, and no other number is in use. Once the bridge is cleared the
    number is a miss. -/
theorem numbering_run_rebinding :
    let a : Bridge Playground := new {} Playground.quietHost
    let eight : HostFunction Playground := ⟨[], fun _ => return Playground.int32 8⟩
    let c : Command Playground := .registerWithId "Tools" "seven" Playground.Function.seven.code
    let c' : Command Playground := .register (.onNamespace "Tools" "seven" (.method eight))
    let b : Bridge Playground :=
      (a.after (performWith ensureReady [] c)).after (performWith ensureReady [] c')
    let cleared : Bridge Playground := b.after (performWith ensureReady [] .clear)
    let run (d : Bridge Playground) (id : Int) : Option Slot :=
      d.answer ((Entry.callee (.byId id) []).call ensureReady)
    ∃ j, a.IsNew ∧ Noted a j b ∧ Numbering j b ∧
      j.requests = [(methodKey "Tools" "seven", 1)] ∧
      run b 1 = some (.int32 8) ∧ run b 2 = none ∧ run cleared 1 = none := by
  intro a eight c c' b cleared run
  have ha : a.IsNew := ⟨_, _, Or.inl rfl⟩
  have hrun := ((Noted.refl (a := a)).performed [] c).performed [] c'
  have hnumbering := numbering_run ha hrun
  have hmissed : b.outcome ((Entry.callee (.byId 2) []).call ensureReady) =
      (none, b.after (ensureReady [])) := hnumbering.missed (Or.inr (by decide +kernel))
  refine ⟨_, ha, hrun, hnumbering, rfl, rfl, ?_, ?_⟩
  · exact congrArg Prod.fst hmissed
  · exact congrArg Prod.fst (hnumbering.cleared .refl rfl 1 [])

end Bridge

end HostBridge
