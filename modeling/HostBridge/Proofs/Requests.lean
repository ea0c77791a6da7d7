import HostBridge.Proofs.Merging
import HostBridge.Proofs.Naming
import HostBridge.Proofs.Numbering
import HostBridge.Proofs.Reentry

/-!
# What operations do to bindings and numbers

Of all that a host does with a bridge, registering and clearing reach the registry, and asking
for a number and clearing reach the table of numbers. An operation may get the bridge ready
before; what it does after that is told by the operation and these two tables, whatever host code
does meanwhile.

## Main definitions

- `Command.asked?` — the key for which an operation asks a number
- `Command.start?`, `Command.prepared` — the bridge on which an operation starts to get ready, and
  the one that is ready for it
- `Bridge.Performed` — what an operation does on a bridge that is ready
- `Bridge.performed_performWith` — every operation does this on the bridge that is ready for it
-/

namespace HostBridge

variable {ε : Type} [Embedding ε]

/-- The number in an answer. -/
def Answer.number? : Answer ε → Option Nat
  | .bindingId (.ok n) => some n
  | _ => none

/-- The bridge on which a call starts to get ready, unless it comes to nothing before. -/
def Entry.start? (b : Bridge ε) (e : Entry ε) : Option (Bridge ε) :=
  match e.errand b with
  | .nothing => none
  | _ => some b

/-- The bridge that has got ready, where something started to get ready. -/
def Bridge.started (b : Bridge ε) (start? : Option (Bridge ε)) : Bridge ε :=
  start?.elim b fun d => d.after (Bridge.ensureReady [])

namespace Command

/-- The key for which an operation asks a number, by the registry of a bridge that is ready. -/
def asked? (registry : Registry (HostType ε) (Handler ε)) :
    Command ε → Option (Key (HostType ε))
  | .registerWithId space name _ => some (Bridge.methodKey space name)
  | .resolveId space member kind isStatic =>
    Bridge.lookup? registry (Request.byName space member kind isStatic)
  | .idOf t member kind isStatic =>
    let key := Key.ofName (.hostType t) member kind isStatic
    if registry.contains key then some key else none
  | _ => none

/-- The bridge on which an operation starts to get ready, if it gets ready. -/
def start? (b : Bridge ε) : Command ε → Option (Bridge ε)
  | .call callee args => (Entry.callee callee args).start? b
  | .callHolding held loan callee args => (Entry.callee callee args).start? (b.onLoan held loan)
  | .resolveId .. => some b
  | .idOf .. => some b
  | .ensureReady => some b
  | _ => none

/-- The bridge that is ready for an operation. -/
def prepared (b : Bridge ε) (c : Command ε) : Bridge ε :=
  b.started (c.start? b)

/-- The registry after an operation. -/
def onRegistry (registry : Registry (HostType ε) (Handler ε)) :
    Command ε → Registry (HostType ε) (Handler ε)
  | .clear => registry.clear
  | c => Placement.placeAll registry c.placements

/-- The numbers after an operation. -/
def onIds (registry : Registry (HostType ε) (Handler ε)) (ids : BindingIds (Key (HostType ε))) :
    Command ε → BindingIds (Key (HostType ε))
  | .clear => {}
  | c => (c.asked? registry).elim ids ids.afterRequest

theorem onRegistry_of_ne_clear {c : Command ε} (h : c ≠ .clear)
    (registry : Registry (HostType ε) (Handler ε)) :
    c.onRegistry registry = Placement.placeAll registry c.placements := by
  cases c with
  | clear => exact absurd rfl h
  | _ => rfl

theorem onIds_of_ne_clear {c : Command ε} (h : c ≠ .clear)
    (registry : Registry (HostType ε) (Handler ε)) (ids : BindingIds (Key (HostType ε))) :
    c.onIds registry ids = (c.asked? registry).elim ids ids.afterRequest := by
  cases c with
  | clear => exact absurd rfl h
  | _ => rfl

/-- A key for which an operation asks a number is bound after the operation. -/
theorem contains_onRegistry_of_asked? {registry : Registry (HostType ε) (Handler ε)}
    {c : Command ε} {key : Key (HostType ε)} (h : c.asked? registry = some key) :
    (c.onRegistry registry).contains key = true := by
  cases c with
  | registerWithId space name f =>
    obtain rfl := Option.some.inj h
    refine (Placement.contains_placeAll registry _ _).mpr (Or.inl ?_)
    refine ⟨.onNamespace space name .method (.function f.params f.act), ?_, rfl⟩
    simp [placements, Registration.placements, StaticMember.handlers]
  | resolveId space member kind isStatic =>
    have hlookup : Bridge.lookup? registry (Request.byName space member kind isStatic) = some key :=
      h
    exact Bridge.contains_of_lookup? hlookup
  | idOf t member kind isStatic =>
    simp only [asked?] at h
    split at h
    · next hbound =>
      obtain rfl := Option.some.inj h
      exact hbound
    · exact absurd h (by simp)
  | _ => exact absurd h (by simp [asked?])

end Command

namespace Bridge

variable {b d : Bridge ε}

/-- What an operation does on a bridge that is ready for it. -/
structure Performed (b : Bridge ε) (c : Command ε) (answer : Answer ε) (d : Bridge ε) : Prop where
  registry : d.registry = c.onRegistry b.registry
  ids : d.ids = c.onIds b.registry b.ids
  phase : d.phase = b.phase
  /-- It is answered by a number if it asks for one. -/
  number? : answer.number? = (c.asked? b.registry).bind b.ids.number?

/-- Two bridges have the same bindings and numbers and are in the same phase. -/
structure SameTables (d b : Bridge ε) : Prop where
  registry : d.registry = b.registry
  ids : d.ids = b.ids
  phase : d.phase = b.phase

theorem SameTables.trans {c : Bridge ε} (hcd : c.SameTables d) (hdb : d.SameTables b) :
    c.SameTables b :=
  ⟨hcd.registry.trans hdb.registry, hcd.ids.trans hdb.ids, hcd.phase.trans hdb.phase⟩

theorem SameTables.settled (h : d.SameTables b) (hs : b.Settled) : d.Settled :=
  hs.of_phase_eq h.phase

theorem Performed.congr {c : Command ε} {answer : Answer ε} {after : Bridge ε}
    (h : d.SameTables b) (hd : d.Performed c answer after) : b.Performed c answer after where
  registry := by rw [hd.registry, h.registry]
  ids := by rw [hd.ids, h.registry, h.ids]
  phase := hd.phase.trans h.phase
  number? := by rw [hd.number?, h.registry, h.ids]

/-- An operation that is not about the two tables leaves them alone. -/
theorem Performed.of_sameTables {c : Command ε} {answer : Answer ε} (h : d.SameTables b)
    (hregistry : c.onRegistry b.registry = b.registry)
    (hids : c.onIds b.registry b.ids = b.ids)
    (hnumber : answer.number? = (c.asked? b.registry).bind b.ids.number?) :
    b.Performed c answer d :=
  ⟨h.registry.trans hregistry.symm, h.ids.trans hids.symm, h.phase, hnumber⟩

-- ════════════════════════════════════════════════════════════════════════
-- Asking for a number
-- ════════════════════════════════════════════════════════════════════════

theorem after_assignId (b : Bridge ε) (key : Key (HostType ε)) :
    b.after (assignId key) = { b with ids := b.ids.afterRequest key } := by
  rw [assignId, after_modifyGet, BindingIds.afterRequest]
  cases b.ids.assign key <;> rfl

theorem number?_answer_assignId (b : Bridge ε) (key : Key (HostType ε)) :
    (Answer.bindingId (b.answer (assignId key)) : Answer ε).number? = b.ids.number? key := by
  rw [assignId, answer_modifyGet, BindingIds.number?]
  cases b.ids.assign key <;> rfl

/-- To ask for the number of a member is to get ready and to give a number to the key that its
    names reach. -/
theorem outcome_resolveId (b : Bridge ε) (ready : BridgeM ε Unit) (space member : String)
    (kind : CallKind) (isStatic : Bool) :
    b.outcome (resolveId ready space member kind isStatic) =
      ((Command.resolveId space member kind isStatic).asked? (b.after ready).registry).elim
        (.error (.unknownBinding (bindingText space member kind)), b.after ready)
        fun key => (b.after ready).outcome (assignId key) := by
  have hasked : (Command.resolveId space member kind isStatic).asked? (b.after ready).registry =
      lookup? (b.after ready).registry (Request.byName space member kind isStatic) := rfl
  rw [hasked]
  cases hkey : lookup? (b.after ready).registry (Request.byName space member kind isStatic) <;>
    simp [outcome, resolveId, hkey]

theorem outcome_idOf (b : Bridge ε) (ready : BridgeM ε Unit) (t : HostType ε) (member : String)
    (kind : CallKind) (isStatic : Bool) :
    b.outcome (idOf ready t member kind isStatic) =
      ((Command.idOf t member kind isStatic).asked? (b.after ready).registry).elim
        (.error (.unknownBinding (bindingText t.name member kind)), b.after ready)
        fun key => (b.after ready).outcome (assignId key) := by
  by_cases hbound :
      (b.after ready).registry.contains (Key.ofName (.hostType t) member kind isStatic) = true <;>
    simp [outcome, idOf, Command.asked?, hbound]

/-- What is answered, if a key asks for its number where it reaches one. -/
theorem Performed.of_asked {c : Command ε} {x : BridgeM ε (Except BridgeError Nat)}
    {e : BridgeError} (hregistry : c.onRegistry d.registry = d.registry)
    (hids : c.onIds d.registry d.ids = (c.asked? d.registry).elim d.ids d.ids.afterRequest)
    (h : b.outcome x =
      (c.asked? d.registry).elim (.error e, d) fun key => d.outcome (assignId key)) :
    d.Performed c (.bindingId (b.answer x)) (b.after x) := by
  cases hkey : c.asked? d.registry with
  | none =>
    rw [hkey, Option.elim_none] at h hids
    obtain ⟨hanswer, hafter⟩ := Prod.mk.inj h
    rw [hanswer, hafter]
    exact ⟨hregistry.symm, hids.symm, rfl, by rw [hkey]; rfl⟩
  | some key =>
    rw [hkey, Option.elim_some] at h hids
    obtain ⟨hanswer, hafter⟩ := Prod.mk.inj h
    rw [hanswer, hafter, after_assignId]
    refine ⟨hregistry.symm, hids.symm, rfl, ?_⟩
    rw [number?_answer_assignId, hkey, Option.bind_some]

-- ════════════════════════════════════════════════════════════════════════
-- Calls
-- ════════════════════════════════════════════════════════════════════════

theorem sameTables_serve (b : Bridge ε) (s? : Option (Service ε)) :
    (b.serve s?).2.SameTables b := by
  have hchanges : Changes (fun change => ∃ callee, (Command.call callee []).Makes change) b
      (b.serve s?).2 :=
    changes_serve b (fun _ => ⟨.byId 0, trivial⟩) (fun _ _ => ⟨.byId 0, trivial⟩) s?
  refine hchanges.invariant (I := fun d => d.SameTables b) ⟨rfl, rfl, rfl⟩ ?_
  rintro d change ⟨callee, hmakes⟩ - hd
  cases change with
  | work host => exact ⟨hd.registry, hd.ids, hd.phase⟩
  | lend t object =>
    obtain ⟨handles, hhandles⟩ := exists_handles_lendObject d t object
    rw [Change.apply, hhandles]
    exact ⟨hd.registry, hd.ids, hd.phase⟩
  | _ => exact absurd hmakes id

theorem sameTables_lendObject (b : Bridge ε) (t : HostType ε) (object : ObjectRef) :
    (b.after (lendObject t object)).SameTables b := by
  obtain ⟨handles, hhandles⟩ := exists_handles_lendObject b t object
  rw [hhandles]
  exact ⟨rfl, rfl, rfl⟩

theorem sameTables_ensureReady (b : Bridge ε) (kept : List ObjectRef) :
    (b.after (ensureReady kept)).SameTables (b.after (ensureReady [])) := by
  obtain ⟨replies, hready⟩ := exists_replies_ensureReady b kept []
  rw [hready]
  exact ⟨rfl, rfl, rfl⟩

/-- A call has the tables that the bridge has when it is ready for the call. -/
theorem sameTables_call (b : Bridge ε) (objects : List ObjectRef) (e : Entry ε) :
    (b.after (e.call fun others => ensureReady (objects ++ others))).SameTables
      (b.started (e.start? b)) := by
  rw [e.after_call]
  refine (sameTables_serve _ _).trans ?_
  unfold Entry.prepared Entry.start? started
  cases e.errand b with
  | nothing => exact ⟨rfl, rfl, rfl⟩
  | byName q => exact sameTables_ensureReady b _
  | byId id args => exact sameTables_ensureReady b _

theorem sameTables_callHolding (b : Bridge ε) (held : Handle) (loan : Loan) (e : Entry ε) :
    (b.after (holding held loan fun objects =>
        e.call fun others => ensureReady (objects ++ others))).SameTables
      (b.started (e.start? (b.onLoan held loan))) := by
  obtain ⟨host, hlent⟩ := b.exists_host_onLoan held loan
  obtain ⟨host', hafter⟩ := b.exists_host_holding held loan
    fun objects => e.call fun others => ensureReady (objects ++ others)
  have hcall := sameTables_call (b.onLoan held loan) (b.handles.resolve? held).toList e
  rw [hafter]
  refine ⟨hcall.registry.trans ?_, hcall.ids.trans ?_, hcall.phase.trans ?_⟩ <;>
    cases e.start? (b.onLoan held loan) <;> simp [started, hlent]

-- ════════════════════════════════════════════════════════════════════════
-- Every public operation
-- ════════════════════════════════════════════════════════════════════════

theorem number?_inspect (b : Bridge ε) (kept : List ObjectRef) (handle : Handle)
    (ts : List (HostType ε)) : ((b.inspect kept handle ts).getD .done).number? = none := by
  induction ts with
  | nil => rfl
  | cons t ts ih =>
    rw [inspect]
    split
    · next answer hfound =>
      obtain ⟨object, -, hfound⟩ := Option.bind_eq_some_iff.mp hfound
      obtain ⟨state, -, rfl⟩ := Option.map_eq_some_iff.mp hfound
      rfl
    · exact ih

/-- An operation does this on the bridge that is ready for it. -/
theorem performed_performWith (b : Bridge ε) (kept : List ObjectRef) (c : Command ε) :
    (c.prepared b).Performed c (b.answer (performWith ensureReady kept c))
      (b.after (performWith ensureReady kept c)) := by
  cases c with
  | call callee args =>
    exact .of_sameTables (sameTables_call b [] (.callee callee args)) rfl rfl rfl
  | callHolding held loan callee args =>
    exact .of_sameTables (sameTables_callHolding b held loan (.callee callee args)) rfl rfl rfl
  | register r =>
    have hafter : b.after (performWith ensureReady kept (.register r)) = _ := after_register b r
    rw [hafter]
    exact ⟨rfl, rfl, rfl, rfl⟩
  | registerWithId space name f =>
    have hafter : b.after (performWith ensureReady kept (.registerWithId space name f)) =
        (b.after (register (.onNamespace space name (.method f)))).after
          (assignId (methodKey space name)) := rfl
    have hanswer := number?_answer_assignId
      (b.after (register (.onNamespace space name (.method f)))) (methodKey space name)
    rw [hafter, after_assignId, after_register]
    rw [after_register] at hanswer
    exact ⟨rfl, rfl, rfl, hanswer⟩
  | resolveId space member kind isStatic =>
    exact .of_asked rfl rfl (outcome_resolveId b (ensureReady []) space member kind isStatic)
  | idOf t member kind isStatic =>
    exact .of_asked rfl rfl (outcome_idOf b (ensureReady []) t member kind isStatic)
  | ensureReady => exact .of_sameTables ⟨rfl, rfl, rfl⟩ rfl rfl rfl
  | lend t state =>
    refine .of_sameTables ?_ rfl rfl rfl
    have hworked : (b.after (withHost (Host.newObject t state))).SameTables b := ⟨rfl, rfl, rfl⟩
    exact (sameTables_lendObject _ t _).trans hworked
  | lendAgain t handle =>
    simp only [performWith, after_bind, after_get, answer_bind, answer_get]
    cases b.handles.resolveAs? t handle with
    | none => exact .of_sameTables ⟨rfl, rfl, rfl⟩ rfl rfl rfl
    | some object => exact .of_sameTables (sameTables_lendObject b t object) rfl rfl rfl
  | inspect ts handle =>
    exact .of_sameTables ⟨rfl, rfl, rfl⟩ rfl rfl (number?_inspect b kept handle ts)
  | clear => exact ⟨rfl, rfl, rfl, rfl⟩
  | encode | release | releaseAll | setInitializer | act | hasBinding | decode | codecInfo | pack
    | unpack | diagnostic =>
    exact .of_sameTables ⟨rfl, rfl, rfl⟩ rfl rfl rfl

-- ════════════════════════════════════════════════════════════════════════
-- Settled bridges
-- ════════════════════════════════════════════════════════════════════════

theorem eq_of_start? {e : Entry ε} (h : e.start? b = some d) : d = b := by
  unfold Entry.start? at h
  split at h
  · exact absurd h (by simp)
  · exact (Option.some.inj h).symm

/-- An operation starts to get ready on the bridge itself, at most with an object on loan. -/
theorem sameTables_of_start? {c : Command ε} (h : c.start? b = some d) : d.SameTables b := by
  cases c with
  | call callee args =>
    obtain rfl := eq_of_start? (e := .callee callee args) h
    exact ⟨rfl, rfl, rfl⟩
  | callHolding held loan callee args =>
    obtain ⟨host, hlent⟩ := b.exists_host_onLoan held loan
    obtain rfl := eq_of_start? (e := .callee callee args) h
    rw [hlent]
    exact ⟨rfl, rfl, rfl⟩
  | resolveId | idOf | ensureReady =>
    obtain rfl := Option.some.inj h
    exact ⟨rfl, rfl, rfl⟩
  | _ => exact absurd h (by simp [Command.start?])

/-- On a settled bridge an operation does this right away. -/
theorem performed_of_settled (hs : b.Settled) (kept : List ObjectRef) (c : Command ε) :
    b.Performed c (b.answer (performWith (fun _ => pure ()) kept c))
      (b.after (performWith (fun _ => pure ()) kept c)) := by
  have hprepared : (c.prepared b).SameTables b := by
    unfold Command.prepared started
    cases hstart : c.start? b with
    | none => exact ⟨rfl, rfl, rfl⟩
    | some d =>
      have hsame : d.SameTables b := sameTables_of_start? hstart
      rw [Option.elim_some, after_ensureReady_of_settled (hsame.settled hs)]
      exact hsame
  have hperformed := performed_performWith b kept c
  rw [answer, after, performWith_of_settled hs] at hperformed
  exact hperformed.congr hprepared

end Bridge

end HostBridge
