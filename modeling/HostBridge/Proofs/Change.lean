import HostBridge.Proofs.Entry
import HostBridge.Proofs.Placement

/-!
# Changes of a bridge

Whatever a public operation does to a bridge is a sequence of a few kinds of *changes*.
The lemma for operations names the changes that each of them makes; an invariant is then
shown once for each kind of change, and never for an operation.

## Main definitions

- `Change`, `Change.apply` — one change, and the bridge after it
- `Change.onRegistry`, `Change.onCodecs`, `Change.onPhase` — what a change does to a
  registry, to codecs and to a phase
- `Bridge.Changes` — one bridge comes from another by changes of given kinds
- `Command.Makes` — the changes that an operation makes on a bridge that is ready

## Design notes

Host code may do anything to the host's own state, so `Change.work` puts an arbitrary
state in its place. The changes `begin`, `finish` and `skip` belong to getting ready.
-/

namespace HostBridge

variable {ε : Type} [Embedding ε]

/-- One change of a bridge. -/
inductive Change (ε : Type) [Embedding ε] where
  | register (r : Registration ε)
  /-- A key gets a number. -/
  | number (key : Key (HostType ε))
  /-- An object is lent under a fresh handle. -/
  | lend (t : HostType ε) (object : ObjectRef)
  | release (handle : Handle)
  | releaseAll
  /-- Host code has worked on the host's state. -/
  | work (host : Host ε)
  | clear
  | setInitializer (i : Initializer ε)
  /-- An initializer starts to work. -/
  | begin
  /-- An initializer has done its work and reported what its commands answered. -/
  | finish (replies : List (Reply ε))
  /-- The bridge gets ready without an initializer. -/
  | skip

namespace Change

/-- The bridge after a change. -/
def apply (b : Bridge ε) : Change ε → Bridge ε
  | register r => b.after (Bridge.register r)
  | number key => b.after (Bridge.assignId key)
  | lend t object => b.after (Bridge.lendObject t object)
  | release handle => { b with handles := b.handles.release handle }
  | releaseAll => { b with handles := b.handles.clear }
  | work host => { b with host }
  | clear => b.clear
  | setInitializer i => { b with initializer := some i }
  | begin => b.begun
  | finish replies => { b.finished with replies := b.replies ++ replies }
  | skip => { b with phase := .ready }

/-- A registry after a change. -/
def onRegistry (r : Registry (HostType ε) (Handler ε)) :
    Change ε → Registry (HostType ε) (Handler ε)
  | register registration => Placement.placeAll r registration.placements
  | clear => r.clear
  | begin => { r with keepExisting := true }
  | finish _ => { r with keepExisting := false }
  | _ => r

/-- Codecs after a change. -/
def onCodecs (warnOnLossy : Bool) (codecs : Codecs ε) : Change ε → Codecs ε
  | register registration => registration.codecsAfter warnOnLossy codecs
  | clear => codecs.clear
  | begin => { codecs with keepExisting := true }
  | finish _ => { codecs with keepExisting := false }
  | _ => codecs

/-- A phase after a change. -/
def onPhase (phase : Phase) : Change ε → Phase
  | begin => .initializing
  | finish _ => .ready
  | skip => .ready
  | _ => phase

/-- When a change can occur: only bound keys get a number, and the phases of a life
    follow each other. -/
def Possible (b : Bridge ε) : Change ε → Prop
  | number key => b.registry.contains key = true
  | begin => b.phase = .uninitialized
  | finish _ => b.phase = .initializing
  | skip => b.phase = .uninitialized
  | _ => True

end Change

/-- The changes that an operation makes on a bridge that is ready. -/
def Command.Makes : Command ε → Change ε → Prop
  | .call .., .work _ | .call .., .lend .. => True
  | .callHolding .., .work _ | .callHolding .., .lend .. => True
  | .register _, .register _ => True
  | .registerWithId .., .register _ | .registerWithId .., .number _ => True
  | .resolveId .., .number _ => True
  | .idOf .., .number _ => True
  | .encode _, .lend .. => True
  | .lend .., .work _ | .lend .., .lend .. => True
  | .lendAgain .., .lend .. => True
  | .release _, .release _ => True
  | .releaseAll, .releaseAll => True
  | .clear, .clear => True
  | .setInitializer _, .setInitializer _ => True
  | .act _, .work _ => True
  | _, _ => False

namespace Bridge

theorem onTables_apply (b : Bridge ε) (change : Change ε) :
    (change.apply b).registry = change.onRegistry b.registry ∧
      (change.apply b).codecs = change.onCodecs b.config.warnOnLossy b.codecs ∧
      (change.apply b).phase = change.onPhase b.phase := by
  cases change with
  | register r =>
    rw [Change.apply, after_register]
    exact ⟨rfl, rfl, rfl⟩
  | number key =>
    obtain ⟨ids, hids⟩ := exists_ids_assignId b key
    rw [Change.apply, hids]
    exact ⟨rfl, rfl, rfl⟩
  | lend t object =>
    obtain ⟨handles, hhandles⟩ := exists_handles_lendObject b t object
    rw [Change.apply, hhandles]
    exact ⟨rfl, rfl, rfl⟩
  | release | releaseAll | work | clear | setInitializer | begin | finish | skip =>
    exact ⟨rfl, rfl, rfl⟩

theorem registry_apply (b : Bridge ε) (change : Change ε) :
    (change.apply b).registry = change.onRegistry b.registry :=
  (onTables_apply b change).1

theorem codecs_apply (b : Bridge ε) (change : Change ε) :
    (change.apply b).codecs = change.onCodecs b.config.warnOnLossy b.codecs :=
  (onTables_apply b change).2.1

theorem phase_apply (b : Bridge ε) (change : Change ε) :
    (change.apply b).phase = change.onPhase b.phase :=
  (onTables_apply b change).2.2

/-- One bridge comes from another by changes of the given kinds. -/
inductive Changes (P : Change ε → Prop) (a : Bridge ε) : Bridge ε → Prop where
  | refl : Changes P a a
  | snoc {b : Bridge ε} {c : Change ε} (before : Changes P a b) (kind : P c)
      (possible : c.Possible b) : Changes P a (c.apply b)

namespace Changes

variable {P Q : Change ε → Prop} {a b d : Bridge ε}

theorem single {c : Change ε} (hP : P c) (hpossible : c.Possible a) :
    Changes P a (c.apply a) :=
  .snoc .refl hP hpossible

theorem trans (hab : Changes P a b) (hbd : Changes P b d) : Changes P a d := by
  induction hbd with
  | refl => exact hab
  | snoc _ hP hpossible ih => exact ih.snoc hP hpossible

theorem mono (h : Changes P a b) (hPQ : ∀ change, P change → Q change) : Changes Q a b := by
  induction h with
  | refl => exact .refl
  | snoc _ hP hpossible ih => exact ih.snoc (hPQ _ hP) hpossible

/-- What every change of some kinds keeps is kept by all changes of these kinds. -/
theorem invariant {I : Bridge ε → Prop} (h : Changes P a b) (ha : I a)
    (hstep : ∀ (d : Bridge ε) (c : Change ε), P c → c.Possible d → I d → I (c.apply d)) :
    I b := by
  induction h with
  | refl => exact ha
  | snoc _ hP hpossible ih => exact hstep _ _ hP hpossible ih

end Changes

-- ════════════════════════════════════════════════════════════════════════
-- The changes of single operations
-- ════════════════════════════════════════════════════════════════════════

variable {P : Change ε → Prop} (b : Bridge ε)

/-- Encoding a result lends at most one object. -/
theorem changes_encode (hlend : ∀ t object, P (.lend t object)) (o : Outcome ε) :
    Changes P b { b with handles := (o.encode b.codecs b.handles).value.2 } := by
  have hlent (t : HostType ε) (object : ObjectRef) :
      Changes P b { b with handles := (b.handles.lend t object).value.2 } := by
    have hsame : { b with handles := (b.handles.lend t object).value.2 } =
        Change.apply b (.lend t object) := by
      simp only [Handles.lend, Change.apply, lendObject, after_modifyGet]
      cases b.handles.register ⟨object, t, t.name⟩ <;> rfl
    rw [hsame]
    exact .single (hlend t object) trivial
  cases o with
  | unit => exact .refl
  | handle h => exact .refl
  | shared t ref => exact hlent t ref
  | value t x =>
    -- Of the types of values only shared objects are lent.
    cases t with
    | optShared t =>
      cases x with
      | none => exact .refl
      | some ref => exact hlent t ref
    | _ => exact .refl

theorem changes_invoke (hwork : ∀ host, P (.work host))
    (hlend : ∀ t object, P (.lend t object)) (handler : Handler ε)
    (target : Option ObjectRef) (args : List Slot) :
    Changes P b (b.after (invoke handler target args)) := by
  cases hrun : handler.run b.codecs b.handles target args b.host with
  | none =>
    have hsame : b.after (invoke handler target args) = b := by
      simp [after, invoke, hrun]
    rw [hsame]
    exact .refl
  | some result =>
    obtain ⟨outcome, host⟩ := result
    have hsame : b.after (invoke handler target args) =
        { b with host, handles := (outcome.encode b.codecs b.handles).value.2 } := by
      simp [after, invoke, hrun]
    rw [hsame]
    exact (Changes.single (hwork host) trivial).trans
      (changes_encode { b with host } hlend outcome)

theorem changes_serve (hwork : ∀ host, P (.work host))
    (hlend : ∀ t object, P (.lend t object)) (s? : Option (Service ε)) :
    Changes P b (b.serve s?).2 := by
  cases s? with
  | none => exact .refl
  | some s => exact changes_invoke b hwork hlend s.handler s.target s.args

/-- Only getting ready and what serves the call change a bridge during a call. -/
theorem changes_call (hwork : ∀ host, P (.work host))
    (hlend : ∀ t object, P (.lend t object)) {ready : Readiness ε}
    (hready : ∀ kept, Changes P b (b.after (ready kept))) (e : Entry ε) :
    Changes P b (b.after (e.call ready)) := by
  have hprepared : Changes P b (e.prepared ready b) := by
    unfold Entry.prepared
    cases e.errand b with
    | nothing => exact .refl
    | byName q => exact hready q.target.toList
    | byId id args => exact hready []
  rw [e.after_call]
  exact hprepared.trans (changes_serve _ hwork hlend _)

/-- A loan is work of the host before and after what is done meanwhile. -/
theorem changes_holding {α : Type} (hwork : ∀ host, P (.work host)) (held : Handle)
    (loan : Loan) {code : List ObjectRef → BridgeM ε α}
    (hcode : ∀ objects (d : Bridge ε), d.phase = b.phase → Changes P d (d.after (code objects))) :
    Changes P b (b.after (holding held loan code)) := by
  obtain ⟨host, hlent⟩ := b.exists_host_onLoan held loan
  obtain ⟨host', hafter⟩ := b.exists_host_holding held loan code
  have hworked : Changes P b (b.onLoan held loan) := by
    rw [hlent]
    exact .single (hwork host) trivial
  have hphase : (b.onLoan held loan).phase = b.phase := by rw [hlent]
  rw [hafter]
  exact (hworked.trans (hcode _ _ hphase)).snoc (hwork host') trivial

theorem changes_registerWithId {space name : String} {f : HostFunction ε}
    (hregister : P (.register (.onNamespace space name (.method f))))
    (hnumber : ∀ key, P (.number key)) :
    Changes P b (b.after (registerWithId space name f)) := by
  refine (Changes.single hregister trivial).snoc
    (hnumber (.ofName (.named (NameHash.ofText space)) name .method true)) ?_
  show (b.after (register _)).registry.contains _ = true
  rw [after_register, Placement.contains_placeAll]
  refine Or.inl ⟨.onNamespace space name .method (.function f.params f.act), ?_, rfl⟩
  simp [Registration.placements, StaticMember.handlers]

theorem changes_resolveId (hnumber : ∀ key, P (.number key)) {ready : BridgeM ε Unit}
    (hready : Changes P b (b.after ready)) (space member : String) (kind : CallKind)
    (isStatic : Bool) :
    Changes P b (b.after (resolveId ready space member kind isStatic)) := by
  simp only [resolveId, after_bind, after_get, answer_get]
  split
  · next key hkey => exact hready.snoc (hnumber key) (contains_of_lookup? hkey)
  · exact hready

theorem changes_idOf (hnumber : ∀ key, P (.number key)) {ready : BridgeM ε Unit}
    (hready : Changes P b (b.after ready)) (t : HostType ε) (member : String)
    (kind : CallKind) (isStatic : Bool) :
    Changes P b (b.after (idOf ready t member kind isStatic)) := by
  show Changes P b ((b.after ready).after
    (if (b.after ready).registry.contains (.ofName (.hostType t) member kind isStatic) then
      assignId (.ofName (.hostType t) member kind isStatic)
    else pure (.error (.unknownBinding (bindingText t.name member kind)))))
  split
  · next hbound => exact hready.snoc (hnumber _) hbound
  · exact hready

-- ════════════════════════════════════════════════════════════════════════
-- Every public operation
-- ════════════════════════════════════════════════════════════════════════

/-- A public operation changes a bridge by getting it ready and as its form allows. -/
theorem changes_performWith {ready : Readiness ε} {c : Command ε}
    (hready : ∀ kept (d : Bridge ε), d.phase = b.phase → Changes P d (d.after (ready kept)))
    (hmakes : ∀ change, c.Makes change → P change) (kept : List ObjectRef) :
    Changes P b (b.after (performWith ready kept c)) := by
  cases c with
  | call callee args =>
    exact changes_call b (fun _ => hmakes _ trivial) (fun _ _ => hmakes _ trivial)
      (fun kept => hready kept b rfl) (.callee callee args)
  | callHolding held loan callee args =>
    exact changes_holding b (fun _ => hmakes _ trivial) held loan fun objects d hd =>
      changes_call d (fun _ => hmakes _ trivial) (fun _ _ => hmakes _ trivial)
        (fun others => hready (objects ++ others) d hd) (.callee callee args)
  | register r => exact .single (hmakes (.register r) trivial) trivial
  | registerWithId space name f =>
    have hafter : b.after (performWith ready kept (.registerWithId space name f)) =
        b.after (registerWithId space name f) := rfl
    rw [hafter]
    exact changes_registerWithId b (hmakes (.register _) trivial)
      fun key => hmakes (.number key) trivial
  | resolveId space member kind isStatic =>
    exact changes_resolveId b (fun key => hmakes (.number key) trivial) (hready [] b rfl) space
      member kind isStatic
  | idOf t member kind isStatic =>
    exact changes_idOf b (fun key => hmakes (.number key) trivial) (hready [] b rfl) t member
      kind isStatic
  | encode result => exact changes_encode b (fun _ _ => hmakes _ trivial) result
  | lend t state =>
    exact (Changes.single (hmakes (.work _) trivial) trivial).snoc (hmakes (.lend t _) trivial)
      trivial
  | lendAgain t handle =>
    simp only [performWith, after_bind, after_get, answer_get]
    split
    · next object hobject => exact .single (hmakes (.lend t object) trivial) trivial
    · exact .refl
  | release handle => exact .single (hmakes (.release handle) trivial) trivial
  | releaseAll => exact .single (hmakes .releaseAll trivial) trivial
  | clear => exact .single (hmakes .clear trivial) trivial
  | ensureReady => exact hready [] b rfl
  | setInitializer commands => exact .single (hmakes (.setInitializer _) trivial) trivial
  | act code => exact .single (hmakes (.work _) trivial) trivial
  | hasBinding | decode | codecInfo | pack | unpack | inspect | diagnostic => exact .refl

theorem phase_apply_of_makes {c : Command ε} {change : Change ε} (h : c.Makes change) :
    (change.apply b).phase = b.phase := by
  rw [phase_apply]
  cases change with
  | begin | finish | skip => cases c <;> exact absurd h id
  | register | number | lend | release | releaseAll | work | clear | setInitializer => rfl

end Bridge

end HostBridge
