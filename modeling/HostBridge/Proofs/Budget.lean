import HostBridge.Proofs.ResultSlot

/-!
# How often initializers run

A bridge logs once for every initializer that it runs, when the initializer is done. The log
of a computation therefore counts the initializers that it runs. The phase of the bridge bounds
this count: a phase is worth the initializers that can still run from it, and no public operation
runs more of them than the phase loses in worth.

## Main definitions

- `Logged.installs`, `Bridge.installs` — how many initializers a computation runs
- `Phase.due` — how many initializers can still run from a phase
- `Bridge.Within` — a computation stays within what the phases are worth

## Main statements

- `Bridge.within_performWith` — every public operation does, if getting ready does
- `Bridge.within_ensureReady` — getting ready does
-/

namespace HostBridge

/-- The event that an initializer has run. -/
def Event.marksInstall : Event → Bool
  | bindingsReady .. => true
  | _ => false

namespace Logged

variable {α β : Type}

/-- How many initializers have run, by the log. -/
def installs (x : Logged α) : Nat :=
  x.events.countP Event.marksInstall

@[simp] theorem installs_pure (a : α) : (pure a : Logged α).installs = 0 := rfl

@[simp] theorem installs_bind (x : Logged α) (f : α → Logged β) :
    (x >>= f).installs = x.installs + (f x.value).installs :=
  List.countP_append

@[simp] theorem installs_map (f : α → β) (x : Logged α) : (f <$> x).installs = x.installs :=
  installs_bind x fun a => pure (f a)

@[simp] theorem installs_emit (e : Event) :
    (emit e).installs = if e.marksInstall then 1 else 0 := by
  simp [installs, emit, List.countP_singleton]

end Logged

variable {ε : Type} [Embedding ε]

-- ════════════════════════════════════════════════════════════════════════
-- Tables and results
-- ════════════════════════════════════════════════════════════════════════

section

variable {τ β : Type} [DecidableEq τ] (r : Registry τ β)

@[simp] theorem Registry.installs_insert (key : Key τ) (member : String) (handler : β) :
    (r.insert key member handler).installs = 0 := by
  unfold insert
  cases r.binding? key with
  | none => rfl
  | some old =>
    by_cases hkeep : r.keepExisting = true
    · simp [hkeep, Event.marksInstall]
    · by_cases hmember : old.member = member <;> simp [hkeep, hmember, Event.marksInstall]

@[simp] theorem Registry.installs_nameType (hash : UInt32) (t : τ) :
    (r.nameType hash t).installs = 0 := by
  unfold nameType
  cases r.typeFor? hash with
  | none => rfl
  | some old =>
    by_cases hkeep : r.keepExisting = true
    · simp [hkeep]
    · by_cases ht : old = t <;> simp [hkeep, ht, Event.marksInstall]

end

section

variable {τ : Type} [DecidableEq τ] {schema : τ → Schema} (table : CodecTable τ schema) (t : τ)

@[simp] theorem CodecTable.installs_keeps : (table.keeps t).installs = 0 := by
  unfold keeps
  split <;> simp [Event.marksInstall]

@[simp] theorem CodecTable.installs_register (pack : (schema t).Value → Slot)
    (unpack : Slot → Option (schema t).Value) :
    (table.register t pack unpack).installs = 0 := by
  simp only [register, Logged.installs_bind, installs_keeps, Nat.zero_add]
  split
  · rfl
  · split <;> simp [Event.marksInstall]

@[simp] theorem CodecTable.installs_registerPacked (warn : Bool) :
    (table.registerPacked t warn).installs = 0 := by
  simp only [registerPacked, Logged.installs_bind, installs_keeps, Nat.zero_add]
  split
  · rfl
  · split
    · simp [Event.marksInstall]
    · split <;> simp [Event.marksInstall]

end

@[simp] theorem Handles.installs_lend (handles : Handles ε) (t : HostType ε) (ref : ObjectRef) :
    (handles.lend t ref).installs = 0 := by
  unfold lend
  split <;> simp [Event.marksInstall]

@[simp] theorem Outcome.installs_encode (codecs : Codecs ε) (handles : Handles ε)
    (o : Outcome ε) : (o.encode codecs handles).installs = 0 := by
  cases o with
  | unit | handle => rfl
  | shared t ref => exact Handles.installs_lend handles t ref
  | value t x =>
    cases t with
    | optShared t =>
      cases x with
      | none => rfl
      | some ref => exact Handles.installs_lend handles t ref
    | _ => rfl

-- ════════════════════════════════════════════════════════════════════════
-- Computations on a bridge
-- ════════════════════════════════════════════════════════════════════════

namespace Bridge

variable {α β : Type} (b : Bridge ε)

/-- How many initializers a computation runs when it starts from a bridge. -/
def installs (x : BridgeM ε α) : Nat :=
  (x b).installs

@[simp] theorem installs_pure (a : α) : b.installs (pure a) = 0 := rfl

@[simp] theorem installs_bind (x : BridgeM ε α) (f : α → BridgeM ε β) :
    b.installs (x >>= f) = b.installs x + (b.after x).installs (f (b.answer x)) :=
  Logged.installs_bind (x b) fun p => f p.1 p.2

@[simp] theorem installs_get : b.installs (get : BridgeM ε (Bridge ε)) = 0 := rfl

@[simp] theorem installs_modify (f : Bridge ε → Bridge ε) : b.installs (modify f) = 0 := rfl

@[simp] theorem installs_modifyGet (f : Bridge ε → α × Bridge ε) :
    b.installs (modifyGet f) = 0 := rfl

@[simp] theorem installs_withHost (code : HostM ε α) : b.installs (withHost code) = 0 := rfl

@[simp] theorem installs_log (e : Event) :
    b.installs (log e) = if e.marksInstall then 1 else 0 := by
  simp [installs, log, StateT.lift]

@[simp] theorem installs_withRegistry (f : Registry (HostType ε) (Handler ε) →
    Logged (Registry (HostType ε) (Handler ε))) :
    b.installs (withRegistry f) = (f b.registry).installs := by
  simp [installs, withRegistry]

@[simp] theorem installs_withCodecs (f : Codecs ε → Logged (α × Codecs ε)) :
    b.installs (withCodecs f) = (f b.codecs).installs := by
  simp [installs, withCodecs]

end Bridge

-- ════════════════════════════════════════════════════════════════════════
-- Budgets
-- ════════════════════════════════════════════════════════════════════════

/-- How many initializers can still run from a phase. -/
def Phase.due : Phase → Nat
  | uninitialized => 1
  | initializing => 0
  | ready => 0

namespace Bridge

variable {α β : Type} {worth : Phase → Nat} {b : Bridge ε}

/-- A computation runs no more initializers than the phase loses in worth. -/
def Within (worth : Phase → Nat) (b : Bridge ε) (x : BridgeM ε α) : Prop :=
  b.installs x + worth (b.after x).phase ≤ worth b.phase

/-- A computation that runs no initializer and does not change the phase is within every
    budget. -/
theorem within_of_quiet {x : BridgeM ε α} (hinstalls : b.installs x = 0)
    (hphase : (b.after x).phase = b.phase) : b.Within worth x := by
  show b.installs x + worth (b.after x).phase ≤ worth b.phase
  rw [hinstalls, hphase]
  exact Nat.le_of_eq (Nat.zero_add _)

theorem within_pure (a : α) : b.Within worth (pure a) :=
  within_of_quiet rfl rfl

theorem Within.bind {x : BridgeM ε α} {f : α → BridgeM ε β} (hx : b.Within worth x)
    (hf : (b.after x).Within worth (f (b.answer x))) : b.Within worth (x >>= f) := by
  unfold Within at *
  rw [installs_bind, after_bind]
  omega

/-- What comes last is only reported. -/
theorem Within.map {x : BridgeM ε α} (hx : b.Within worth x) (f : α → β) :
    b.Within worth (x >>= fun a => pure (f a)) :=
  hx.bind (within_pure _)

theorem within_get : b.Within worth (get : BridgeM ε (Bridge ε)) :=
  within_of_quiet rfl rfl

theorem within_withHost (code : HostM ε α) : b.Within worth (withHost code) :=
  within_of_quiet rfl rfl

theorem within_log {e : Event} (h : e.marksInstall = false) : b.Within worth (log e) :=
  within_of_quiet (by rw [installs_log, h]; rfl) rfl

-- ════════════════════════════════════════════════════════════════════════
-- Single steps
-- ════════════════════════════════════════════════════════════════════════

theorem within_assignId (key : Key (HostType ε)) : b.Within worth (assignId key) := by
  obtain ⟨ids, hids⟩ := exists_ids_assignId b key
  exact within_of_quiet rfl (by rw [hids])

theorem within_lendObject (t : HostType ε) (object : ObjectRef) :
    b.Within worth (lendObject t object) := by
  obtain ⟨handles, hhandles⟩ := exists_handles_lendObject b t object
  exact within_of_quiet rfl (by rw [hhandles])

theorem within_bindOnType (t : HostType ε) (name : String) (isStatic : Bool)
    (handlers : List (CallKind × Handler ε)) :
    b.Within worth (bindOnType t name isStatic handlers) := by
  induction handlers generalizing b with
  | nil => exact within_pure ()
  | cons first rest ih =>
    have hname : b.Within worth (withRegistry fun r => r.nameType (NameHash.ofText t.name) t) :=
      within_of_quiet (by simp) rfl
    exact hname.bind ((within_of_quiet (by simp) rfl).bind ih)

theorem within_bindOnNamespace (space name : String) (handlers : List (CallKind × Handler ε)) :
    b.Within worth (bindOnNamespace space name handlers) := by
  induction handlers generalizing b with
  | nil => exact within_pure ()
  | cons first rest ih =>
    have hmark : b.Within worth (withRegistry fun r =>
        pure (r.markNamespace (NameHash.ofText space))) :=
      within_of_quiet (by simp) rfl
    exact hmark.bind ((within_of_quiet (by simp) rfl).bind ih)

theorem within_register (r : Registration ε) : b.Within worth (register r) := by
  cases r with
  | onObjects t name member => exact (within_bindOnType t name false member.handlers).map _
  | onType t name member => exact (within_bindOnType t name true member.handlers).map _
  | onNamespace space name member =>
    exact (within_bindOnNamespace space name member.handlers).map _
  | typeName t name =>
    have hname : b.Within worth (withRegistry fun r => r.nameType (NameHash.ofText name) t) :=
      within_of_quiet (by simp) rfl
    exact hname.map _
  | codec t pack unpack => exact within_of_quiet (by simp [register]) rfl
  | packed t => exact within_get.bind (within_of_quiet (by simp) rfl)
  | converter t convert => exact within_of_quiet (by simp [register]) rfl

theorem within_registerAll (rs : List (Registration ε)) : b.Within worth (registerAll rs) := by
  induction rs generalizing b with
  | nil => exact within_pure ()
  | cons r rs ih => exact (within_register r).bind ih

theorem within_encode (o : Outcome ε) : b.Within worth (encode o) :=
  within_of_quiet (by simp [installs, encode]) rfl

theorem within_invoke (handler : Handler ε) (target : Option ObjectRef) (args : List Slot) :
    b.Within worth (invoke handler target args) := by
  cases hrun : handler.run b.codecs b.handles target args b.host with
  | none => exact within_of_quiet (by simp [installs, invoke, hrun]) (by simp [after, invoke, hrun])
  | some result =>
    exact within_of_quiet (by simp [installs, invoke, hrun]) (by simp [after, invoke, hrun])

-- ════════════════════════════════════════════════════════════════════════
-- Operations
-- ════════════════════════════════════════════════════════════════════════

theorem within_dispatch {ready : BridgeM ε Unit} (hready : b.Within worth ready) (q : Request ε) :
    b.Within worth (dispatch ready q) := by
  rw [dispatch, (reports_dispatchInto ready q).result?_eq]
  refine hready.bind (within_get.bind ?_)
  split
  · exact (within_log rfl).map _
  · refine (within_invoke _ _ _).bind ?_
    split
    · exact (within_log rfl).map _
    · exact within_pure _

theorem within_dispatchById {ready : BridgeM ε Unit} (hready : b.Within worth ready) (id : Int)
    (args : List Slot) : b.Within worth (dispatchById ready id args) := by
  rw [dispatchById, (reports_dispatchByIdInto ready id args).result?_eq]
  refine hready.bind (within_get.bind ?_)
  split
  · exact (within_log rfl).map _
  · split
    · exact (within_log rfl).map _
    · split
      · exact (within_log rfl).map _
      · exact within_invoke _ _ _

section

variable {ready : Readiness ε}

theorem within_dispatchOnHandle (hready : ∀ kept, b.Within worth (ready kept)) (handle : Handle)
    (member : String) (kind : CallKind) (args : List Slot) :
    b.Within worth (dispatchOnHandle ready handle member kind args) := by
  rw [dispatchOnHandle, (reports_dispatchOnHandleInto ready handle member kind args).result?_eq]
  refine within_get.bind ?_
  split
  · exact within_pure _
  · exact within_dispatch (hready _) _

theorem within_call (hready : ∀ kept, b.Within worth (ready kept)) (args : List Slot)
    (callee : Callee ε) : b.Within worth (call ready args callee) := by
  cases callee with
  | static space member kind => exact within_dispatch (hready _) _
  | onHandle handle member kind => exact within_dispatchOnHandle hready handle member kind args
  | named space member kind isStatic target =>
    cases isStatic with
    | true => exact within_dispatch (hready _) _
    | false =>
      cases target with
      | none => exact within_dispatch (hready _) _
      | some handle => exact within_dispatchOnHandle hready handle member kind args
  | byId id => exact within_dispatchById (hready _) id args
  | buffers =>
    rw [call, (reports_callInto_buffers ready args _ _ _ _ _ _).result?_eq]
    exact within_get.bind (within_dispatch (hready _) _)

theorem within_holding (held : Handle) (loan : Loan) {code : List ObjectRef → BridgeM ε α}
    (hcode : ∀ objects (d : Bridge ε), d.phase = b.phase → d.Within worth (code objects)) :
    b.Within worth (holding held loan code) := by
  refine within_get.bind ?_
  split
  · exact hcode [] b rfl
  · next ref _ =>
    refine within_get.bind ((within_withHost _).bind ((hcode [ref] _ ?_).bind ?_))
    · rfl
    · exact (within_withHost _).map _

/-- A public operation is within the budget if getting ready is. -/
theorem within_performWith {c : Command ε}
    (hready : ∀ kept (d : Bridge ε), d.phase = b.phase → d.Within worth (ready kept))
    (kept : List ObjectRef) : b.Within worth (performWith ready kept c) := by
  cases c with
  | call callee args => exact (within_call (fun kept => hready kept b rfl) args callee).map _
  | callHolding held loan callee args =>
    refine (within_holding held loan fun objects d hd => ?_).map _
    exact within_call (fun others => hready (objects ++ others) d hd) args callee
  | register r => exact (within_register r).map _
  | registerWithId space name f =>
    exact ((within_register _).bind (within_assignId _)).map _
  | resolveId space member kind isStatic =>
    refine ((hready [] b rfl).bind (within_get.bind ?_)).map _
    split
    · exact within_assignId _
    · exact within_pure _
  | idOf t member kind isStatic =>
    refine ((hready [] b rfl).bind (within_get.bind ?_)).map _
    split
    · exact within_assignId _
    · exact within_pure _
  | encode result => exact (within_encode result).map _
  | lend t state => exact (within_withHost _).bind ((within_lendObject t _).map _)
  | lendAgain t handle =>
    refine within_get.bind ?_
    split
    · exact (within_lendObject t _).map _
    · exact within_pure _
  | ensureReady => exact (hready [] b rfl).map _
  | act code => exact (within_withHost code).map _
  | hasBinding | decode | codecInfo | pack | unpack | inspect | diagnostic =>
    exact within_get.map _
  | release | releaseAll | clear | setInitializer => exact within_of_quiet rfl rfl

end

theorem within_performAllWith (kept : List ObjectRef) (cs : List (Command ε)) :
    b.Within worth (performAllWith (fun _ => pure ()) kept cs) := by
  induction cs generalizing b with
  | nil => exact within_pure []
  | cons c cs ih =>
    have hfirst : b.Within worth (performWith (fun _ => pure ()) kept c) :=
      within_performWith (fun _ _ _ => within_pure ()) kept
    exact hfirst.bind (within_get.bind (ih.map _))

-- ════════════════════════════════════════════════════════════════════════
-- Getting ready
-- ════════════════════════════════════════════════════════════════════════

/-- While an initializer works, no initializer runs. -/
theorem installs_install (b : Bridge ε) (kept : List ObjectRef) (i : Initializer ε) :
    b.installs (install kept i) = 0 := by
  -- Nothing is within a budget of nothing but what runs no initializer.
  have hnone : b.Within (fun _ => 0) (install kept i) := by
    cases i with
    | bundled rs => exact (within_registerAll rs).bind (within_get.bind (within_log rfl))
    | custom cs => exact (within_performAllWith kept cs).bind (within_of_quiet rfl rfl)
  exact Nat.le_zero.mp hnone

/-- To get ready runs the initializer of a bridge that is not initialized, and nothing else. -/
theorem installs_ensureReady (b : Bridge ε) (kept : List ObjectRef) :
    b.installs (ensureReady kept) =
      if b.phase = .uninitialized ∧ b.initializer.isSome then 1 else 0 := by
  unfold ensureReady
  by_cases hphase : b.phase = .uninitialized
  · cases hinit : b.initializer with
    | none => simp [hphase, hinit]
    | some i => simp [hphase, hinit, installs_install, Event.marksInstall]
  · simp [hphase]

theorem Settled.due_eq_zero (h : b.Settled) : b.phase.due = 0 := by
  cases hphase : b.phase with
  | uninitialized => exact absurd hphase h
  | initializing | ready => rfl

theorem within_ensureReady (b : Bridge ε) (kept : List ObjectRef) :
    b.Within Phase.due (ensureReady kept) := by
  unfold Within
  rw [installs_ensureReady]
  by_cases hphase : b.phase = .uninitialized
  · rw [(settled_after_ensureReady b kept).due_eq_zero, hphase]
    split
    · exact Nat.le_refl 1
    · exact Nat.zero_le 1
  · rw [if_neg (fun h => hphase h.1), after_ensureReady_of_settled hphase]
    exact Nat.le_of_eq (Nat.zero_add _)

end Bridge

end HostBridge
