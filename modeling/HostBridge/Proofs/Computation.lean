import HostBridge.Bridge.Lifecycle

/-!
# What a computation answers and what it leaves

A computation on a bridge answers something, leaves a bridge behind and logs events.
Properties of a bridge are about the first two; these are their laws, one per way to
build a computation, so that later proofs never open the monad.

## Main definitions

- `Bridge.answer` — what a computation answers
- `Bridge.after` — the bridge that a computation leaves
- `Bridge.onLoan` — the bridge while the host has an object on loan
- `Bridge.Settled` — a bridge that does not get ready again
-/

namespace HostBridge

instance : LawfulMonad Logged := LawfulMonad.mk' Logged
  (fun x => congrArg (Logged.mk x.value) (List.append_nil x.events))
  (fun _ _ => rfl)
  (fun _ _ _ => congrArg (Logged.mk _) (List.append_assoc ..))

namespace Bridge

variable {ε : Type} [Embedding ε] {α β : Type} (b : Bridge ε)

/-- What a computation answers when it starts from a bridge. -/
def answer (x : BridgeM ε α) : α :=
  (x b).value.1

/-- The bridge that a computation leaves when it starts from a bridge. -/
def after (x : BridgeM ε α) : Bridge ε :=
  (x b).value.2

@[simp] theorem answer_pure (a : α) : b.answer (pure a) = a := rfl

@[simp] theorem after_pure (a : α) : b.after (pure a) = b := rfl

@[simp] theorem answer_bind (x : BridgeM ε α) (f : α → BridgeM ε β) :
    b.answer (x >>= f) = (b.after x).answer (f (b.answer x)) := rfl

@[simp] theorem after_bind (x : BridgeM ε α) (f : α → BridgeM ε β) :
    b.after (x >>= f) = (b.after x).after (f (b.answer x)) := rfl

@[simp] theorem answer_map (f : α → β) (x : BridgeM ε α) :
    b.answer (f <$> x) = f (b.answer x) := rfl

@[simp] theorem after_map (f : α → β) (x : BridgeM ε α) : b.after (f <$> x) = b.after x := rfl

@[simp] theorem answer_get : b.answer (get : BridgeM ε (Bridge ε)) = b := rfl

@[simp] theorem after_get : b.after (get : BridgeM ε (Bridge ε)) = b := rfl

@[simp] theorem after_modify (f : Bridge ε → Bridge ε) : b.after (modify f) = f b := rfl

@[simp] theorem answer_modifyGet (f : Bridge ε → α × Bridge ε) :
    b.answer (modifyGet f) = (f b).1 := rfl

@[simp] theorem after_modifyGet (f : Bridge ε → α × Bridge ε) :
    b.after (modifyGet f) = (f b).2 := rfl

@[simp] theorem after_log (e : Event) : b.after (log e) = b := rfl

@[simp] theorem after_withRegistry (f : Registry (HostType ε) (Handler ε) →
    Logged (Registry (HostType ε) (Handler ε))) :
    b.after (withRegistry f) = { b with registry := (f b.registry).value } := rfl

@[simp] theorem after_withCodecs (f : Codecs ε → Logged (α × Codecs ε)) :
    b.after (withCodecs f) = { b with codecs := (f b.codecs).value.2 } := rfl

@[simp] theorem answer_withHost (code : HostM ε α) :
    b.answer (withHost code) = (code.run b.host).1 := rfl

@[simp] theorem after_withHost (code : HostM ε α) :
    b.after (withHost code) = { b with host := (code.run b.host).2 } := rfl

-- ════════════════════════════════════════════════════════════════════════
-- Single steps
-- ════════════════════════════════════════════════════════════════════════

theorem exists_ids_assignId (key : Key (HostType ε)) :
    ∃ ids, b.after (assignId key) = { b with ids } := by
  simp only [assignId, after_modifyGet]
  split
  · exact ⟨_, rfl⟩
  · exact ⟨b.ids, rfl⟩

theorem exists_handles_lendObject (t : HostType ε) (object : ObjectRef) :
    ∃ handles, b.after (lendObject t object) = { b with handles } := by
  simp only [lendObject, after_modifyGet]
  split
  · exact ⟨_, rfl⟩
  · exact ⟨b.handles, rfl⟩

-- ════════════════════════════════════════════════════════════════════════
-- Loans
-- ════════════════════════════════════════════════════════════════════════

/-- The bridge while the host has the object behind a handle on loan. -/
def onLoan (held : Handle) (loan : Loan) : Bridge ε :=
  match b.handles.resolve? held with
  | none => b
  | some ref => { b with host := { b.host with objects := b.host.objects.setLoan ref loan } }

/-- A loan changes the state of the host only. -/
theorem exists_host_onLoan (held : Handle) (loan : Loan) :
    ∃ host, b.onLoan held loan = { b with host } := by
  unfold onLoan
  cases b.handles.resolve? held with
  | none => exact ⟨b.host, rfl⟩
  | some ref => exact ⟨_, rfl⟩

/-- What is done while an object is on loan is done on the bridge that has it on loan. After that
    only the state of the host changes. -/
theorem exists_host_holding (held : Handle) (loan : Loan) (code : List ObjectRef → BridgeM ε α) :
    ∃ host, b.after (holding held loan code) =
      { (b.onLoan held loan).after (code (b.handles.resolve? held).toList) with host } := by
  cases hresolve : b.handles.resolve? held with
  | none =>
    refine ⟨(b.after (code [])).host, ?_⟩
    simp [holding, onLoan, hresolve]
  | some ref =>
    let lent : Bridge ε :=
      { b with host := { b.host with objects := b.host.objects.setLoan ref loan } }
    let worked : Host ε := (lent.after (code [ref])).host
    refine ⟨{ worked with objects := worked.objects.setLoan ref (b.host.objects.loan ref) }, ?_⟩
    simp only [holding, onLoan, after_bind, after_get, answer_get, hresolve]
    rfl

-- ════════════════════════════════════════════════════════════════════════
-- Getting ready
-- ════════════════════════════════════════════════════════════════════════

/-- A bridge whose initializer has run, is running, or is no longer to run. -/
def Settled : Prop :=
  b.phase ≠ .uninitialized

/-- The bridge on which an initializer starts to work. -/
def begun : Bridge ε :=
  setKeepExisting true { b with phase := .initializing, initializer := none }

/-- The bridge once its initializer has done its work. -/
def finished : Bridge ε :=
  { setKeepExisting false b with phase := .ready }

variable {b}

/-- Only the phase tells whether a bridge is settled. -/
theorem Settled.of_phase_eq {d : Bridge ε} (h : b.Settled) (hphase : d.phase = b.phase) :
    d.Settled := by
  unfold Settled
  rw [hphase]
  exact h

@[simp] theorem after_ensureReady_of_settled (h : b.Settled) (kept : List ObjectRef) :
    b.after (ensureReady kept) = b := by
  simp [ensureReady, show ¬b.phase = .uninitialized from h]

theorem after_ensureReady_of_none (hphase : b.phase = .uninitialized)
    (hinit : b.initializer = none) (kept : List ObjectRef) :
    b.after (ensureReady kept) = { b with phase := .ready } := by
  simp [ensureReady, hphase, hinit]

/-- With an initializer, getting ready is to install it. -/
theorem after_ensureReady_of_some {i : Initializer ε} (hphase : b.phase = .uninitialized)
    (hinit : b.initializer = some i) (kept : List ObjectRef) :
    b.after (ensureReady kept) = (b.begun.after (install kept i)).finished := by
  simp only [ensureReady, after_bind, after_get, answer_get, hphase, if_true, after_modify,
    hinit, after_log, finished, begun]

/-- However it is done, a bridge that has got ready is settled. -/
theorem settled_after_ensureReady (b : Bridge ε) (kept : List ObjectRef) :
    (b.after (ensureReady kept)).Settled := by
  by_cases hs : b.Settled
  · rw [after_ensureReady_of_settled hs]
    exact hs
  · have hphase : b.phase = .uninitialized := Decidable.not_not.mp hs
    cases hinit : b.initializer with
    | none =>
      rw [after_ensureReady_of_none hphase hinit]
      exact Phase.noConfusion
    | some i =>
      rw [after_ensureReady_of_some hphase hinit]
      exact Phase.noConfusion

end Bridge

end HostBridge
