import HostBridge.Proofs.Miss

/-!
# Getting ready from within

An initializer works on the whole bridge and may make calls, ask for numbers and get the bridge
ready, as the host may. A bridge that is initializing is settled: to get it ready again does
nothing at all, so every public operation does on it what it would do if getting ready did
nothing. The phase of a bridge is therefore known before and after every operation.

## Main definitions

- `Command.Idle` — operations that never get a bridge ready
- `Phase.prepared` — the phase of a bridge that has got ready
- `Command.GetsReady` — operations that get a bridge ready

## Main statements

- `Bridge.performWith_of_settled`, `Bridge.performAllWith_of_settled` — on a settled bridge,
  operations do what they would do without getting ready
- `Bridge.phase_performWith_of_getsReady`, `Bridge.phase_performWith_of_not_getsReady` — the
  phase after an operation
-/

namespace HostBridge

variable {ε : Type} [Embedding ε]

/-- Operations that never get a bridge ready. -/
def Command.Idle : Command ε → Prop
  | .call .. | .callHolding .. | .resolveId .. | .idOf .. | .ensureReady => False
  | _ => True

namespace Bridge

variable {α β : Type} {b : Bridge ε}

-- ════════════════════════════════════════════════════════════════════════
-- Computations that agree on a bridge
-- ════════════════════════════════════════════════════════════════════════

/-- Computations that agree on a bridge go on in the same way. -/
theorem bind_apply_congr {x x' : BridgeM ε α} {f f' : α → BridgeM ε β} (hx : x b = x' b)
    (hf : f (b.answer x) (b.after x) = f' (b.answer x) (b.after x)) :
    (x >>= f) b = (x' >>= f') b := by
  show (x b).andThen (fun p => f p.1 p.2) = (x' b).andThen (fun p => f' p.1 p.2)
  rw [← hx]
  exact congrArg (fun y : Logged (β × Bridge ε) => Logged.mk y.value ((x b).events ++ y.events)) hf

theorem map_apply_congr {x x' : BridgeM ε α} (hx : x b = x' b) (f : α → β) :
    (x >>= fun a => pure (f a)) b = (x' >>= fun a => pure (f a)) b :=
  bind_apply_congr hx rfl

section

variable {ready ready' : Readiness ε}

theorem dispatch_congr {r r' : BridgeM ε Unit} (h : r b = r' b) (q : Request ε) :
    dispatch r q b = dispatch r' q b := by
  rw [dispatch, dispatch, (reports_dispatchInto r q).result?_eq,
    (reports_dispatchInto r' q).result?_eq]
  exact bind_apply_congr h rfl

theorem dispatchById_congr {r r' : BridgeM ε Unit} (h : r b = r' b) (id : Int)
    (args : List Slot) : dispatchById r id args b = dispatchById r' id args b := by
  rw [dispatchById, dispatchById, (reports_dispatchByIdInto r id args).result?_eq,
    (reports_dispatchByIdInto r' id args).result?_eq]
  exact bind_apply_congr h rfl

theorem dispatchOnHandle_congr (h : ∀ kept, ready kept b = ready' kept b) (handle : Handle)
    (member : String) (kind : CallKind) (args : List Slot) :
    dispatchOnHandle ready handle member kind args b =
      dispatchOnHandle ready' handle member kind args b := by
  rw [dispatchOnHandle, dispatchOnHandle,
    (reports_dispatchOnHandleInto ready handle member kind args).result?_eq,
    (reports_dispatchOnHandleInto ready' handle member kind args).result?_eq]
  refine bind_apply_congr rfl ?_
  simp only [answer_get, after_get]
  cases b.handles.entry? handle with
  | none => rfl
  | some entry => exact dispatch_congr (h _) _

theorem call_congr (h : ∀ kept, ready kept b = ready' kept b) (args : List Slot)
    (callee : Callee ε) : call ready args callee b = call ready' args callee b := by
  cases callee with
  | static space member kind => exact dispatch_congr (h _) _
  | onHandle handle member kind => exact dispatchOnHandle_congr h handle member kind args
  | named space member kind isStatic target =>
    cases isStatic with
    | true => exact dispatch_congr (h _) _
    | false =>
      cases target with
      | none => exact dispatch_congr (h _) _
      | some handle => exact dispatchOnHandle_congr h handle member kind args
  | byId id => exact dispatchById_congr (h _) id args
  | buffers =>
    rw [call, call, (reports_callInto_buffers ready args _ _ _ _ _ _).result?_eq,
      (reports_callInto_buffers ready' args _ _ _ _ _ _).result?_eq]
    exact bind_apply_congr rfl (dispatch_congr (h _) _)

theorem holding_congr (held : Handle) (loan : Loan) {code code' : List ObjectRef → BridgeM ε α}
    (h : ∀ objects (d : Bridge ε), d.phase = b.phase → code objects d = code' objects d) :
    holding held loan code b = holding held loan code' b := by
  refine bind_apply_congr rfl ?_
  simp only [answer_get, after_get]
  cases b.handles.resolve? held with
  | none => exact h [] b rfl
  | some ref => exact bind_apply_congr rfl (bind_apply_congr rfl (bind_apply_congr (h _ _ rfl) rfl))

/-- An operation that needs no bridge that is ready is the same however a bridge gets ready. -/
theorem performWith_eq_of_idle {c : Command ε} (h : c.Idle) (ready ready' : Readiness ε)
    (kept : List ObjectRef) : performWith ready kept c = performWith ready' kept c := by
  cases c with
  | call | callHolding | resolveId | idOf | ensureReady => exact absurd h id
  | _ => rfl

/-- Ways to get ready that agree on every bridge in the phase of a bridge make no difference to
    the operations on it. -/
theorem performWith_congr
    (h : ∀ kept (d : Bridge ε), d.phase = b.phase → ready kept d = ready' kept d)
    (kept : List ObjectRef) (c : Command ε) :
    performWith ready kept c b = performWith ready' kept c b := by
  have hidle (hidle : c.Idle) : performWith ready kept c b = performWith ready' kept c b := by
    rw [performWith_eq_of_idle hidle ready ready']
  cases c with
  | call callee args => exact map_apply_congr (call_congr (fun _ => h _ b rfl) args callee) _
  | callHolding held loan callee args =>
    refine map_apply_congr (holding_congr held loan fun objects d hd => ?_) _
    exact call_congr (fun _ => h _ d hd) args callee
  | resolveId space member kind isStatic =>
    exact map_apply_congr (bind_apply_congr (h [] b rfl) rfl) _
  | idOf t member kind isStatic => exact map_apply_congr (bind_apply_congr (h [] b rfl) rfl) _
  | ensureReady => exact map_apply_congr (h [] b rfl) _
  | _ => exact hidle trivial

end

-- ════════════════════════════════════════════════════════════════════════
-- Settled bridges
-- ════════════════════════════════════════════════════════════════════════

/-- To get a settled bridge ready is to do nothing, and logs nothing. -/
theorem ensureReady_of_settled (h : b.Settled) (kept : List ObjectRef) :
    ensureReady kept b = (pure () : BridgeM ε Unit) b := by
  have hphase : ¬b.phase = .uninitialized := h
  have hskip : ensureReady kept b = ((get : BridgeM ε (Bridge ε)) >>= fun _ => pure ()) b :=
    bind_apply_congr rfl (congrFun (if_neg hphase) b)
  exact hskip

/-- On a settled bridge operations get along without getting ready. -/
theorem performWith_of_settled (h : b.Settled) (kept : List ObjectRef) (c : Command ε) :
    performWith ensureReady kept c b = performWith (fun _ => pure ()) kept c b := by
  exact performWith_congr (fun kept d hd => ensureReady_of_settled (h.of_phase_eq hd) kept) kept c

theorem after_performWith_of_settled (h : b.Settled) (kept : List ObjectRef) (c : Command ε) :
    b.after (performWith ensureReady kept c) = b.after (performWith (fun _ => pure ()) kept c) :=
  congrArg (fun x => x.value.2) (performWith_of_settled h kept c)

/-- Without getting ready, operations do not change the phase. -/
theorem phase_performWith_pure (b : Bridge ε) (kept : List ObjectRef) (c : Command ε) :
    (b.after (performWith (fun _ => pure ()) kept c)).phase = b.phase := by
  have hchanges : Changes c.Makes b (b.after (performWith (fun _ => pure ()) kept c)) :=
    changes_performWith b (fun _ _ _ => .refl) (fun _ hmakes => hmakes) kept
  exact (hchanges.mono fun _ hmakes => ⟨c, hmakes⟩).phase_eq

theorem settled_performWith (h : b.Settled) (kept : List ObjectRef) (c : Command ε) :
    (b.after (performWith (fun _ => pure ()) kept c)).Settled :=
  h.of_phase_eq (phase_performWith_pure b kept c)

/-- A list of operations does on a settled bridge what it does where none of them can get the
    bridge ready. -/
theorem performAllWith_of_settled (h : b.Settled) (kept : List ObjectRef) (cs : List (Command ε)) :
    performAllWith ensureReady kept cs b = performAllWith (fun _ => pure ()) kept cs b := by
  induction cs generalizing b with
  | nil => rfl
  | cons c cs ih =>
    have hnext : (b.after (performWith ensureReady kept c)).Settled := by
      rw [after_performWith_of_settled h]
      exact settled_performWith h kept c
    exact bind_apply_congr (performWith_of_settled h kept c)
      (bind_apply_congr rfl (map_apply_congr (ih hnext) _))

end Bridge

-- ════════════════════════════════════════════════════════════════════════
-- The phase after getting ready, and after a call
-- ════════════════════════════════════════════════════════════════════════

/-- The phase of a bridge that has got ready. -/
def Phase.prepared : Phase → Phase
  | uninitialized => ready
  | initializing => initializing
  | ready => ready

namespace Bridge

theorem Settled.prepared_eq {b : Bridge ε} (h : b.Settled) : b.phase.prepared = b.phase := by
  cases hphase : b.phase with
  | uninitialized => exact absurd hphase h
  | initializing | ready => rfl

theorem phase_ensureReady (b : Bridge ε) (kept : List ObjectRef) :
    (b.after (ensureReady kept)).phase = b.phase.prepared := by
  by_cases hs : b.Settled
  · rw [after_ensureReady_of_settled hs, hs.prepared_eq]
  · have hphase : b.phase = .uninitialized := Decidable.not_not.mp hs
    rw [hphase]
    cases hinit : b.initializer with
    | none => rw [after_ensureReady_of_none hphase hinit]; rfl
    | some i => rw [after_ensureReady_of_some hphase hinit]; rfl

variable {ready : Readiness ε} {b : Bridge ε} {phase : Phase}

/-- A call that needs no live handle, or has one, leaves the phase that getting ready leaves. -/
theorem phase_call (hready : ∀ kept, (b.after (ready kept)).phase = phase) {e : Entry ε}
    (h : ¬e.Stale b) : (b.after (e.call ready)).phase = phase := by
  have hserved : Changes Made (e.prepared ready b) (b.after (e.call ready)) := by
    rw [e.after_call]
    exact changes_serve _ (fun _ => ⟨.call (.byId 0) [], trivial⟩)
      (fun _ _ => ⟨.call (.byId 0) [], trivial⟩) _
  rw [hserved.phase_eq, Entry.prepared]
  cases herrand : e.errand b with
  | nothing => exact absurd (Entry.errand_eq_nothing_iff.mp herrand) h
  | byName q => exact hready _
  | byId id args => exact hready []

/-- A call by a handle that is not live misses and does nothing at all. -/
theorem outcome_call_of_stale (ready : Readiness ε) {e : Entry ε} (h : e.Stale b) :
    b.outcome (e.call ready) = (none, b) := by
  rw [Entry.outcome_call, Entry.service?, Entry.prepared, Entry.errand_eq_nothing_iff.mpr h]
  rfl

theorem after_call_of_stale (ready : Readiness ε) {e : Entry ε} (h : e.Stale b) :
    b.after (e.call ready) = b :=
  congrArg Prod.snd (outcome_call_of_stale ready h)

theorem phase_holding {α : Type} (held : Handle) (loan : Loan)
    {code : List ObjectRef → BridgeM ε α}
    (hcode : ∀ objects (d : Bridge ε), d.phase = b.phase → d.handles = b.handles →
      (d.after (code objects)).phase = phase) :
    (b.after (holding held loan code)).phase = phase := by
  obtain ⟨host, hlent⟩ := b.exists_host_onLoan held loan
  obtain ⟨host', hafter⟩ := b.exists_host_holding held loan code
  rw [hafter]
  exact hcode _ _ (by rw [hlent]) (by rw [hlent])

end Bridge

theorem Entry.stale_congr {b d : Bridge ε} (h : d.handles = b.handles) (e : Entry ε) :
    e.Stale d ↔ e.Stale b := by
  unfold Stale
  rw [h]

-- ════════════════════════════════════════════════════════════════════════
-- The phase after an operation
-- ════════════════════════════════════════════════════════════════════════

/-- Operations that get the bridge ready: to ask for it, to ask for a number, and calls, unless
    the call needs a handle that is not live. -/
def Command.GetsReady (b : Bridge ε) : Command ε → Prop
  | .call callee args => ¬(Entry.callee callee args).Stale b
  | .callHolding _ _ callee args => ¬(Entry.callee callee args).Stale b
  | .resolveId .. => True
  | .idOf .. => True
  | .ensureReady => True
  | _ => False

namespace Bridge

variable {b : Bridge ε} {c : Command ε}

/-- What an operation does after it has got the bridge ready does not change the phase. -/
theorem phase_performWith_of_getsReady (h : c.GetsReady b) (kept : List ObjectRef) :
    (b.after (performWith ensureReady kept c)).phase = b.phase.prepared := by
  have hfirst (hafter : b.after (performWith ensureReady kept c) =
      (b.after (ensureReady [])).after (performWith (fun _ => pure ()) kept c)) :
      (b.after (performWith ensureReady kept c)).phase = b.phase.prepared := by
    rw [hafter, phase_performWith_pure, phase_ensureReady]
  cases c with
  | call callee args => exact phase_call (e := .callee callee args) (phase_ensureReady b) h
  | callHolding held loan callee args =>
    show (b.after (holding held loan fun objects =>
      call (fun others => ensureReady (objects ++ others)) args callee)).phase = b.phase.prepared
    refine phase_holding held loan fun objects d hphase hhandles => ?_
    have hlive : ¬(Entry.callee callee args).Stale d :=
      fun hstale => h ((Entry.stale_congr hhandles _).mp hstale)
    have hready (others : List ObjectRef) :
        (d.after (ensureReady (objects ++ others))).phase = b.phase.prepared := by
      rw [phase_ensureReady, hphase]
    exact phase_call hready hlive
  | resolveId | idOf | ensureReady => exact hfirst rfl
  | _ => exact absurd h id

/-- Every other operation leaves the phase as it is. -/
theorem phase_performWith_of_not_getsReady (h : ¬c.GetsReady b) (kept : List ObjectRef) :
    (b.after (performWith ensureReady kept c)).phase = b.phase := by
  have hidle (hidle : c.Idle) : (b.after (performWith ensureReady kept c)).phase = b.phase := by
    rw [performWith_eq_of_idle hidle ensureReady (fun _ => pure ())]
    exact phase_performWith_pure b kept c
  cases c with
  | call callee args =>
    have hsame : b.after (performWith ensureReady kept (.call callee args)) = b :=
      after_call_of_stale ensureReady (e := .callee callee args) (Classical.not_not.mp h)
    rw [hsame]
  | callHolding held loan callee args =>
    show (b.after (holding held loan fun objects =>
      call (fun others => ensureReady (objects ++ others)) args callee)).phase = b.phase
    refine phase_holding held loan fun objects d hphase hhandles => ?_
    have hstale : (Entry.callee callee args).Stale d :=
      (Entry.stale_congr hhandles _).mpr (Classical.not_not.mp h)
    have hsame : d.after (call (fun others => ensureReady (objects ++ others)) args callee) = d :=
      after_call_of_stale (fun others => ensureReady (objects ++ others))
        (e := .callee callee args) hstale
    rw [hsame, hphase]
  | resolveId | idOf | ensureReady => exact absurd trivial h
  | _ => exact hidle trivial

end Bridge

end HostBridge
