import HostBridge.Proofs.HandleGrowth
import HostBridge.Proofs.Miss

/-!
# What operations do to the handles

Of all that a host does with a bridge, lending and taking back reach the handle table, and of
what host code returns, only shared objects do. So the table after an operation is known from
the objects that the operation lends: those that the host registers, and those that an encoded
result brings along, be it of a call or of the host's own. An operation that gets the bridge
ready makes the uses of the initializer first.

## Main definitions

- `Outcome.lent`, `Entry.lent`, `Command.lent` — the shared objects that a result, a call and
  an operation register
- `Command.uses` — the uses that an operation makes of the handle table, in order
- `Bridge.readying` — those that getting ready makes

## Main statements

- `Bridge.handles_performWith`, `Bridge.handles_ensureReady` — these are all uses of the table
-/

namespace HostBridge

variable {ε : Type} [Embedding ε]

/-- An object as it is registered. -/
abbrev LentObject (ε : Type) := HandleEntry (HostType ε) ObjectRef

/-- A use of the handle table of a bridge. -/
abbrev HandleUse (ε : Type) := HandleTable.Use (HostType ε) ObjectRef

-- ════════════════════════════════════════════════════════════════════════
-- Results
-- ════════════════════════════════════════════════════════════════════════

/-- A shared object as it crosses. -/
def HostType.shares (t : HostType ε) (ref : ObjectRef) : LentObject ε :=
  ⟨ref, t, t.name⟩

/-- The shared objects in a result. -/
def Outcome.lent : Outcome ε → List (LentObject ε)
  | .shared t ref => [t.shares ref]
  | .value (.optShared t) (some ref) => [t.shares ref]
  | _ => []

theorem Handles.snd_lend (handles : Handles ε) (t : HostType ε) (ref : ObjectRef) :
    (handles.lend t ref).value.2 = handles.performAll [.register (t.shares ref)] := by
  rw [HandleTable.performAll_register, HostType.shares, lend]
  cases handles.register ⟨ref, t, t.name⟩ <;> rfl

/-- To encode a result registers the shared objects in it. -/
theorem Outcome.snd_encode (codecs : Codecs ε) (handles : Handles ε) (o : Outcome ε) :
    (o.encode codecs handles).value.2 = handles.performAll (o.lent.map .register) := by
  cases o with
  | unit | handle => rfl
  | shared t ref => exact Handles.snd_lend handles t ref
  | value t x =>
    cases t with
    | optShared t =>
      cases x with
      | none => rfl
      | some ref => exact Handles.snd_lend handles t ref
    | _ => rfl

-- ════════════════════════════════════════════════════════════════════════
-- Calls
-- ════════════════════════════════════════════════════════════════════════

/-- The shared objects in what the handler of a service returns. -/
def Service.lent (b : Bridge ε) (s : Service ε) : List (LentObject ε) :=
  match s.handler.run b.codecs b.handles s.target s.args b.host with
  | none => []
  | some (outcome, _) => outcome.lent

theorem Bridge.handles_serve (b : Bridge ε) (s? : Option (Service ε)) :
    (b.serve s?).2.handles =
      b.handles.performAll ((s?.elim [] (Service.lent b)).map .register) := by
  cases s? with
  | none => rfl
  | some s =>
    show (b.after (invoke s.handler s.target s.args)).handles = _
    rw [Option.elim_some, Service.lent]
    cases hrun : s.handler.run b.codecs b.handles s.target s.args b.host with
    | none => simp [after, invoke, hrun]
    | some result =>
      obtain ⟨outcome, host⟩ := result
      simp [after, invoke, hrun, Outcome.snd_encode]

namespace Entry

variable (ready : Readiness ε) (first : Bridge ε → List (HandleUse ε)) (b : Bridge ε) (e : Entry ε)

/-- The shared objects in what host code returns to a call. -/
def lent : List (LentObject ε) :=
  (e.service? ready b).elim [] (Service.lent (e.prepared ready b))

/-- The uses that a call makes while it gets the bridge ready. -/
def readied : List (HandleUse ε) :=
  match e.errand b with
  | .nothing => []
  | _ => first b

/-- The uses that a call makes of the handle table. -/
def uses : List (HandleUse ε) :=
  e.readied first b ++ (e.lent ready b).map .register

variable {ready first b}

theorem handles_prepared
    (hready : ∀ kept, (b.after (ready kept)).handles = b.handles.performAll (first b)) :
    (e.prepared ready b).handles = b.handles.performAll (e.readied first b) := by
  unfold prepared readied
  cases e.errand b with
  | nothing => rfl
  | byName q => exact hready q.target.toList
  | byId id args => exact hready []

theorem handles_call
    (hready : ∀ kept, (b.after (ready kept)).handles = b.handles.performAll (first b)) :
    (b.after (e.call ready)).handles = b.handles.performAll (e.uses ready first b) := by
  rw [e.after_call, Bridge.handles_serve, e.handles_prepared hready, uses,
    HandleTable.performAll_append]
  rfl

end Entry

-- ════════════════════════════════════════════════════════════════════════
-- Operations
-- ════════════════════════════════════════════════════════════════════════

/-- How a bridge gets ready while the host has the object behind a handle on loan. -/
def Readiness.during (ready : Readiness ε) (b : Bridge ε) (held : Handle) : Readiness ε :=
  fun others => ready ((b.handles.resolve? held).toList ++ others)

namespace Command

/-- The shared objects that an operation registers once the bridge is ready. -/
def lent (ready : Readiness ε) (b : Bridge ε) : Command ε → List (LentObject ε)
  | .call callee args => (Entry.callee callee args).lent ready b
  | .callHolding held loan callee args =>
    (Entry.callee callee args).lent (ready.during b held) (b.onLoan held loan)
  | .encode result => result.lent
  | .lend t state => [t.shares (b.answer (Bridge.withHost (Host.newObject t state)))]
  | .lendAgain t handle => (b.handles.resolveAs? t handle).toList.map t.shares
  | _ => []

/-- What an operation takes back. -/
def taken : Command ε → List (HandleUse ε)
  | .release handle => [.release handle]
  | .releaseAll => [.clear]
  | _ => []

/-- The uses that an operation makes while it gets the bridge ready. -/
def readied (first : Bridge ε → List (HandleUse ε)) (b : Bridge ε) :
    Command ε → List (HandleUse ε)
  | .call callee args => (Entry.callee callee args).readied first b
  | .callHolding held loan callee args =>
    (Entry.callee callee args).readied first (b.onLoan held loan)
  | .resolveId .. => first b
  | .idOf .. => first b
  | .ensureReady => first b
  | _ => []

/-- The uses that an operation makes of the handle table, in order. -/
def uses (ready : Readiness ε) (first : Bridge ε → List (HandleUse ε)) (b : Bridge ε)
    (c : Command ε) : List (HandleUse ε) :=
  c.readied first b ++ (c.taken ++ (c.lent ready b).map .register)

end Command

namespace Bridge

variable {ready : Readiness ε} {first : Bridge ε → List (HandleUse ε)} (b : Bridge ε)

theorem handles_lendObject (t : HostType ε) (object : ObjectRef) :
    (b.after (lendObject t object)).handles =
      b.handles.performAll [.register (t.shares object)] := by
  rw [HandleTable.performAll_register, HostType.shares, lendObject, after_modifyGet]
  cases b.handles.register ⟨object, t, t.name⟩ <;> rfl

theorem handles_register (r : Registration ε) :
    (b.after (register r)).handles = b.handles := by
  rw [after_register]

theorem handles_assignId (key : Key (HostType ε)) :
    (b.after (assignId key)).handles = b.handles := by
  obtain ⟨ids, hids⟩ := exists_ids_assignId b key
  rw [hids]

/-- To ask for a number does nothing to the handles but what getting ready does. -/
theorem handles_resolveId (ready : BridgeM ε Unit) (space member : String) (kind : CallKind)
    (isStatic : Bool) :
    (b.after (resolveId ready space member kind isStatic)).handles = (b.after ready).handles := by
  simp only [resolveId, after_bind, after_get, answer_get]
  split
  · exact handles_assignId _ _
  · rfl

theorem handles_idOf (ready : BridgeM ε Unit) (t : HostType ε) (member : String)
    (kind : CallKind) (isStatic : Bool) :
    (b.after (idOf ready t member kind isStatic)).handles = (b.after ready).handles := by
  show ((b.after ready).after
    (if (b.after ready).registry.contains (.ofName (.hostType t) member kind isStatic) then
      assignId (.ofName (.hostType t) member kind isStatic)
    else pure (.error (.unknownBinding (bindingText t.name member kind))))).handles = _
  split
  · exact handles_assignId _ _
  · rfl

theorem phase_onLoan (held : Handle) (loan : Loan) : (b.onLoan held loan).phase = b.phase := by
  obtain ⟨host, hlent⟩ := b.exists_host_onLoan held loan
  rw [hlent]

theorem handles_onLoan (held : Handle) (loan : Loan) :
    (b.onLoan held loan).handles = b.handles := by
  obtain ⟨host, hlent⟩ := b.exists_host_onLoan held loan
  rw [hlent]

theorem handles_holding {α : Type} (held : Handle) (loan : Loan)
    (code : List ObjectRef → BridgeM ε α) :
    (b.after (holding held loan code)).handles =
      ((b.onLoan held loan).after (code (b.handles.resolve? held).toList)).handles := by
  obtain ⟨host, hafter⟩ := b.exists_host_holding held loan code
  rw [hafter]

/-- An operation makes its uses of the handle table, if getting ready makes its own. -/
theorem handles_performWith
    (hready : ∀ kept (d : Bridge ε), d.phase = b.phase →
      (d.after (ready kept)).handles = d.handles.performAll (first d))
    (kept : List ObjectRef) (c : Command ε) :
    (b.after (performWith ready kept c)).handles =
      b.handles.performAll (c.uses ready first b) := by
  cases c with
  | call callee args =>
    exact (Entry.callee callee args).handles_call fun kept => hready kept b rfl
  | callHolding held loan callee args =>
    have hcall := (Entry.callee callee args).handles_call (b := b.onLoan held loan)
      fun others => hready ((b.handles.resolve? held).toList ++ others) _
        (b.phase_onLoan held loan)
    rw [handles_onLoan] at hcall
    have hsplit : b.after (performWith ready kept (.callHolding held loan callee args)) =
        b.after (holding held loan fun objects =>
          call (fun others => ready (objects ++ others)) args callee) := rfl
    rw [hsplit, handles_holding]
    exact hcall
  | register r => exact handles_register b r
  | registerWithId space name f =>
    have hsplit : b.after (performWith ready kept (.registerWithId space name f)) =
        (b.after (register (.onNamespace space name (.method f)))).after
          (assignId (.ofName (.named (NameHash.ofText space)) name .method true)) := rfl
    rw [hsplit, handles_assignId, handles_register]
    rfl
  | resolveId space member kind isStatic =>
    refine ((handles_resolveId b _ space member kind isStatic).trans (hready [] b rfl)).trans ?_
    exact congrArg _ (List.append_nil _).symm
  | idOf t member kind isStatic =>
    refine ((handles_idOf b _ t member kind isStatic).trans (hready [] b rfl)).trans ?_
    exact congrArg _ (List.append_nil _).symm
  | ensureReady =>
    refine (hready [] b rfl).trans ?_
    exact congrArg _ (List.append_nil _).symm
  | encode result => exact Outcome.snd_encode b.codecs b.handles result
  | lend t state => exact handles_lendObject _ t _
  | lendAgain t handle =>
    simp only [performWith, after_bind, after_get, answer_get, Command.uses, Command.readied,
      Command.taken, Command.lent, List.nil_append]
    cases b.handles.resolveAs? t handle with
    | none => rfl
    | some object => exact handles_lendObject b t object
  | hasBinding | decode | codecInfo | pack | unpack | release | releaseAll | inspect | diagnostic
    | clear | setInitializer | act => rfl

-- ════════════════════════════════════════════════════════════════════════
-- Getting ready
-- ════════════════════════════════════════════════════════════════════════

/-- The uses that operations make one after the other while a bridge gets ready. -/
def usesAll (b : Bridge ε) : List (Command ε) → List (HandleUse ε)
  | [] => []
  | c :: cs =>
    c.uses (fun _ => pure ()) (fun _ => []) b ++
      usesAll (b.after (performWith (fun _ => pure ()) [] c)) cs

/-- The uses that getting ready makes: those of the initializer. -/
def readying (b : Bridge ε) : List (HandleUse ε) :=
  match b.phase, b.initializer with
  | .uninitialized, some i => b.begun.usesAll i.commands
  | _, _ => []

theorem handles_performAllWith (kept : List ObjectRef) (cs : List (Command ε)) :
    (b.after (performAllWith (fun _ => pure ()) kept cs)).handles =
      b.handles.performAll (b.usesAll cs) := by
  induction cs generalizing b with
  | nil => rfl
  | cons c cs ih =>
    have hsplit : b.after (performAllWith (fun _ => pure ()) kept (c :: cs)) =
        (b.after (performWith (fun _ => pure ()) kept c)).after
          (performAllWith (fun _ => pure ()) kept cs) := rfl
    have hfirst : (b.after (performWith (fun _ => pure ()) [] c)).handles =
        b.handles.performAll (c.uses (fun _ => pure ()) (fun _ => []) b) :=
      handles_performWith b (fun _ _ _ => rfl) [] c
    rw [hsplit, after_performWith_kept b kept [], ih, hfirst, usesAll,
      HandleTable.performAll_append]

theorem readying_of_settled {b : Bridge ε} (h : b.Settled) : b.readying = [] := by
  unfold readying
  split
  · next hphase _ => exact absurd hphase h
  · rfl

theorem handles_ensureReady (kept : List ObjectRef) :
    (b.after (ensureReady kept)).handles = b.handles.performAll b.readying := by
  by_cases hs : b.Settled
  · rw [after_ensureReady_of_settled hs, readying_of_settled hs]
    rfl
  · have hphase : b.phase = .uninitialized := Decidable.not_not.mp hs
    unfold readying
    cases hinit : b.initializer with
    | none =>
      rw [after_ensureReady_of_none hphase hinit, hphase]
      rfl
    | some i =>
      obtain ⟨replies, hinstall⟩ := exists_replies_after_install b.begun kept i
      rw [after_ensureReady_of_some hphase hinit, hinstall, hphase]
      exact handles_performAllWith b.begun kept i.commands

end Bridge

end HostBridge
