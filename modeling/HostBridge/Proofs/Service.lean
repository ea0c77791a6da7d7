import HostBridge.Proofs.ResultSlot
import HostBridge.Proofs.Registry

/-!
# What serves a call

A call gets the bridge ready, finds out what serves it, and has that serve it. What
serves it is a `Service`: a binding on the bridge that is ready, with the object and the
arguments that its handler is run on. `Bridge.serve` is the effect. A call that nothing
serves is a miss; no other host code runs on behalf of a call.

## Main definitions

- `Service` — a binding, and what its handler is run on
- `Bridge.serviceByName?`, `Bridge.serviceById?` — what serves a call
- `Bridge.serve` — the answer of a served call, and the bridge after it
-/

namespace HostBridge

variable {ε : Type} [Embedding ε]

/-- What serves a call: a binding, and what its handler is run on. -/
structure Service (ε : Type) [Embedding ε] where
  key : Key (HostType ε)
  handler : Handler ε
  target : Option ObjectRef
  args : List Slot

namespace Bridge

variable {α : Type} (b : Bridge ε)

/-- What a computation answers, and the bridge that it leaves. -/
def outcome (x : BridgeM ε α) : α × Bridge ε :=
  (b.answer x, b.after x)

/-- The handler under a key serves a call if it accepts the target. -/
def serviceAt? (key : Key (HostType ε)) (target : Option ObjectRef) (args : List Slot) :
    Option (Service ε) :=
  (b.registry.get? key).bind fun handler =>
    if handler.admits b.host.objects target then some ⟨key, handler, target, args⟩ else none

/-- What serves a call by names. -/
def serviceByName? (q : Request ε) : Option (Service ε) :=
  (lookup? b.registry q).bind fun key => b.serviceAt? key q.target q.args

/-- What serves a call by number. -/
def serviceById? (id : Int) (args : List Slot) : Option (Service ε) :=
  (b.ids.key? id).bind fun key =>
    (splitTarget? b.handles key.isStatic args).bind fun (target, args) =>
      b.serviceAt? key target args

/-- The answer of a call and the bridge after it, given what serves the call. -/
def serve : Option (Service ε) → Option Slot × Bridge ε
  | none => (none, b)
  | some s => b.outcome (invoke s.handler s.target s.args)

-- ════════════════════════════════════════════════════════════════════════
-- Handlers that accept and handlers that decline
-- ════════════════════════════════════════════════════════════════════════

/-- A handler that does not accept the target runs no host code: there is no answer, and
    the bridge is as it was. -/
theorem outcome_invoke_of_declines {handler : Handler ε} {target : Option ObjectRef}
    (args : List Slot) (h : handler.admits b.host.objects target = false) :
    b.outcome (invoke handler target args) = (none, b) := by
  have hrun : handler.run b.codecs b.handles target args b.host = none := by
    rw [← Option.not_isSome_iff_eq_none, Handler.run_isSome, h]
    exact Bool.false_ne_true
  simp [outcome, answer, after, invoke, hrun]

theorem isSome_answer_invoke {handler : Handler ε} {target : Option ObjectRef}
    (args : List Slot) (h : handler.admits b.host.objects target = true) :
    (b.answer (invoke handler target args)).isSome = true := by
  rw [← Handler.run_isSome b.codecs b.handles target args b.host handler] at h
  obtain ⟨⟨outcome, host⟩, hrun⟩ := Option.isSome_iff_exists.mp h
  simp [answer, invoke, hrun]

theorem outcome_invoke {key : Key (HostType ε)} {handler : Handler ε}
    (target : Option ObjectRef) (args : List Slot) (h : b.registry.get? key = some handler) :
    b.outcome (invoke handler target args) = b.serve (b.serviceAt? key target args) := by
  unfold serviceAt?
  rw [h, Option.bind_some]
  cases hadmits : handler.admits b.host.objects target with
  | true => rfl
  | false => exact outcome_invoke_of_declines b args hadmits

/-- What serves a call is bound, and its handler accepts the target. -/
theorem of_serviceAt?_eq_some {key : Key (HostType ε)} {target : Option ObjectRef}
    {args : List Slot} {s : Service ε} (h : b.serviceAt? key target args = some s) :
    s.key = key ∧ s.target = target ∧ s.args = args ∧
      b.registry.get? key = some s.handler ∧
      s.handler.admits b.host.objects target = true := by
  obtain ⟨handler, hget, h⟩ := Option.bind_eq_some_iff.mp h
  split at h
  · next hadmits =>
    obtain rfl := Option.some.inj h
    exact ⟨rfl, rfl, rfl, hget, hadmits⟩
  · exact absurd h (by simp)

-- ════════════════════════════════════════════════════════════════════════
-- Calls by names and by number
-- ════════════════════════════════════════════════════════════════════════

theorem contains_of_lookup? {registry : Registry (HostType ε) (Handler ε)} {q : Request ε}
    {key : Key (HostType ε)} (h : lookup? registry q = some key) :
    registry.contains key = true := by
  unfold lookup? at h
  split at h
  · split at h
    · next hc =>
      obtain rfl := Option.some.inj h
      exact hc
    · exact absurd h (by simp)
  · obtain ⟨name, -, h⟩ := Option.bind_eq_some_iff.mp h
    exact (Registry.keyByName?_cases registry h).1

/-- A call by names gets ready and runs the handler that it reaches. -/
theorem outcome_dispatch_eq (ready : BridgeM ε Unit) (q : Request ε) :
    b.outcome (dispatch ready q) =
      match handler? (b.after ready).registry q with
      | none => (none, b.after ready)
      | some handler => (b.after ready).outcome (invoke handler q.target q.args) := by
  rw [dispatch, (reports_dispatchInto ready q).result?_eq]
  cases hhandler : handler? (b.after ready).registry q with
  | none => simp [outcome, hhandler]
  | some handler =>
    -- A declined call is logged, which neither the answer nor the bridge shows.
    cases hres : (b.after ready).answer (invoke handler q.target q.args) <;>
      simp [outcome, hhandler, hres]

/-- A call by names gets ready and has its service serve it. -/
theorem outcome_dispatch (ready : BridgeM ε Unit) (q : Request ε) :
    b.outcome (dispatch ready q) =
      (b.after ready).serve ((b.after ready).serviceByName? q) := by
  rw [outcome_dispatch_eq]
  unfold serviceByName? handler?
  cases hkey : lookup? (b.after ready).registry q with
  | none => rfl
  | some key =>
    have hbound := contains_of_lookup? hkey
    obtain ⟨bound, hbound⟩ := Option.isSome_iff_exists.mp hbound
    have hget : (b.after ready).registry.get? key = some bound.handler := by
      simp [Registry.get?, hbound]
    rw [Option.bind_some, Option.bind_some, hget]
    exact outcome_invoke _ q.target q.args hget

theorem outcome_dispatchById (ready : BridgeM ε Unit) (id : Int) (args : List Slot) :
    b.outcome (dispatchById ready id args) =
      (b.after ready).serve ((b.after ready).serviceById? id args) := by
  rw [dispatchById, (reports_dispatchByIdInto ready id args).result?_eq]
  unfold serviceById?
  cases hkey : (b.after ready).ids.key? id with
  | none => simp [outcome, hkey, serve]
  | some key =>
    cases hsplit : splitTarget? (b.after ready).handles key.isStatic args with
    | none => simp [outcome, hkey, hsplit, serve]
    | some split =>
      obtain ⟨target, rest⟩ := split
      cases hget : (b.after ready).registry.get? key with
      | none => simp [outcome, hkey, hsplit, hget, serve, serviceAt?]
      | some handler =>
        have hserved := outcome_invoke (b.after ready) target rest hget
        simpa [outcome, hkey, hsplit, hget] using hserved

-- ════════════════════════════════════════════════════════════════════════
-- What a service tells about its call
-- ════════════════════════════════════════════════════════════════════════

/-- The key that a request reaches is that of its member under some owner; under the
    known type, if there is one. -/
theorem exists_key_of_lookup? {registry : Registry (HostType ε) (Handler ε)} {q : Request ε}
    {key : Key (HostType ε)} (h : lookup? registry q = some key) :
    ∃ owner, key = q.key owner ∧ ∀ t, q.owner = some t → owner = .hostType t := by
  unfold lookup? at h
  cases howner : q.owner with
  | some t =>
    simp only [howner] at h
    split at h
    · exact ⟨.hostType t, (Option.some.inj h).symm, fun u hu => by rw [Option.some.inj hu]⟩
    · exact absurd h (by simp)
  | none =>
    simp only [howner] at h
    obtain ⟨name, -, h⟩ := Option.bind_eq_some_iff.mp h
    rcases (Registry.keyByName?_cases registry h).2 with ⟨-, rfl⟩ | ⟨-, t, -, rfl⟩
    · exact ⟨_, rfl, fun _ hu => absurd hu (by simp)⟩
    · exact ⟨_, rfl, fun _ hu => absurd hu (by simp)⟩

variable {b}

/-- What serves a call by names is bound under a key of the request, and is run on the
    target and the arguments of the request. -/
theorem of_serviceByName?_eq_some {q : Request ε} {s : Service ε}
    (h : b.serviceByName? q = some s) :
    lookup? b.registry q = some s.key ∧ s.target = q.target ∧ s.args = q.args ∧
      b.registry.get? s.key = some s.handler ∧
      s.handler.admits b.host.objects s.target = true := by
  obtain ⟨key, hkey, hs⟩ := Option.bind_eq_some_iff.mp h
  obtain ⟨rfl, htarget, hargs, hget, hadmits⟩ := of_serviceAt?_eq_some b hs
  rw [← htarget] at hadmits
  exact ⟨hkey, htarget, hargs, hget, hadmits⟩

/-- What serves a call by number is bound under the key with the number, and is run on
    the target and the arguments that the key splits off. -/
theorem of_serviceById?_eq_some {id : Int} {args : List Slot} {s : Service ε}
    (h : b.serviceById? id args = some s) :
    b.ids.key? id = some s.key ∧
      splitTarget? b.handles s.key.isStatic args = some (s.target, s.args) ∧
      b.registry.get? s.key = some s.handler ∧
      s.handler.admits b.host.objects s.target = true := by
  obtain ⟨key, hkey, hs⟩ := Option.bind_eq_some_iff.mp h
  obtain ⟨⟨target, rest⟩, hsplit, hs⟩ := Option.bind_eq_some_iff.mp hs
  obtain ⟨rfl, rfl, rfl, hget, hadmits⟩ := of_serviceAt?_eq_some b hs
  exact ⟨hkey, hsplit, hget, hadmits⟩

omit [Embedding ε] in
/-- A call by number of an instance member has the object behind its first argument as
    its target. -/
theorem target_of_splitTarget? {handles : Handles ε} {args rest : List Slot}
    {target : Option ObjectRef} (h : splitTarget? handles false args = some (target, rest)) :
    target = (args.head?.bind Slot.handle?).bind handles.resolve? ∧ target.isSome = true ∧
      rest = args.tail := by
  cases args with
  | nil => exact absurd h (by simp [splitTarget?])
  | cons first args =>
    have hsplit : splitTarget? handles false (first :: args) =
        (first.handle?.bind handles.resolve?).map fun object => (some object, args) := rfl
    rw [hsplit] at h
    obtain ⟨object, hobject, h⟩ := Option.map_eq_some_iff.mp h
    obtain ⟨rfl, rfl⟩ := Prod.mk.inj h
    exact ⟨hobject.symm, rfl, rfl⟩

end Bridge

end HostBridge
