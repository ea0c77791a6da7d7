import HostBridge.Proofs.Computation

/-!
# Result slots

A caller passes a slot for the result of a call, in which an earlier result may stand. Every way to
call empties it first. So the flag of a call and the slot after it tell the same as its result,
whatever stood in the slot: after a hit the result is in it, and after a miss it is empty.

## Main definitions

- `Bridge.reported` — the flag of a call and the slot after it, given the result
- `Bridge.Reports` — a call reports a result, whatever stood in the slot before
- `Bridge.run_callInto` — every call reports its result
-/

namespace HostBridge.Bridge

variable {ε : Type} [Embedding ε]

/-- The flag of a call and what stands in the slot after it, given its result. The slot is empty
    after a miss. -/
def reported : Option Slot → Bool × Slot
  | some slot => (true, slot)
  | none => (false, .null)

/-- A call reports a result, whatever stood in the slot before. -/
def Reports (code : CallM ε Bool) (result : BridgeM ε (Option Slot)) : Prop :=
  ∀ earlier : Slot, code.run earlier = reported <$> result

variable {code : CallM ε Bool} {result : BridgeM ε (Option Slot)}

/-- The result that a call reports is its result. -/
theorem Reports.result?_eq (h : Reports code result) : code.result? = result := by
  rw [CallM.result?, h, map_eq_pure_bind, bind_assoc]
  refine (congrArg (result >>= ·) (funext fun o => ?_)).trans (bind_pure result)
  cases o <;> rfl

theorem Reports.run_eq (h : Reports code result) (earlier : Slot) :
    code.run earlier = reported <$> code.result? := by
  rw [h.result?_eq]
  exact h earlier

-- ════════════════════════════════════════════════════════════════════════
-- Calls by names and by number
-- ════════════════════════════════════════════════════════════════════════

theorem run_invokeInto (handler : Handler ε) (target : Option ObjectRef) (args : List Slot) :
    (invokeInto handler target args).run .null = reported <$> invoke handler target args := by
  rw [invokeInto, StateT.run_bind, StateT.run_monadLift, monadLift_self, map_eq_pure_bind,
    bind_assoc]
  refine congrArg (invoke handler target args >>= ·) (funext fun o => ?_)
  cases o <;> rfl

theorem reports_dispatchInto (ready : BridgeM ε Unit) (q : Request ε) :
    Reports (dispatchInto ready q) (do
      ready
      match handler? (← get).registry q with
      | none =>
        log (.dispatchMiss q.summary)
        return none
      | some handler =>
        let result ← invoke handler q.target q.args
        if result.isNone then
          log (.handlerDeclined q.summary)
        return result) := by
  intro earlier
  simp only [dispatchInto, CallM.bridge, CallM.log, StateT.run_bind, StateT.run_set,
    StateT.run_lift, StateT.run_monadLift, monadLift_self, map_eq_pure_bind, bind_assoc, pure_bind]
  congr 1
  funext _
  congr 1
  funext d
  cases handler? d.registry q with
  | none => simp [reported]
  | some handler =>
    simp only [StateT.run_bind, run_invokeInto, map_eq_pure_bind, bind_assoc, pure_bind]
    congr 1
    funext o
    cases o <;> simp [reported]

theorem reports_dispatchByIdInto (ready : BridgeM ε Unit) (id : Int) (args : List Slot) :
    Reports (dispatchByIdInto ready id args) (do
      ready
      let b ← get
      match b.ids.key? id with
      | none =>
        log (.unknownId id)
        return none
      | some key =>
        match splitTarget? b.handles key.isStatic args with
        | none =>
          log (.noLiveTarget id)
          return none
        | some (target, args) =>
          match b.registry.get? key with
          | none =>
            log (.unboundId id)
            return none
          | some handler => invoke handler target args) := by
  intro earlier
  simp only [dispatchByIdInto, CallM.bridge, CallM.log, StateT.run_bind, StateT.run_set,
    StateT.run_lift, StateT.run_monadLift, monadLift_self, map_eq_pure_bind, bind_assoc, pure_bind]
  congr 1
  funext _
  congr 1
  funext d
  cases d.ids.key? id with
  | none => simp [reported]
  | some key =>
    cases hsplit : splitTarget? d.handles key.isStatic args with
    | none => simp [hsplit, reported]
    | some split =>
      cases hget : d.registry.get? key with
      | none => simp [hsplit, hget, reported]
      | some handler => simp [hsplit, hget, run_invokeInto]

/-- A call by a handle that is not live empties the slot all the same. -/
theorem reports_dispatchOnHandleInto (ready : Readiness ε) (handle : Handle) (member : String)
    (kind : CallKind) (args : List Slot) :
    Reports (dispatchOnHandleInto ready handle member kind args) (do
      match (← get).handles.entry? handle with
      | none => return none
      | some entry =>
        dispatch (ready [entry.object])
          { Request.onObject entry.owner entry.object member kind with args }) := by
  intro earlier
  simp only [dispatchOnHandleInto, CallM.bridge, StateT.run_bind, StateT.run_lift,
    map_eq_pure_bind, bind_assoc, pure_bind]
  congr 1
  funext d
  cases d.handles.entry? handle with
  | none => rfl
  | some entry =>
    rw [← map_eq_pure_bind]
    exact (reports_dispatchInto _ _).run_eq earlier

-- ════════════════════════════════════════════════════════════════════════
-- Calls in any form
-- ════════════════════════════════════════════════════════════════════════

variable (ready : Readiness ε) (args : List Slot)

theorem reports_callInto_buffers (typeName : Option (List UInt8)) (owner : Option (HostType ε))
    (member : List UInt8) (kind : CallKind) (isStatic : Bool) (handle : Option Handle) :
    Reports (callInto ready args (.buffers typeName owner member kind isStatic handle)) (do
      let target := handle.bind (← get).handles.resolve?
      dispatch (ready target.toList)
        { typeName, owner, member, kind, isStatic, target, args }) := by
  intro earlier
  simp only [callInto, CallM.bridge, StateT.run_bind, StateT.run_lift, map_eq_pure_bind,
    bind_assoc, pure_bind]
  congr 1
  funext d
  rw [← map_eq_pure_bind]
  exact (reports_dispatchInto _ _).run_eq earlier

/-- Every call reports its result, whatever stood in the slot before. -/
theorem run_callInto (callee : Callee ε) (earlier : Slot) :
    (callInto ready args callee).run earlier = reported <$> call ready args callee := by
  cases callee with
  | static => exact (reports_dispatchInto _ _).run_eq earlier
  | onHandle => exact (reports_dispatchOnHandleInto _ _ _ _ _).run_eq earlier
  | named space member kind isStatic target =>
    cases isStatic with
    | true => exact (reports_dispatchInto _ _).run_eq earlier
    | false =>
      cases target with
      | none => exact (reports_dispatchInto _ _).run_eq earlier
      | some handle => exact (reports_dispatchOnHandleInto _ _ _ _ _).run_eq earlier
  | byId => exact (reports_dispatchByIdInto _ _ _).run_eq earlier
  | buffers => exact (reports_callInto_buffers _ _ _ _ _ _ _ _).run_eq earlier

end HostBridge.Bridge
