import HostBridge.Proofs.Service

/-!
# Every way to make a call

A host makes a call by a request or in one of the forms that scripts use. Before the
bridge gets ready a form is reduced to an *errand*: a call by names, a call by number, or
nothing at all if the handle that it needs is not live. What an errand does afterwards
does not depend on the form that it comes from.

## Main definitions

- `Errand` — what a call is up to before the bridge gets ready
- `Entry` — every way to make a call
- `Entry.prepared`, `Entry.service?` — the bridge that is ready for a call, and what serves
  the call there
- `Entry.outcome_call` — this is all that a call does
- `Entry.handle?`, `Entry.target?`, `Entry.isStatic?` — what a call says about its target
-/

namespace HostBridge

variable {ε : Type} [Embedding ε]

/-- What a call is up to before the bridge gets ready. -/
inductive Errand (ε : Type) [Embedding ε] where
  /-- The call is a miss right away; the bridge does not even get ready. -/
  | nothing
  | byName (q : Request ε)
  | byId (id : Int) (args : List Slot)

namespace Errand

/-- The bridge that is ready for an errand. -/
def prepared (ready : Readiness ε) (b : Bridge ε) : Errand ε → Bridge ε
  | nothing => b
  | byName q => b.after (ready q.target.toList)
  | byId .. => b.after (ready [])

/-- What serves an errand on a bridge that is ready for it. -/
def service? (b : Bridge ε) : Errand ε → Option (Service ε)
  | nothing => none
  | byName q => b.serviceByName? q
  | byId id args => b.serviceById? id args

/-- The errand for a member of the object behind a handle. -/
def onHandle (b : Bridge ε) (handle : Handle) (member : String) (kind : CallKind)
    (args : List Slot) : Errand ε :=
  match b.handles.entry? handle with
  | none => nothing
  | some entry => byName { Request.onObject entry.owner entry.object member kind with args }

theorem onHandle_eq_nothing_iff {b : Bridge ε} {handle : Handle} {member : String}
    {kind : CallKind} {args : List Slot} :
    onHandle b handle member kind args = nothing ↔ b.handles.entry? handle = none := by
  unfold onHandle
  split
  · next hnone => exact iff_of_true rfl hnone
  · next entry hentry =>
    rw [hentry]
    exact iff_of_false (fun h => nomatch h) (Option.some_ne_none entry)

end Errand

/-- The errand of a call in a form that scripts use. -/
def Callee.errand (b : Bridge ε) (args : List Slot) : Callee ε → Errand ε
  | static typeName member kind =>
    .byName { Request.byName typeName member kind true with args }
  | onHandle handle member kind => .onHandle b handle member kind args
  | named typeName member kind true _ =>
    .byName { Request.byName typeName member kind true with args }
  | named _ member kind false (some handle) => .onHandle b handle member kind args
  | named typeName member kind false none =>
    .byName { Request.byName typeName member kind false with args }
  | byId id => .byId id args
  | buffers typeName owner member kind isStatic handle =>
    .byName { typeName, owner, member, kind, isStatic, args
              target := handle.bind b.handles.resolve? }

/-- The handle by which a call names its target: that of the call itself, or the first
    argument of a call by number. -/
def Callee.handle? (args : List Slot) : Callee ε → Option Handle
  | static .. => none
  | onHandle handle .. => some handle
  | named _ _ _ isStatic handle => if isStatic then none else handle
  | byId _ => args.head?.bind Slot.handle?
  | buffers _ _ _ _ _ handle => handle

/-- Every way to make a call. -/
inductive Entry (ε : Type) [Embedding ε] where
  /-- A request of the host, which may have the target at hand. -/
  | request (q : Request ε)
  | callee (c : Callee ε) (args : List Slot)

namespace Entry

/-- Makes a call. A request keeps hold of its target while the bridge gets ready. -/
def callInto (ready : Readiness ε) : Entry ε → CallM ε Bool
  | request q => Bridge.dispatchInto (ready q.target.toList) q
  | callee c args => Bridge.callInto ready args c

/-- The result of a call. -/
def call (ready : Readiness ε) : Entry ε → BridgeM ε (Option Slot)
  | request q => Bridge.dispatch (ready q.target.toList) q
  | callee c args => Bridge.call ready args c

/-- The errand of a call. -/
def errand (b : Bridge ε) : Entry ε → Errand ε
  | request q => .byName q
  | callee c args => c.errand b args

variable (e : Entry ε) (ready : Readiness ε) (b : Bridge ε)

/-- The bridge that is ready for a call. -/
def prepared : Bridge ε :=
  (e.errand b).prepared ready b

/-- What serves a call that is made on a bridge. -/
def service? : Option (Service ε) :=
  (e.errand b).service? (e.prepared ready b)

/-- Whether a call is for a static member. A call by number is for what its key says,
    and for nothing if there is no key. -/
def isStatic? : Entry ε → Option Bool
  | request q => some q.isStatic
  | callee (.static ..) _ => some true
  | callee (.onHandle ..) _ => some false
  | callee (.named _ _ _ isStatic _) _ => some isStatic
  | callee (.byId id) _ => ((b.after (ready [])).ids.key? id).map (·.isStatic)
  | callee (.buffers _ _ _ _ isStatic _) _ => some isStatic

/-- The handle by which a call names its target. -/
def handle? : Entry ε → Option Handle
  | request _ => none
  | callee c args => c.handle? args

/-- The bridge on which the handle of a call is resolved: that on which the call is made,
    or for a call by number the one that is ready for it. -/
def resolving : Entry ε → Bridge ε
  | callee (.byId _) _ => b.after (ready [])
  | _ => b

/-- The object that a call supplies as its target. -/
def target? : Entry ε → Option ObjectRef
  | request q => q.target
  | callee c args =>
    (c.handle? args).bind ((callee c args).resolving ready b).handles.resolve?

-- ════════════════════════════════════════════════════════════════════════
-- All that a call does
-- ════════════════════════════════════════════════════════════════════════

/-- A call reports its result, whatever stands in the slot before. -/
theorem run_callInto (earlier : Slot) :
    (e.callInto ready).run earlier = Bridge.reported <$> e.call ready := by
  cases e with
  | request q => exact (Bridge.reports_dispatchInto _ q).run_eq earlier
  | callee c args => exact Bridge.run_callInto ready args c earlier

theorem outcome_dispatchOnHandle (handle : Handle) (member : String) (kind : CallKind)
    (args : List Slot) :
    b.outcome (Bridge.dispatchOnHandle ready handle member kind args) =
      ((Errand.onHandle b handle member kind args).prepared ready b).serve
        ((Errand.onHandle b handle member kind args).service?
          ((Errand.onHandle b handle member kind args).prepared ready b)) := by
  rw [Bridge.dispatchOnHandle,
    (Bridge.reports_dispatchOnHandleInto ready handle member kind args).result?_eq]
  unfold Errand.onHandle
  cases hentry : b.handles.entry? handle with
  | none =>
    simp [Bridge.outcome, hentry, Errand.prepared, Errand.service?, Bridge.serve]
  | some entry =>
    simp only [Bridge.outcome, Bridge.answer_bind, Bridge.after_bind, Bridge.answer_get,
      Bridge.after_get, hentry]
    exact Bridge.outcome_dispatch b _ _

/-- A call, whatever its form, gets the bridge ready and has what serves it there serve
    it. This is all that it does. -/
theorem outcome_call :
    b.outcome (e.call ready) = (e.prepared ready b).serve (e.service? ready b) := by
  cases e with
  | request q => exact Bridge.outcome_dispatch b _ q
  | callee c args =>
    cases c with
    | static space member kind => exact Bridge.outcome_dispatch b _ _
    | onHandle handle member kind => exact outcome_dispatchOnHandle ready b handle member kind args
    | named space member kind isStatic handle =>
      cases isStatic with
      | true => exact Bridge.outcome_dispatch b _ _
      | false =>
        cases handle with
        | none => exact Bridge.outcome_dispatch b _ _
        | some handle => exact outcome_dispatchOnHandle ready b handle member kind args
    | byId id => exact Bridge.outcome_dispatchById b _ id args
    | buffers =>
      rw [call, Bridge.call, (Bridge.reports_callInto_buffers ready args _ _ _ _ _ _).result?_eq]
      exact Bridge.outcome_dispatch b _ _

theorem answer_call :
    b.answer (e.call ready) = ((e.prepared ready b).serve (e.service? ready b)).1 :=
  congrArg Prod.fst (e.outcome_call ready b)

theorem after_call :
    b.after (e.call ready) = ((e.prepared ready b).serve (e.service? ready b)).2 :=
  congrArg Prod.snd (e.outcome_call ready b)

variable {e ready b}

/-- What serves a call is bound on the bridge that is ready for it, and accepts its target. -/
theorem bound_of_service? {s : Service ε} (h : e.service? ready b = some s) :
    (e.prepared ready b).registry.get? s.key = some s.handler ∧
      s.handler.admits (e.prepared ready b).host.objects s.target = true := by
  unfold service? at h
  cases herrand : e.errand b with
  | nothing =>
    rw [herrand] at h
    exact absurd h (by simp [Errand.service?])
  | byName q =>
    rw [herrand] at h
    exact (Bridge.of_serviceByName?_eq_some h).2.2.2
  | byId id args =>
    rw [herrand] at h
    exact (Bridge.of_serviceById?_eq_some h).2.2

/-- A call is a miss exactly if nothing serves it. -/
theorem answer_call_eq_none_iff :
    b.answer (e.call ready) = none ↔ e.service? ready b = none := by
  rw [answer_call]
  cases hservice : e.service? ready b with
  | none => exact iff_of_true rfl rfl
  | some s =>
    have hadmits := (bound_of_service? hservice).2
    have hanswers := Bridge.isSome_answer_invoke (e.prepared ready b) s.args hadmits
    exact iff_of_false (Option.isSome_iff_ne_none.mp hanswers) (Option.some_ne_none s)

end Entry

end HostBridge
