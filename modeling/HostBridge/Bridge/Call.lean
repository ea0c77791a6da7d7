import HostBridge.Bridge.Basic

/-!
# Calls

A call is looked up and then made. A call that finds no binding, and one whose
handler declines, is a miss: it has no result and changes nothing. Every way to call
first gets the bridge ready, by an action that is passed in. A call that knows its
target before that keeps hold of it meanwhile.

Callers pass a slot for the result, which may hold something from an earlier call. Every
way to call empties it before anything else. A caller that looks into it after a hit only
sees a result or none.

## Main definitions

- `Request` — a call as the registry sees it
- `Readiness` — how a bridge gets ready for a call
- `CallM` — calls, which answer whether they were a hit and have a slot for the result
- `Bridge.lookup?` — the binding that a request reaches
- `Bridge.dispatchInto`, `Bridge.dispatch` — a call by names
- `Bridge.dispatchByIdInto`, `Bridge.dispatchById` — a call by number
- `Bridge.callInto`, `Bridge.call` — a call in any form
-/

namespace HostBridge

variable {ε : Type} [Embedding ε]

/-- A call as the registry sees it. -/
structure Request (ε : Type) where
  typeName : Option (List UInt8) := none
  /-- The host type, where the caller knows it. -/
  owner : Option (HostType ε) := none
  member : List UInt8
  kind : CallKind
  isStatic : Bool
  target : Option ObjectRef := none
  args : List Slot := []

namespace Request

/-- The request for a member by name. -/
def byName (typeName member : String) (kind : CallKind) (isStatic : Bool) : Request ε where
  typeName := some (Text.utf8 typeName)
  member := Text.utf8 member
  kind := kind
  isStatic := isStatic

/-- The request for a member of an object. -/
def onObject (t : HostType ε) (object : ObjectRef) (member : String) (kind : CallKind) :
    Request ε where
  owner := some t
  member := Text.utf8 member
  kind := kind
  isStatic := false
  target := some object

/-- The key of the request's member under an owner. -/
def key (q : Request ε) (owner : Owner (HostType ε)) : Key (HostType ε) :=
  ⟨owner, Key.memberHash q.member, q.kind, q.isStatic⟩

/-- What diagnostics say about a request. -/
def summary (q : Request ε) : RequestSummary where
  typeName := q.typeName.map fun name => String.ofList (Text.decodeLossy name)
  member := String.ofList (Text.decodeLossy q.member)
  kind := q.kind
  isStatic := q.isStatic
  hasTarget := q.target.isSome
  args := q.args.length

end Request

/-- How a bridge gets ready for a call, given the objects that the call keeps hold of
    meanwhile, each as often as it does. -/
abbrev Readiness (ε : Type) [Embedding ε] := List ObjectRef → BridgeM ε Unit

/-- Calls, with the slot that the caller passes for the result. -/
abbrev CallM (ε : Type) [Embedding ε] := StateT Slot (BridgeM ε)

namespace CallM

/-- The bridge on which a call is made. -/
def bridge : CallM ε (Bridge ε) :=
  StateT.lift get

/-- Logs one event. -/
def log (e : Event) : CallM ε Unit :=
  StateT.lift (Bridge.log e)

/-- The result of a call, for a caller that looks into the slot after a hit only. -/
def result? (code : CallM ε Bool) : BridgeM ε (Option Slot) := do
  let (isHit, slot) ← code.run .null
  return if isHit then some slot else none

end CallM

namespace Bridge

/-- The key of the binding that a request reaches. A known host type is decisive;
    otherwise the name of the type leads to it. -/
def lookup? (registry : Registry (HostType ε) (Handler ε)) (q : Request ε) :
    Option (Key (HostType ε)) :=
  match q.owner with
  | some t => if registry.contains (q.key (.hostType t)) then some (q.key (.hostType t)) else none
  | none => q.typeName.bind fun name =>
    registry.keyByName? (NameHash.ofBytes name) q.key q.isStatic

/-- The handler that a request reaches. -/
def handler? (registry : Registry (HostType ε) (Handler ε)) (q : Request ε) :
    Option (Handler ε) :=
  (lookup? registry q).bind registry.get?

/-- Calls a handler and encodes its result; none if the handler declines. -/
def invoke (handler : Handler ε) (target : Option ObjectRef) (args : List Slot) :
    BridgeM ε (Option Slot) := fun b =>
  match handler.run b.codecs b.handles target args b.host with
  | none => return (none, b)
  | some (outcome, host) => do
    let (slot, handles) ← outcome.encode b.codecs b.handles
    return (some slot, { b with host, handles })

/-- Calls a handler, and leaves its result in the slot unless it declines. -/
def invokeInto (handler : Handler ε) (target : Option ObjectRef) (args : List Slot) :
    CallM ε Bool := do
  match ← invoke handler target args with
  | none => return false
  | some slot =>
    set slot
    return true

/-- Makes a call by names. -/
def dispatchInto (ready : BridgeM ε Unit) (q : Request ε) : CallM ε Bool := do
  set Slot.null
  ready
  let b ← CallM.bridge
  match handler? b.registry q with
  | none =>
    CallM.log (.dispatchMiss q.summary)
    return false
  | some handler =>
    let isHit ← invokeInto handler q.target q.args
    if !isHit then
      CallM.log (.handlerDeclined q.summary)
    return isHit

/-- Calls a member of the object behind a handle; a handle that is not live is a miss
    right away. -/
def dispatchOnHandleInto (ready : Readiness ε) (handle : Handle) (member : String)
    (kind : CallKind) (args : List Slot) : CallM ε Bool := do
  let b ← CallM.bridge
  match b.handles.entry? handle with
  | none =>
    set Slot.null
    return false
  | some entry =>
    dispatchInto (ready [entry.object])
      { Request.onObject entry.owner entry.object member kind with args }

/-- What a call by number works on: its target, if the key is not static, and the
    arguments behind the target. None if the target is not live. -/
def splitTarget? (handles : Handles ε) (isStatic : Bool) (args : List Slot) :
    Option (Option ObjectRef × List Slot) :=
  if isStatic then some (none, args)
  else match args with
    | [] => none
    | first :: rest =>
      (first.handle?.bind handles.resolve?).map fun object => (some object, rest)

/-- Makes a call by number. The target of an instance member is the first argument. -/
def dispatchByIdInto (ready : BridgeM ε Unit) (id : Int) (args : List Slot) :
    CallM ε Bool := do
  set Slot.null
  ready
  let b ← CallM.bridge
  match b.ids.key? id with
  | none =>
    CallM.log (.unknownId id)
    return false
  | some key =>
    match splitTarget? b.handles key.isStatic args with
    | none =>
      CallM.log (.noLiveTarget id)
      return false
    | some (target, args) =>
      match b.registry.get? key with
      | none =>
        CallM.log (.unboundId id)
        return false
      | some handler => invokeInto handler target args

/-- Makes a call. An instance member that is called by name without a handle has no
    target. -/
def callInto (ready : Readiness ε) (args : List Slot) : Callee ε → CallM ε Bool
  | .static typeName member kind =>
    dispatchInto (ready []) { Request.byName typeName member kind true with args }
  | .onHandle handle member kind => dispatchOnHandleInto ready handle member kind args
  | .named typeName member kind true _ =>
    dispatchInto (ready []) { Request.byName typeName member kind true with args }
  | .named _ member kind false (some handle) =>
    dispatchOnHandleInto ready handle member kind args
  | .named typeName member kind false none =>
    dispatchInto (ready []) { Request.byName typeName member kind false with args }
  | .byId id => dispatchByIdInto (ready []) id args
  | .buffers typeName owner member kind isStatic target => do
    let b ← CallM.bridge
    let target := target.bind b.handles.resolve?
    dispatchInto (ready target.toList) { typeName, owner, member, kind, isStatic, target, args }

/-- The result of a call by names. -/
def dispatch (ready : BridgeM ε Unit) (q : Request ε) : BridgeM ε (Option Slot) :=
  (dispatchInto ready q).result?

/-- The result of a call of a member of the object behind a handle. -/
def dispatchOnHandle (ready : Readiness ε) (handle : Handle) (member : String)
    (kind : CallKind) (args : List Slot) : BridgeM ε (Option Slot) :=
  (dispatchOnHandleInto ready handle member kind args).result?

/-- The result of a call by number. -/
def dispatchById (ready : BridgeM ε Unit) (id : Int) (args : List Slot) :
    BridgeM ε (Option Slot) :=
  (dispatchByIdInto ready id args).result?

/-- The result of a call. -/
def call (ready : Readiness ε) (args : List Slot) (callee : Callee ε) :
    BridgeM ε (Option Slot) :=
  (callInto ready args callee).result?

/-- Does something while the host has the object behind a handle on loan, given the
    objects that the loan keeps hold of. -/
def holding {α : Type} (held : Handle) (loan : Loan) (code : List ObjectRef → BridgeM ε α) :
    BridgeM ε α := do
  match (← get).handles.resolve? held with
  | none => code []
  | some ref =>
    let before := (← get).host.objects.loan ref
    withHost do modify fun h => { h with objects := h.objects.setLoan ref loan }
    let a ← code [ref]
    withHost do modify fun h => { h with objects := h.objects.setLoan ref before }
    return a

end Bridge

end HostBridge
