import HostBridge.Bridge.Call

/-!
# Life of a bridge

Before the first call a bridge runs its initializer, once. While the initializer runs,
what the host has registered stays. The initializer may itself use every public
operation; to get ready again while it runs does nothing.

## Main definitions

- `Bridge.register` — one registration
- `Bridge.performWith` — one public operation, given how the bridge gets ready
- `Bridge.ensureReady` — runs the initializer, if none has run
- `Bridge.perform` — one public operation
-/

namespace HostBridge.Bridge

variable {ε : Type} [Embedding ε]

/-- Binds the handlers of a member of a host type and names the type. -/
def bindOnType (t : HostType ε) (name : String) (isStatic : Bool) :
    List (CallKind × Handler ε) → BridgeM ε Unit
  | [] => pure ()
  | (kind, handler) :: rest => do
    withRegistry fun r => r.nameType (NameHash.ofText t.name) t
    withRegistry fun r => r.insert (.ofName (.hostType t) name kind isStatic) name handler
    bindOnType t name isStatic rest

/-- Binds the handlers of a member of a namespace and marks the namespace. -/
def bindOnNamespace (typeName name : String) : List (CallKind × Handler ε) → BridgeM ε Unit
  | [] => pure ()
  | (kind, handler) :: rest => do
    let owner := NameHash.ofText typeName
    withRegistry fun r => pure (r.markNamespace owner)
    withRegistry fun r => r.insert (.ofName (.named owner) name kind true) name handler
    bindOnNamespace typeName name rest

/-- Makes a registration. The answer is whether it was accepted, which only packing
    can fail to be. -/
def register : Registration ε → BridgeM ε Bool
  | .onObjects t name member => do
    bindOnType t name false member.handlers
    return true
  | .onType t name member => do
    bindOnType t name true member.handlers
    return true
  | .onNamespace typeName name member => do
    bindOnNamespace typeName name member.handlers
    return true
  | .typeName t name => do
    withRegistry fun r => r.nameType (NameHash.ofText name) t
    return true
  | .codec t pack unpack =>
    withCodecs fun table => do return (true, ← table.register t pack unpack)
  | .packed t => do
    let warn := (← get).config.warnOnLossy
    withCodecs fun table => table.registerPacked t warn
  | .converter t convert =>
    withCodecs fun table => pure (true, table.registerConverter t convert)

/-- Makes registrations one after the other. -/
def registerAll : List (Registration ε) → BridgeM ε Unit
  | [] => pure ()
  | r :: rest => do
    let _ ← register r
    registerAll rest

/-- The number of a key. -/
def assignId (key : Key (HostType ε)) : BridgeM ε (Except BridgeError Nat) :=
  modifyGet fun b =>
    match b.ids.assign key with
    | .ok (id, ids) => (.ok id, { b with ids })
    | .error e => (.error e, b)

/-- Registers a method of a namespace and gives it a number. -/
def registerWithId (typeName name : String) (f : HostFunction ε) :
    BridgeM ε (Except BridgeError Nat) := do
  let _ ← register (.onNamespace typeName name (.method f))
  assignId (.ofName (.named (NameHash.ofText typeName)) name .method true)

/-- Whether a member is bound, as things stand. -/
def hasBinding (b : Bridge ε) (typeName member : String) (kind : CallKind)
    (isStatic : Bool) : Bool :=
  (lookup? b.registry (Request.byName typeName member kind isStatic)).isSome

/-- How a binding is called in errors. -/
def bindingText (typeName member : String) (kind : CallKind) : String :=
  typeName ++ "." ++ member ++ " (" ++ kind.word ++ ")"

/-- Gives a number to the binding that a name leads to. -/
def resolveId (ready : BridgeM ε Unit) (typeName member : String) (kind : CallKind)
    (isStatic : Bool) : BridgeM ε (Except BridgeError Nat) := do
  ready
  match lookup? (← get).registry (Request.byName typeName member kind isStatic) with
  | some key => assignId key
  | none => return .error (.unknownBinding (bindingText typeName member kind))

/-- Gives a number to the binding of a member of a host type. -/
def idOf (ready : BridgeM ε Unit) (t : HostType ε) (member : String) (kind : CallKind)
    (isStatic : Bool) : BridgeM ε (Except BridgeError Nat) := do
  ready
  let key := Key.ofName (.hostType t) member kind isStatic
  if (← get).registry.contains key then assignId key
  else return .error (.unknownBinding (bindingText t.name member kind))

/-- Encodes a result. -/
def encode (result : Outcome ε) : BridgeM ε Slot := fun b => do
  let (slot, handles) ← result.encode b.codecs b.handles
  return (slot, { b with handles })

/-- Lends an object under a fresh handle. -/
def lendObject (t : HostType ε) (object : ObjectRef) : BridgeM ε (Except BridgeError Handle) :=
  modifyGet fun b =>
    match b.handles.register ⟨object, t, t.name⟩ with
    | .ok (h, handles) => (.ok h, { b with handles })
    | .error e => (.error e, b)

/-- Takes an object back. The answer is whether the handle was live. -/
def release (handle : Handle) : BridgeM ε Bool :=
  modifyGet fun b => (b.handles.contains handle, { b with handles := b.handles.release handle })

/-- The object behind a handle, if it is of one of the given types, and the number of
    references to it: its handles, and the calls that keep hold of it. -/
def inspect (b : Bridge ε) (kept : List ObjectRef) (handle : Handle) :
    List (HostType ε) → Option (Answer ε)
  | [] => none
  | t :: ts =>
    let found := (b.handles.resolveAs? t handle).bind fun ref =>
      ((b.host.objects.get? ref).bind fun object => object.as? t).map fun state =>
        Answer.object t state (b.handles.references ref + kept.count ref)
    match found with
    | some answer => some answer
    | none => inspect b kept handle ts

/-- Drops bindings, numbers and codecs; lent objects stay lent. -/
def clear (b : Bridge ε) : Bridge ε :=
  { b with registry := b.registry.clear, ids := {}, codecs := b.codecs.clear }

/-- Performs a public operation on a bridge that gets ready by `ready`, while calls
    under way keep hold of some objects. -/
def performWith (ready : Readiness ε) (kept : List ObjectRef) :
    Command ε → BridgeM ε (Answer ε)
  | .call callee args => return .called (← call ready args callee)
  | .callHolding held loan callee args =>
    return .called (← holding held loan fun objects =>
      call (fun others => ready (objects ++ others)) args callee)
  | .register r => return .truth (← register r)
  | .registerWithId typeName name f => return .bindingId (← registerWithId typeName name f)
  | .hasBinding typeName member kind isStatic =>
    return .truth ((← get).hasBinding typeName member kind isStatic)
  | .resolveId typeName member kind isStatic =>
    return .bindingId (← resolveId (ready []) typeName member kind isStatic)
  | .idOf t member kind isStatic => return .bindingId (← idOf (ready []) t member kind isStatic)
  | .encode result => return .slot (← encode result)
  | .decode t slot => do
    let b ← get
    return .value t (t.decode b.codecs b.handles slot)
  | .codecInfo t => do
    let codecs := (← get).codecs
    return .codec (codecs.hasHandler t) (codecs.strategy? t)
  | .pack t x => do
    let codecs := (← get).codecs
    return .packed (codecs.encode? t x) (codecs.encode t x)
  | .unpack t slot => do
    let codecs := (← get).codecs
    return .unpacked t (codecs.decode? t slot) (codecs.decode t slot)
  | .lend t state => do
    let object ← withHost (Host.newObject t state)
    return .handle (← lendObject t object).toOption
  | .lendAgain t handle => do
    match (← get).handles.resolveAs? t handle with
    | some object => return .handle (← lendObject t object).toOption
    | none => return .handle none
  | .release handle => return .truth (← release handle)
  | .releaseAll => do
    modify fun b => { b with handles := b.handles.clear }
    return .done
  | .inspect ts handle => return ((← get).inspect kept handle ts).getD .done
  | .diagnostic => return .text (← get).diagnostic
  | .clear => do
    modify clear
    return .done
  | .ensureReady => do
    ready []
    return .done
  | .setInitializer commands => do
    modify fun b => { b with initializer := some (.custom commands) }
    return .done
  | .act code => return .report (← withHost code)

/-- Performs operations one after the other. Each reply comes with the sizes of the
    tables. -/
def performAllWith (ready : Readiness ε) (kept : List ObjectRef) :
    List (Command ε) → BridgeM ε (List (Reply ε))
  | [] => return []
  | c :: rest => do
    let answer ← performWith ready kept c
    let census := (← get).census
    return ⟨answer, census⟩ :: (← performAllWith ready kept rest)

/-- Says whether existing registrations stay. -/
def setKeepExisting (keep : Bool) (b : Bridge ε) : Bridge ε :=
  { b with
    registry := { b.registry with keepExisting := keep }
    codecs := { b.codecs with keepExisting := keep } }

/-- Runs an initializer, while calls under way keep hold of some objects. The bridge is
    initializing meanwhile, so it does not get ready again. -/
def install (kept : List ObjectRef) : Initializer ε → BridgeM ε Unit
  | .bundled registrations => do
    registerAll registrations
    log (.builtinsInstalled (← get).registry.size)
  | .custom commands => do
    let replies ← performAllWith (fun _ => pure ()) kept commands
    modify fun b => { b with replies := b.replies ++ replies }

/-- Gets a bridge ready: runs its initializer, if the bridge has not been initialized. -/
def ensureReady : Readiness ε := fun kept => do
  if (← get).phase = .uninitialized then
    modify fun b => { b with phase := .initializing }
    if let some initializer := (← get).initializer then
      modify fun b => setKeepExisting true { b with initializer := none }
      install kept initializer
      modify (setKeepExisting false)
      let b ← get
      log (.bindingsReady b.registry.size b.codecs.size)
    modify fun b => { b with phase := .ready }

/-- Performs a public operation. -/
def perform (c : Command ε) : BridgeM ε (Reply ε) := do
  let answer ← performWith ensureReady [] c
  return ⟨answer, (← get).census⟩

end HostBridge.Bridge
