import HostBridge.Binding.Ids
import HostBridge.Binding.Registry
import HostBridge.Bridge.Registration

/-!
# The bridge

The bridge between a host and its scripts: what the host has registered, the objects
that it has lent, and the host state that handlers work on.

## Main definitions

- `Command`, `Answer` — the public operations as data, and what they answer
- `Bridge` — the state of a bridge
- `BridgeM` — computations on a bridge, which log
-/

namespace HostBridge

/-- Choices of the embedder. -/
structure BridgeConfig where
  /-- Whether the bundled bindings are installed. -/
  installBundled : Bool := true
  /-- Whether packing a type that does not fit is logged. -/
  warnOnLossy : Bool := true
deriving DecidableEq, Repr

/-- How far a bridge is in its life. -/
inductive Phase where
  | uninitialized
  | initializing
  | ready
deriving DecidableEq, Repr

/-- The name of a phase. -/
def Phase.name : Phase → String
  | uninitialized => "Uninitialized"
  | initializing => "Initializing"
  | ready => "Ready"

/-- What a call addresses. -/
inductive Callee (ε : Type) where
  /-- A static member by the name of its type. -/
  | static (typeName member : String) (kind : CallKind)
  /-- A member of the object behind a handle. -/
  | onHandle (handle : Handle) (member : String) (kind : CallKind)
  /-- A member by name; an instance member of the object behind the handle, if there is one. -/
  | named (typeName member : String) (kind : CallKind) (isStatic : Bool) (target : Option Handle)
  /-- A binding by its number. -/
  | byId (id : Int)
  /-- A member whose names are buffers, of a type that may be known already. -/
  | buffers (typeName : Option (List UInt8)) (owner : Option (HostType ε)) (member : List UInt8)
      (kind : CallKind) (isStatic : Bool) (target : Option Handle)

/-- The public operations. -/
inductive Command (ε : Type) [Embedding ε] where
  | call (callee : Callee ε) (args : List Slot)
  /-- A call during which the host has the object behind a handle on loan. -/
  | callHolding (held : Handle) (loan : Loan) (callee : Callee ε) (args : List Slot)
  | register (r : Registration ε)
  /-- Registers a method of a namespace and gives it a number. -/
  | registerWithId (typeName name : String) (f : HostFunction ε)
  | hasBinding (typeName member : String) (kind : CallKind) (isStatic : Bool)
  | resolveId (typeName member : String) (kind : CallKind) (isStatic : Bool)
  | idOf (t : HostType ε) (member : String) (kind : CallKind) (isStatic : Bool)
  | encode (result : Outcome ε)
  | decode (t : ValueType ε) (slot : Slot)
  | codecInfo (t : HostType ε)
  | pack (t : HostType ε) (x : t.schema.Value)
  | unpack (t : HostType ε) (slot : Slot)
  /-- Lends a new object. -/
  | lend (t : HostType ε) (state : t.State)
  /-- Lends an object that is lent already under another handle. -/
  | lendAgain (t : HostType ε) (handle : Handle)
  | release (handle : Handle)
  | releaseAll
  /-- Looks at the object behind a handle, if it is of one of the given types. -/
  | inspect (ts : List (HostType ε)) (handle : Handle)
  | diagnostic
  | clear
  | ensureReady
  | setInitializer (commands : List (Command ε))
  /-- Runs code of the embedder. -/
  | act (code : HostM ε (Embedding.Report ε))

/-- What an operation answers. -/
inductive Answer (ε : Type) [Embedding ε] where
  | done
  /-- The result of a call; a miss has none. -/
  | called (result : Option Slot)
  | truth (b : Bool)
  | bindingId (id : Except BridgeError Nat)
  | slot (s : Slot)
  | value (t : ValueType ε) (x : t.Carrier)
  | codec (handled : Bool) (strategy : Option Strategy)
  /-- What the codec of a type makes of a value, and what crosses in the end. -/
  | packed (byCodec : Option Slot) (slot : Slot)
  /-- What the codec of a type makes of a slot, and what it is read as in the end. -/
  | unpacked (t : HostType ε) (byCodec : Option t.schema.Value) (value : t.schema.Value)
  | handle (h : Option Handle)
  /-- An object and the number of references to it. -/
  | object (t : HostType ε) (state : t.State) (references : Nat)
  | text (s : String)
  | report (r : Embedding.Report ε)

/-- Sizes of the tables of a bridge. -/
structure Census where
  phase : Phase
  bindings : Nat
  codecs : Nat
  handles : Nat
deriving DecidableEq, Repr

/-- An answer and the sizes of the tables after the operation. -/
structure Reply (ε : Type) [Embedding ε] where
  answer : Answer ε
  census : Census

/-- What runs before the first call. -/
inductive Initializer (ε : Type) [Embedding ε] where
  /-- Installs the bundled bindings. -/
  | bundled (registrations : List (Registration ε))
  | custom (commands : List (Command ε))

/-- The state of a bridge. -/
structure Bridge (ε : Type) [Embedding ε] where
  config : BridgeConfig := {}
  registry : Registry (HostType ε) (Handler ε) := {}
  codecs : Codecs ε := {}
  handles : Handles ε := {}
  ids : BindingIds (Key (HostType ε)) := {}
  phase : Phase := .uninitialized
  initializer : Option (Initializer ε) := none
  /-- What the commands of the initializer answered. -/
  replies : List (Reply ε) := []
  host : Host ε

/-- Computations on a bridge, which log. -/
abbrev BridgeM (ε : Type) [Embedding ε] := StateT (Bridge ε) Logged

namespace Bridge

variable {ε : Type} [Embedding ε]

/-- Logs one event. -/
def log (e : Event) : BridgeM ε Unit :=
  StateT.lift (Logged.emit e)

/-- Changes the registry. -/
def withRegistry (f : Registry (HostType ε) (Handler ε) →
    Logged (Registry (HostType ε) (Handler ε))) : BridgeM ε Unit := fun b => do
  return ((), { b with registry := ← f b.registry })

/-- Changes the codecs. -/
def withCodecs {α : Type} (f : Codecs ε → Logged (α × Codecs ε)) : BridgeM ε α := fun b => do
  let (a, codecs) ← f b.codecs
  return (a, { b with codecs })

/-- Runs host code. -/
def withHost {α : Type} (code : HostM ε α) : BridgeM ε α :=
  modifyGet fun b =>
    let (a, host) := code.run b.host
    (a, { b with host })

/-- The sizes of the tables. -/
def census (b : Bridge ε) : Census :=
  ⟨b.phase, b.registry.size, b.codecs.size, b.handles.size⟩

/-- The diagnostic text of a bridge. -/
def diagnostic (b : Bridge ε) : String :=
  "InteropRuntime \x7b state: " ++ b.phase.name ++ ", registry: " ++ b.registry.diagnostic ++
    ", structs: StructRegistry \x7b types: " ++ toString b.codecs.codecs.length ++
    " \x7d, handles: " ++ toString b.handles.size ++ ", binding_ids: " ++
    toString b.ids.size ++ " \x7d"

end Bridge

end HostBridge
