import HostBridge.Binding.Handler
import HostBridge.Text.Utf8

/-!
# Registrations

What a host registers: members of its objects, members of its types and of
namespaces that only scripts know, names of types, and codecs of struct types.

## Main definitions

- `InstanceMember`, `HostFunction`, `StaticMember` — members, and the handlers that serve them
- `Registration` — one registration
-/

namespace HostBridge

variable {ε : Type} [Embedding ε]

/-- A member of the objects of a host type. -/
inductive InstanceMember (ε : Type) [Embedding ε] (t : HostType ε) where
  | property (v : ValueType ε) (read : t.State → HostM ε v.Carrier)
      (write : t.State → v.Carrier → HostM ε t.State)
  | getter (read : t.State → HostM ε (Outcome ε))
  | method (params : List (ValueType ε))
      (act : t.State → Args params → HostM ε (Outcome ε × t.State))

/-- The handlers that serve a member, each with the kind of its calls. -/
def InstanceMember.handlers {t : HostType ε} :
    InstanceMember ε t → List (CallKind × Handler ε)
  | property v read write =>
    [(.get, .getter t fun state => return .value v (← read state)), (.set, .setter t v write)]
  | getter read => [(.get, .getter t read)]
  | method params act => [(.method, .method t params act)]

/-- A function that works without an object. -/
structure HostFunction (ε : Type) [Embedding ε] where
  params : List (ValueType ε)
  act : Args params → HostM ε (Outcome ε)

/-- A member that needs no object. -/
inductive StaticMember (ε : Type) [Embedding ε] where
  | property (v : ValueType ε) (read : HostM ε v.Carrier) (write : v.Carrier → HostM ε Unit)
  | getter (read : HostM ε (Outcome ε))
  | method (f : HostFunction ε)

/-- The handlers that serve a member, each with the kind of its calls. -/
def StaticMember.handlers : StaticMember ε → List (CallKind × Handler ε)
  | property v read write =>
    [(.get, .function [] fun _ => return .value v (← read)), (.set, .assign v write)]
  | getter read => [(.get, .function [] fun _ => read)]
  | method f => [(.method, .function f.params f.act)]

/-- One registration. -/
inductive Registration (ε : Type) [Embedding ε] where
  /-- A member of the objects of a type, which is named on the way. -/
  | onObjects (t : HostType ε) (name : String) (member : InstanceMember ε t)
  /-- A member of a type itself, which is named on the way. -/
  | onType (t : HostType ε) (name : String) (member : StaticMember ε)
  /-- A member of a namespace. -/
  | onNamespace (typeName name : String) (member : StaticMember ε)
  /-- A further name of a type. -/
  | typeName (t : HostType ε) (name : String)
  /-- A packer and an unpacker. -/
  | codec (t : HostType ε) (pack : t.schema.Value → Slot) (unpack : Slot → Option t.schema.Value)
  /-- Packing into lanes. -/
  | packed (t : HostType ε)
  /-- A converter for object notation. -/
  | converter (t : HostType ε) (convert : Json.Members → t.schema.Value)

/-- The key of a member with a name. -/
def Key.ofName (owner : Owner (HostType ε)) (name : String) (kind : CallKind)
    (isStatic : Bool) : Key (HostType ε) :=
  ⟨owner, Key.memberHash (Text.utf8 name), kind, isStatic⟩

end HostBridge
