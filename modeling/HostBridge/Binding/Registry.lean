import HostBridge.Binding.Assoc
import HostBridge.Log

/-!
# Registry

The bindings of a host by key, the names by which scripts know host types, and the
namespaces that only scripts know. Later registrations win, except while built-in
bindings are installed: then those of the host stay.

## Main definitions

- `Registry` — bindings, type names and namespaces
- `Registry.insert`, `Registry.nameType`, `Registry.markNamespace` — registration
- `Registry.get?`, `Registry.member?`, `Registry.typeFor?`, `Registry.isNamespace` — views
- `Registry.keyByName?` — the key that a type name leads to
-/

namespace HostBridge

/-- What is bound under a key: a handler, and the name of the member. -/
structure Binding (β : Type) where
  member : String
  handler : β

/-- The bindings of a host. -/
structure Registry (τ β : Type) where
  bindings : List (Key τ × Binding β) := []
  /-- Host types by the hash of their names. -/
  typeNames : List (UInt32 × τ) := []
  /-- Hashes of the names of namespaces. -/
  namespaces : List UInt32 := []
  /-- While built-in bindings are installed, those of the host stay. -/
  keepExisting : Bool := false

namespace Registry

variable {τ β : Type} [DecidableEq τ]

/-- The binding of a key. -/
def binding? (r : Registry τ β) (key : Key τ) : Option (Binding β) :=
  Assoc.get? r.bindings key

/-- The handler bound under a key. -/
def get? (r : Registry τ β) (key : Key τ) : Option β :=
  (r.binding? key).map (·.handler)

/-- The name of the member bound under a key. -/
def member? (r : Registry τ β) (key : Key τ) : Option String :=
  (r.binding? key).map (·.member)

/-- Whether a key is bound. -/
def contains (r : Registry τ β) (key : Key τ) : Bool :=
  (r.binding? key).isSome

/-- The host type with the given name. -/
def typeFor? (r : Registry τ β) (hash : UInt32) : Option τ :=
  Assoc.get? r.typeNames hash

/-- Whether a name is that of a namespace. -/
def isNamespace (r : Registry τ β) (hash : UInt32) : Bool :=
  r.namespaces.contains hash

/-- Number of bindings. -/
def size (r : Registry τ β) : Nat :=
  r.bindings.length

/-- Binds a handler. -/
def insert (r : Registry τ β) (key : Key τ) (member : String) (handler : β) :
    Logged (Registry τ β) := do
  let bound := { r with bindings := Assoc.put r.bindings key ⟨member, handler⟩ }
  match r.binding? key with
  | none => return bound
  | some old =>
    if r.keepExisting then
      Logged.emit (.keptBinding old.member member)
      return r
    else
      if old.member = member then
        Logged.emit (.rebound member key.kind)
      else
        Logged.emit (.collision member old.member key.low)
      return bound

/-- Gives a host type a name. -/
def nameType (r : Registry τ β) (hash : UInt32) (t : τ) : Logged (Registry τ β) := do
  let named := { r with typeNames := Assoc.put r.typeNames hash t }
  match r.typeFor? hash with
  | none => return named
  | some old =>
    if r.keepExisting then
      return r
    else
      if old ≠ t then
        Logged.emit (.nameMoved hash)
      return named

/-- Marks a name as that of a namespace. -/
def markNamespace (r : Registry τ β) (hash : UInt32) : Registry τ β :=
  if r.isNamespace hash then r else { r with namespaces := r.namespaces ++ [hash] }

/-- Drops all bindings, names and namespaces. -/
def clear (r : Registry τ β) : Registry τ β :=
  { r with bindings := [], typeNames := [], namespaces := [] }

/-- The key that a type name leads to: that of the namespace with this name, if the
    member is static and bound there; otherwise that of the host type with this name. -/
def keyByName? (r : Registry τ β) (name : UInt32) (key : Owner τ → Key τ) (isStatic : Bool) :
    Option (Key τ) :=
  let namespaceKey := key (.named name)
  if isStatic && r.isNamespace name && r.contains namespaceKey then some namespaceKey
  else (r.typeFor? name).bind fun t =>
    if r.contains (key (.hostType t)) then some (key (.hostType t)) else none

/-- The diagnostic text of a registry. -/
def diagnostic (r : Registry τ β) : String :=
  "FastPathRegistry \x7b bindings: " ++ toString r.size ++ ", type_names: " ++
    toString r.typeNames.length ++ ", named_statics: " ++ toString r.namespaces.length ++ " \x7d"

end Registry

end HostBridge
