/-!
# Shared objects

The host objects that exist, each of one type. While host code works on an object, the
object is lent to it: any number of readers may share it, a writer has it alone.

## Main definitions

- `Loan` — whether and how an object is lent
- `Objects` — the objects, by reference
- `Objects.read?`, `Objects.write?` — the state of an object that is free enough
- `Objects.add`, `Objects.setLoan`, `Objects.store` — changes
-/

namespace HostBridge

/-- Whether and how an object is lent. -/
inductive Loan where
  | free
  | shared
  | exclusive
deriving DecidableEq, Repr

/-- A reference to a host object. -/
abbrev ObjectRef := Nat

/-- A host object. -/
structure Object (τ : Type) (State : τ → Type) where
  type : τ
  state : State type
  loan : Loan := .free

/-- The host objects that exist, by reference. -/
structure Objects (τ : Type) (State : τ → Type) where
  objects : List (Object τ State) := []

/-- The state of an object, if it is of the given type. -/
def Object.as? {τ : Type} [DecidableEq τ] {State : τ → Type} (o : Object τ State) (t : τ) :
    Option (State t) :=
  if h : o.type = t then some (h ▸ o.state) else none

namespace Objects

variable {τ : Type} [DecidableEq τ] {State : τ → Type}

/-- The object behind a reference. -/
def get? (o : Objects τ State) (ref : ObjectRef) : Option (Object τ State) :=
  o.objects[ref]?

/-- How an object is lent; an object that does not exist is free. -/
def loan (o : Objects τ State) (ref : ObjectRef) : Loan :=
  ((o.get? ref).map (·.loan)).getD .free

/-- The state of an object of the given type that no writer has. -/
def read? (o : Objects τ State) (t : τ) (ref : ObjectRef) : Option (State t) :=
  (o.get? ref).bind fun x => if x.loan = .exclusive then none else x.as? t

/-- The state of an object of the given type that nobody has. -/
def write? (o : Objects τ State) (t : τ) (ref : ObjectRef) : Option (State t) :=
  (o.get? ref).bind fun x => if x.loan = .free then x.as? t else none

/-- A new object and its reference. -/
def add (o : Objects τ State) (t : τ) (state : State t) : ObjectRef × Objects τ State :=
  (o.objects.length, ⟨o.objects ++ [{ type := t, state }]⟩)

/-- Lends an object or takes it back. -/
def setLoan (o : Objects τ State) (ref : ObjectRef) (loan : Loan) : Objects τ State :=
  ⟨o.objects.modify ref fun x => { x with loan }⟩

/-- Stores the state of an object of the given type and takes it back. -/
def store (o : Objects τ State) (t : τ) (ref : ObjectRef) (state : State t) : Objects τ State :=
  ⟨o.objects.modify ref fun x => if x.type = t then { type := t, state } else x⟩

end Objects

end HostBridge
