import HostBridge.Bridge.Registration
import HostBridge.Playground.Basic

/-!
# Members of the playground

The instance members of counters and doors, and static properties that hold a variable.

## Main definitions

- `Playground.Member` — the instance members, with their names and registrations
- `Playground.stored` — a static property with a variable behind it
-/

namespace HostBridge.Playground

/-- The type of counters. -/
abbrev counterType : Kind := .own .counter

/-- The type of doors. -/
abbrev doorType : Kind := .own .door

/-- Code that works on the state of the playground. -/
abbrev Act := HostM Playground

/-- The result of a 32-bit integer. -/
def int32 (n : Int32) : Outcome Playground := .value .int32 n

/-- The instance members of counters and doors. -/
inductive Member where
  | total
  | name
  | position
  | doubled
  | add
  | reset
  | twin
  | merge
  | isOpen
  | label
  | toggle
  | link
deriving DecidableEq, Repr

/-- The members with their usual names, each behind the name of its type. -/
def Member.named : List (String × Member) :=
  [("Counter.total", total), ("Counter.name", name), ("Counter.at", position),
    ("Counter.doubled", doubled), ("Counter.add", add), ("Counter.reset", reset),
    ("Counter.twin", twin), ("Counter.merge", merge), ("Door.open", isOpen),
    ("Door.label", label), ("Door.toggle", toggle), ("Door.link", link)]

/-- Adds the total of another counter. The answer is the new total, or a negative
    number where there is no counter or somebody has it alone. -/
def mergeInto (c : Counter) (other : Option ObjectRef) : Act (Outcome Playground × Counter) := do
  match other with
  | none => return (int32 (-1), c)
  | some ref =>
    match ← Host.readObject? counterType ref with
    | none => return (int32 (-2), c)
    | some other =>
      let total := c.total + other.total
      return (int32 total, { c with total })

/-- The number of a handle, or zero. -/
def handleNumber (h : Option Handle) : Int32 :=
  (h.map fun h => Int32.ofNat h.number).getD 0

/-- The registration of a member under a name. -/
def Member.registration (under : String) : Member → Registration Playground
  | total => .onObjects counterType under <| .property .int32
      (fun c => return c.total) (fun c total => return { c with total })
  | name => .onObjects counterType under <| .property .string
      (fun c => return c.name) (fun c name => return { c with name })
  | position => .onObjects counterType under <| .property (.struct (.own .point))
      (fun c => return c.position) (fun c position => return { c with position })
  | doubled => .onObjects counterType under <| .getter
      fun c => return .value .int64 (c.total.toInt64 * 2)
  | add => .onObjects counterType under <| .method [.int32] fun c (n, ()) =>
      let total := c.total + n
      return (int32 total, { c with total })
  | reset => .onObjects counterType under <| .method [] fun c () =>
      return (.unit, { c with total := 0 })
  | twin => .onObjects counterType under <| .method [] fun c () => do
      return (.shared counterType (← Host.newObject counterType c), c)
  | merge => .onObjects counterType under <| .method [.optShared counterType]
      fun c (other, ()) => mergeInto c other
  | isOpen => .onObjects doorType under <| .property .bool
      (fun d => return d.isOpen) (fun d isOpen => return { d with isOpen })
  | label => .onObjects doorType under <| .property .optString
      (fun d => return d.label) (fun d label => return { d with label })
  | toggle => .onObjects doorType under <| .method [] fun d () =>
      return (.value .bool !d.isOpen, { d with isOpen := !d.isOpen })
  | link => .onObjects doorType under <| .method [.optHandle] fun d (h, ()) =>
      return (int32 (handleNumber h), d)

/-- The value that a variable starts with: that of an empty slot. -/
def initial (v : ValueType Playground) : v.Carrier :=
  v.decode {} {} .null

/-- A static property whose value is the variable with a number. -/
def stored (id : Nat) (v : ValueType Playground) : StaticMember Playground :=
  .property v
    (do return ((← get).own.get? id v).getD (initial v))
    (fun value => modify fun host =>
      { host with own := World.set host.own id ⟨v, value⟩ })

end HostBridge.Playground
