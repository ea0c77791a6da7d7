import HostBridge.Host.ValueType

/-!
# Playground

A small embedding with every kind of host type: object types, struct types that pack
into lanes and one that does not, and a type without any state. It shows how an
embedder describes its types, and the bridge is exercised with it.

## Main definitions

- `Playground` — the types, with their states and schemas
- `Counter`, `Door` — the states of its object types
- `Playground.kindOf?` — the host type with a name
- `Playground.World` — host state behind its bindings
-/

namespace HostBridge

/-- The types of the playground. -/
inductive Playground where
  | counter
  | door
  | marker
  | point
  | tint
  | cell
  | wide
  | stats
  | precise
  | names
  | single
  | empty
  | loadout
deriving DecidableEq, Repr

namespace Playground

/-- The name of a type. -/
def name : Playground → String
  | counter => "Counter"
  | door => "Door"
  | marker => "Marker"
  | point => "Point"
  | tint => "Tint"
  | cell => "Cell"
  | wide => "Wide"
  | stats => "Stats"
  | precise => "Precise"
  | names => "Names"
  | single => "Single"
  | empty => "Empty"
  | loadout => "Loadout"

/-- Fields of one type. -/
def fieldsOf (type : FieldType) (names : List String) : List Field :=
  names.map fun name => ⟨name, type⟩

/-- The fields of a struct type. -/
def fields : Playground → List Field
  | point => fieldsOf (.lane .float32) ["x", "y", "z"]
  | tint => fieldsOf (.lane .float32) ["r", "g", "b", "a"]
  | cell => fieldsOf (.lane .int32) ["grid_x", "grid_y"]
  | wide => fieldsOf (.lane .float32) ["a", "b", "c", "d", "e"]
  | stats => [⟨"health", .lane .int32⟩, ⟨"speed", .lane .float32⟩, ⟨"alive", .lane .bool⟩]
  | precise => fieldsOf (.lane .float64) ["lat", "lon", "alt_m"] ++ [⟨"fix", .lane .bool⟩]
  | names =>
    fieldsOf (.lane .float32) ["_private_field", "trailing_", "double__under", "mixed_2nd_part"]
  | single => [⟨"v", .lane .int32⟩]
  | loadout => [⟨"slots", .strings⟩, ⟨"count", .uint32⟩]
  | _ => []

/-- The schema of a struct type. -/
def schema (t : Playground) : Schema :=
  Schema.ofFields t.name t.fields

end Playground

/-- The state of a counter. -/
structure Counter where
  total : Int32 := 0
  name : String := ""
  position : Playground.point.schema.Value := Playground.point.schema.default

/-- The state of a door. -/
structure Door where
  isOpen : Bool := false
  label : Option String := none

namespace Playground

instance : HostTypes Playground where
  decEq := inferInstance
  name := name
  State
    | counter => Counter
    | door => Door
    | _ => Unit
  schema := schema

/-- A variable of some type behind a static property. -/
structure Variable where
  type : ValueType Playground
  value : type.Carrier

/-- Host state behind the bindings of the playground. -/
structure World where
  /-- The variables that have been set, by number; the last one set comes first. -/
  cells : List (Nat × Variable) := []
  /-- What the function `give` returns. -/
  given : Slot := .null
  /-- The arguments of each call of the function `record`. -/
  calls : List (List Slot) := []

/-- What code of the playground reports. -/
inductive Report where
  | done
  | clock (c : FrameClock)
  | word (n : UInt32)
  | number (x : Float32)
  | seed (n : UInt64)

instance : Embedding Playground where
  World := World
  Report := Report

/-- The host types of scripts in the playground. -/
abbrev Kind := HostType Playground

/-- All host types: those that every bridge has and those of the playground. -/
def kinds : List Kind :=
  [.clock, .screen, .transform, .color] ++
    [counter, door, marker, point, tint, cell, wide, stats, precise, names, single, empty,
      loadout].map .own

/-- The host type with a name. -/
def kindOf? (name : String) : Option Kind :=
  kinds.find? (·.name = name)

/-- The state that an object of a type starts with. -/
def blank : (t : Kind) → t.State
  | .clock => {}
  | .screen => {}
  | .transform => {}
  | .color => {}
  | .own counter => ({} : Counter)
  | .own door => ({} : Door)
  | .own marker => ()
  | .own point => ()
  | .own tint => ()
  | .own cell => ()
  | .own wide => ()
  | .own stats => ()
  | .own precise => ()
  | .own names => ()
  | .own single => ()
  | .own empty => ()
  | .own loadout => ()

/-- The value of a variable, if it has been set with the type. -/
def World.get? (w : World) (id : Nat) (t : ValueType Playground) : Option t.Carrier :=
  (w.cells.find? (·.1 = id)).bind fun (_, v) =>
    if h : v.type = t then some (h ▸ v.value) else none

/-- Sets a variable. -/
def World.set (w : World) (id : Nat) (v : Variable) : World :=
  { w with cells := (id, v) :: w.cells.filter (·.1 ≠ id) }

end Playground

end HostBridge
