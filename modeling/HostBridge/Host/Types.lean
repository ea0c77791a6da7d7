import HostBridge.Codec.Record
import HostBridge.Environment.Basic
import HostBridge.Spatial.Color
import HostBridge.Spatial.Transform

/-!
# Host types

The types that a host shares with scripts: those of the bundled bindings, and those
that an embedder adds. A host type has a name for scripts, a state for its shared
objects and, as a value, a schema.

## Main definitions

- `HostTypes`, `Embedding` — the types and the state that an embedder adds
- `HostType` — a host type
- `HostType.name`, `HostType.State`, `HostType.schema` — its name, objects and values
-/

namespace HostBridge

/-- The types that an embedder adds, told apart by `ε`. -/
class HostTypes (ε : Type) where
  decEq : DecidableEq ε
  /-- The name of a type for scripts. -/
  name : ε → String
  /-- The state of a shared object of a type. -/
  State : ε → Type
  /-- The fields of a value of a type. -/
  schema : ε → Schema

/-- What an embedder adds: types, and host state of its own. -/
class Embedding (ε : Type) extends HostTypes ε where
  /-- Host state behind the embedder's bindings. -/
  World : Type
  /-- What code of the embedder reports to itself. -/
  Report : Type

instance {ε : Type} [HostTypes ε] : DecidableEq ε := HostTypes.decEq

/-- A type that a host shares with scripts. -/
inductive HostType (ε : Type) where
  | clock
  | screen
  | transform
  | color
  | own (t : ε)
deriving DecidableEq

namespace Color

/-- Colors as struct values. -/
def schema : Schema where
  name := "Color"
  fields := ["r", "g", "b", "a"].map fun name => ⟨name, .lane .float32⟩
  default := ((1 : Float32), (1 : Float32), (1 : Float32), (1 : Float32), ())

/-- The color in a struct value. -/
def ofRecord : schema.Value → Color
  | (r, g, b, a, ()) => ⟨r, g, b, a⟩

/-- The struct value of a color. -/
def toRecord (c : Color) : schema.Value :=
  (c.r, c.g, c.b, c.a, ())

end Color

namespace HostType

variable {ε : Type} [HostTypes ε]

/-- The name of a type for scripts. -/
def name : HostType ε → String
  | clock => "FrameClock"
  | screen => "Screen"
  | transform => "Transform"
  | color => "Color"
  | own t => HostTypes.name t

/-- The state of a shared object of a type. -/
abbrev State : HostType ε → Type
  | clock => FrameClock
  | screen => Screen
  | transform => Transform
  | color => Color
  | own t => HostTypes.State t

/-- The fields of a value of a type; of the bundled types only colors are values. -/
def schema : HostType ε → Schema
  | color => Color.schema
  | own t => HostTypes.schema t
  | t => Schema.ofFields t.name []

end HostType

end HostBridge
