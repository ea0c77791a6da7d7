import HostBridge.Handle.Table
import HostBridge.Host.Basic
import HostBridge.Slot.Basic

/-!
# Types of arguments and results

The types that host code declares for its arguments and results. The type of an
argument says how a slot decodes, the type of a result how it is encoded.

## Main definitions

- `ValueType` and `ValueType.Carrier` — the types of arguments, and their values
- `Args` — the values of a list of arguments
- `Outcome` — the result of host code
-/

namespace HostBridge

/-- The type of an argument. -/
inductive ValueType (ε : Type) where
  | bool
  | int32
  | uint32
  | int64
  | uint64
  | float32
  | float64
  | string
  | optString
  | vec2
  | vec3
  | vec4
  | quat
  /-- The slot itself. -/
  | slot
  /-- A struct value. -/
  | struct (t : HostType ε)
  | optHandle
  /-- A shared object of a type, or none. -/
  | optShared (t : HostType ε)
deriving DecidableEq

namespace ValueType

variable {ε : Type} [HostTypes ε]

/-- The values of a type. -/
abbrev Carrier : ValueType ε → Type
  | bool => Bool
  | int32 => Int32
  | uint32 => UInt32
  | int64 => Int64
  | uint64 => UInt64
  | float32 => Float32
  | float64 => Float
  | string => String
  | optString => Option String
  | vec2 => Vec2
  | vec3 => Vec3
  | vec4 => Vec4
  | quat => Quat
  | slot => Slot
  | struct t => t.schema.Value
  | optHandle => Option Handle
  | optShared _ => Option ObjectRef

end ValueType

variable {ε : Type}

/-- The values of a list of arguments. -/
def Args [HostTypes ε] : List (ValueType ε) → Type
  | [] => Unit
  | t :: ts => t.Carrier × Args ts

/-- The result of host code. A shared object crosses under a fresh handle. -/
inductive Outcome (ε : Type) [Embedding ε] where
  | unit
  | value (t : ValueType ε) (x : t.Carrier)
  | handle (h : Handle)
  | shared (t : HostType ε) (ref : ObjectRef)

/-- The host objects that are lent to scripts. -/
abbrev Handles (ε : Type) := HandleTable (HostType ε) ObjectRef

end HostBridge
