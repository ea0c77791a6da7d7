import HostBridge.Codec.Field
import HostBridge.Text.CamelCase

/-!
# Struct values

A struct type lists its fields and has a default value. Its values are records of
those fields.

## Main definitions

- `Field`, `Record`, `Schema` — fields, values and struct types
- `Record.readLane`, `Record.writeLane`, `Record.writeJson?` — a field by its index
- `Record.document`, `Record.read?` — object notation, written and read strictly
-/

namespace HostBridge

/-- A field of a struct type. -/
structure Field where
  name : String
  type : FieldType
deriving DecidableEq, Repr

/-- The values of a list of fields. -/
def Record : List Field → Type
  | [] => Unit
  | f :: fs => f.type.Carrier × Record fs

namespace Record

/-- The record of zero fields. -/
def zero : (fs : List Field) → Record fs
  | [] => ()
  | f :: fs => (f.type.zero, zero fs)

/-- The lane form of a field; zero past the last one. -/
def readLane : (fs : List Field) → Record fs → Nat → Float32
  | [], _, _ => 0
  | ⟨_, .lane k⟩ :: _, (x, _), 0 => k.toLane x
  | _ :: _, _, 0 => 0
  | _ :: fs, (_, rest), i + 1 => readLane fs rest i

/-- Stores a lane into a field; nothing past the last one. -/
def writeLane : (fs : List Field) → Record fs → Nat → Float32 → Record fs
  | [], r, _, _ => r
  | ⟨_, .lane k⟩ :: _, (_, rest), 0, lane => (k.ofLane lane, rest)
  | _ :: _, r, 0, _ => r
  | _ :: fs, (x, rest), i + 1, lane => (x, writeLane fs rest i lane)

/-- Stores a value of object notation into a field, if it fits. -/
def writeJson? : (fs : List Field) → Record fs → Nat → Json.Value → Option (Record fs)
  | [], _, _, _ => none
  | ⟨_, .lane k⟩ :: _, (_, rest), 0, v => (k.ofJson? v).map fun x => (x, rest)
  | _ :: _, _, 0, _ => none
  | _ :: fs, (x, rest), i + 1, v => (writeJson? fs rest i v).map fun rest => (x, rest)

/-- The members of the object that is written for a record, in the order of the fields. -/
def memberDocuments : (fs : List Field) → Record fs → List (CodePoints × Json.Document)
  | [], _ => []
  | f :: fs, (x, rest) =>
    (CodePoints.ofString f.name, f.type.document x) :: memberDocuments fs rest

/-- What is written for a record. -/
def document (fs : List Field) (r : Record fs) : Json.Document :=
  .object (memberDocuments fs r)

/-- Reads the fields of a source from the given index on. No field may be missing. -/
def readFields? (s : Json.Source) : (fs : List Field) → (index : Nat) → Option (Record fs)
  | [], _ => some ()
  | f :: fs, index =>
    (s.field? index f.name f.type.read? none).bind fun x =>
      (readFields? s fs (index + 1)).map fun rest => (x, rest)

/-- Reads a record strictly. -/
def read? (fs : List Field) (t : Json.Tree) : Option (Record fs) :=
  (Json.Source.ofTree? fs.length t).bind fun s => readFields? s fs 0

end Record

/-- A struct type: its name for diagnostics, its fields and its default value. -/
structure Schema where
  name : String
  fields : List Field
  default : Record fields

namespace Schema

/-- A struct type all of whose fields are zero by default. -/
def ofFields (name : String) (fields : List Field) : Schema :=
  ⟨name, fields, Record.zero fields⟩

/-- The values of a struct type. -/
abbrev Value (s : Schema) : Type := Record s.fields

/-- The fields that pack into lanes: all of them if all are numeric, otherwise none. -/
def laneFields (s : Schema) : List Field :=
  if s.fields.all (·.type.laneKind?.isSome) then s.fields else []

end Schema

end HostBridge
