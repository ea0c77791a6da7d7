import HostBridge.Codec.Packing
import HostBridge.Log

/-!
# Codec table

How the struct types of a host cross the boundary. A type may have a packer, an
unpacker and a converter for object notation; what it lacks is done by way of object
notation. A type with a converter alone counts as not handled.

## Main definitions

- `Codec` — what is registered for one type
- `CodecTable` — the codecs of a host
- `CodecTable.register`, `registerPacked`, `registerConverter` — registration
- `CodecTable.encode?`, `decode?`, `encode`, `decode` — use
-/

namespace HostBridge

/-- How a handled type is packed. -/
inductive Strategy where
  | custom
  | packed
deriving DecidableEq, Repr

/-- The name of a strategy. -/
def Strategy.name : Strategy → String
  | custom => "Custom"
  | packed => "Blittable"

/-- What is registered for a struct type. -/
structure Codec (s : Schema) where
  pack : Option (s.Value → Slot) := none
  unpack : Option (Slot → Option s.Value) := none
  ofMembers : Option (Json.Members → s.Value) := none
  strategy : Strategy

/-- Whether a codec packs or unpacks by itself. -/
def Codec.isHandler {s : Schema} (c : Codec s) : Bool :=
  c.pack.isSome || c.unpack.isSome

/-- The codecs of a host, whose struct types are told apart by `τ`. -/
structure CodecTable (τ : Type) (schema : τ → Schema) where
  codecs : List ((t : τ) × Codec (schema t)) := []
  /-- Types that have had a packer or an unpacker since the last clearing. -/
  handled : List τ := []
  /-- While built-in codecs are registered, those of the host stay. -/
  keepExisting : Bool := false

namespace CodecTable

variable {τ : Type} [DecidableEq τ] {schema : τ → Schema}

/-- The codec of a type in a list of codecs. -/
def find? : List ((t : τ) × Codec (schema t)) → (t : τ) → Option (Codec (schema t))
  | [], _ => none
  | ⟨u, c⟩ :: rest, t => if h : u = t then some (h ▸ c) else find? rest t

/-- The codec of a type. -/
def codec? (table : CodecTable τ schema) (t : τ) : Option (Codec (schema t)) :=
  find? table.codecs t

/-- Whether a type has a packer or an unpacker. -/
def hasHandler (table : CodecTable τ schema) (t : τ) : Bool :=
  table.handled.contains t

/-- The strategy of a handled type. -/
def strategy? (table : CodecTable τ schema) (t : τ) : Option Strategy :=
  if table.hasHandler t then (table.codec? t).map (·.strategy) else none

/-- Number of handled types. -/
def size (table : CodecTable τ schema) : Nat :=
  table.handled.length

/-- Sets the codec of a type. -/
def put (table : CodecTable τ schema) (t : τ) (c : Codec (schema t)) : CodecTable τ schema :=
  { table with
    codecs := table.codecs.filter (·.1 ≠ t) ++ [⟨t, c⟩]
    handled :=
      if c.isHandler && !table.handled.contains t then table.handled ++ [t] else table.handled }

/-- The codec of a type, or one without any part. -/
def codecOrEmpty (table : CodecTable τ schema) (t : τ) (strategy : Strategy) :
    Codec (schema t) :=
  (table.codec? t).getD { strategy }

/-- Whether a registration gives way to the host's codec. -/
def keeps (table : CodecTable τ schema) (t : τ) : Logged Bool :=
  if table.keepExisting && table.hasHandler t then do
    Logged.emit (.keptCodec (schema t).name)
    return true
  else return false

/-- Registers a packer and an unpacker. A converter that the type has stays. -/
def register (table : CodecTable τ schema) (t : τ) (pack : (schema t).Value → Slot)
    (unpack : Slot → Option (schema t).Value) : Logged (CodecTable τ schema) := do
  if ← table.keeps t then
    return table
  else
    if table.hasHandler t then
      Logged.emit (.replacedCodec (schema t).name)
    let c := table.codecOrEmpty t .custom
    return table.put t { c with pack := some pack, unpack := some unpack, strategy := .custom }

/-- Registers a converter for object notation. -/
def registerConverter (table : CodecTable τ schema) (t : τ)
    (convert : Json.Members → (schema t).Value) : CodecTable τ schema :=
  let c := table.codecOrEmpty t .custom
  table.put t <|
    if table.keepExisting && c.ofMembers.isSome then c else { c with ofMembers := some convert }

/-- Registers packing into lanes, with the converter that reads fields by name. The
    answer is whether the type can be packed and was not kept. -/
def registerPacked (table : CodecTable τ schema) (t : τ) (warnOnLossy : Bool) :
    Logged (Bool × CodecTable τ schema) := do
  let s := schema t
  if ← table.keeps t then
    return (false, table)
  else if s.laneFields.isEmpty then
    Logged.emit (.nothingToPack s.name)
    return (false, table)
  else
    if 4 < s.laneFields.length && warnOnLossy then
      Logged.emit (.lossyPacking s.name s.laneFields.length)
    let c : Codec s :=
      { pack := some s.packSlot
        unpack := some s.unpackSlot?
        ofMembers := some s.ofMembers
        strategy := .packed }
    return (true, table.put t c)

/-- Drops every codec. -/
def clear (table : CodecTable τ schema) : CodecTable τ schema :=
  { table with codecs := [], handled := [] }

/-- Packs a value with the codec of its type. -/
def encode? (table : CodecTable τ schema) (t : τ) (x : (schema t).Value) : Option Slot :=
  (table.codec? t).bind fun c => c.pack.map fun pack => pack x

/-- Unpacks a value with the codec of its type: by its unpacker, or by its converter
    from the members of an object. -/
def decode? (table : CodecTable τ schema) (t : τ) (slot : Slot) : Option (schema t).Value :=
  (table.codec? t).bind fun c =>
    match c.unpack.bind fun unpack => unpack slot with
    | some x => some x
    | none => c.ofMembers.bind fun convert => slot.members?.map convert

/-- Packs a value, or writes it as object notation. -/
def encode (table : CodecTable τ schema) (t : τ) (x : (schema t).Value) : Slot :=
  (table.encode? t x).getD (.json (Record.document (schema t).fields x).write)

/-- Unpacks a value, or reads it as object notation, or else takes the default. -/
def decode (table : CodecTable τ schema) (t : τ) (slot : Slot) : (schema t).Value :=
  match table.decode? t slot with
  | some x => x
  | none => (slot.tree?.bind (Record.read? (schema t).fields)).getD (schema t).default

end CodecTable

end HostBridge
