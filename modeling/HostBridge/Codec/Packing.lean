import HostBridge.Codec.Record
import HostBridge.Slot.Members

/-!
# Packing into lanes

A struct value whose fields are all numeric packs into the lanes of a vector: of
three lanes if it has at most three fields, of four otherwise. Fields from the fifth
on are not packed.

## Main definitions

- `Schema.lanes` — how many fields are packed
- `Schema.packSlot`, `Schema.unpackSlot?` — packing and unpacking
- `Schema.ofMembers` — reading by field name, in the spelling of scripts or of hosts
-/

namespace HostBridge.Schema

/-- How many fields are packed. -/
def lanes (s : Schema) : Nat :=
  min s.fields.length 4

/-- The vector whose lanes are the lane forms of the first fields. -/
def packSlot (s : Schema) (r : s.Value) : Slot :=
  let lane := Record.readLane s.fields r
  if s.lanes ≤ 3 then .vector3 ⟨lane 0, lane 1, lane 2⟩
  else .vector4 ⟨lane 0, lane 1, lane 2, lane 3⟩

/-- The lanes of a vector; a vector of three lanes has a zero for the fourth. -/
def slotLanes? : Slot → Option (List Float32)
  | .vector3 v => some [v.x, v.y, v.z, 0]
  | .vector4 v => some [v.x, v.y, v.z, v.w]
  | _ => none

/-- Stores lanes into the fields from an index on. -/
def writeLanes (s : Schema) (r : s.Value) (index : Nat) : List Float32 → s.Value
  | [] => r
  | lane :: rest => writeLanes s (Record.writeLane s.fields r index lane) (index + 1) rest

/-- The default value with its first fields taken from the lanes of a vector. -/
def unpackSlot? (s : Schema) (slot : Slot) : Option s.Value :=
  (slotLanes? slot).map fun lanes => s.writeLanes s.default 0 (lanes.take s.lanes)

/-- The value of a field's name, in the spelling of scripts or else as it is. -/
def member? (m : Json.Members) (name : String) : Option Json.Value :=
  match m.get? (Text.camelCase name) with
  | some v => some v
  | none => m.get? name

/-- Stores the members with the names of the listed fields, from an index on; a member
    that does not fit its field is passed over. -/
def writeMembers (s : Schema) (m : Json.Members) (r : s.Value) (index : Nat) :
    List Field → s.Value
  | [] => r
  | f :: fs =>
    let stored := (member? m f.name).bind (Record.writeJson? s.fields r index)
    writeMembers s m (stored.getD r) (index + 1) fs

/-- The default value with every field that an object has taken from it. -/
def ofMembers (s : Schema) (m : Json.Members) : s.Value :=
  s.writeMembers m s.default 0 s.fields

end HostBridge.Schema
