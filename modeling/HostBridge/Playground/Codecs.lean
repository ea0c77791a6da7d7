import HostBridge.Bridge.Registration
import HostBridge.Playground.Basic

/-!
# Codecs of the playground

Codecs that a host may register for a struct type in place of the usual ones. They keep
little of a value, so that it shows which codec was used.

## Main definitions

- `Playground.SampleCodec` — the codecs
- `Playground.SampleCodec.registration` — the registration of a codec for a type
-/

namespace HostBridge.Playground

/-- The codecs of the playground. -/
inductive SampleCodec where
  /-- Packs the first lane as a number and reads it back. -/
  | firstLane
  /-- Packs into nothing and reads nothing. -/
  | refusing
  /-- Reads the number of members of an object into the first lane. -/
  | memberCount
  /-- Reads the member `pick` of an object into the first lane. -/
  | picked
deriving DecidableEq, Repr

/-- The codecs by name. -/
def SampleCodec.named : List (String × SampleCodec) :=
  [("first_lane", firstLane), ("reject", refusing), ("dict_len", memberCount),
    ("dict_pick", picked)]

/-- The default value of a type with its first lane set. -/
def withFirstLane (t : Kind) (x : Float32) : t.schema.Value :=
  Record.writeLane t.schema.fields t.schema.default 0 x

/-- The registration of a codec for a type. -/
def SampleCodec.registration (t : Kind) : SampleCodec → Registration Playground
  | firstLane => .codec t
      (fun x => .double (Record.readLane t.schema.fields x 0).toFloat)
      (fun slot => slot.toFloat?.map fun x => withFirstLane t x.toFloat32)
  | refusing => .codec t (fun _ => .null) (fun _ => none)
  | memberCount => .converter t fun m => withFirstLane t (Float32.ofNat m.length)
  | picked => .converter t fun m => withFirstLane t ((m.float32? "pick").getD (-1))

end HostBridge.Playground
