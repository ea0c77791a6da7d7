import HostBridge.Text.Utf8

/-!
# Name hashes

Names of types and members are addressed by a 32-bit hash: FNV-1a over the low seven
bits of each unit, up to the first NUL. The units of a text are its characters, those
of a buffer its bytes; for ASCII names the two agree.

## Main definitions

- `NameHash.ofUnits` — the hash of a sequence of units
- `NameHash.ofText`, `NameHash.ofBytes` — the hash of a text and of a buffer
-/

namespace HostBridge.NameHash

/-- The hash of the empty name. -/
def offset : UInt32 := 0x811c9dc5

/-- The factor of each step. -/
def prime : UInt32 := 0x01000193

/-- Takes one unit into a hash. -/
def step (hash unit : UInt32) : UInt32 :=
  (hash ^^^ (unit &&& 0x7F)) * prime

/-- The hash of a sequence of units, up to the first that is zero. -/
def ofUnits (units : List UInt32) : UInt32 :=
  (units.takeWhile (· ≠ 0)).foldl step offset

/-- The hash of a name given as text. -/
def ofText (name : String) : UInt32 :=
  ofUnits (name.toList.map (·.val))

/-- The hash of a name given as bytes. -/
def ofBytes (name : List UInt8) : UInt32 :=
  ofUnits (name.map (·.toUInt32))

end HostBridge.NameHash
