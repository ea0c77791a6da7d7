import HostBridge.Binding.NameHash
import HostBridge.Error
import HostBridge.Text.Hex

/-!
# Binding keys

A binding is addressed by its owner, a 24-bit hash of the member's name, the kind of
the call and whether the member is static.

## Main definitions

- `CallKind` — what a call does with a member
- `Owner` — who owns a binding: a host type, or a namespace known to scripts only
- `Key` — the address of a binding, `Key.bits` its packed form
-/

namespace HostBridge

/-- What a call does with a member. -/
inductive CallKind where
  | method
  | get
  | set
deriving DecidableEq, Repr

namespace CallKind

/-- The number of a kind on the wire. -/
def tag : CallKind → Nat
  | method => 1
  | get => 2
  | set => 3

/-- The kind with a number. -/
def ofTag? : Int → Except BridgeError CallKind
  | 1 => .ok method
  | 2 => .ok get
  | 3 => .ok set
  | other => .error (.invalidCallKind other)

/-- The word for a kind in messages. -/
def word : CallKind → String
  | method => "method"
  | get => "get"
  | set => "set"

/-- The word for a kind in diagnostics. -/
def diagnostic : CallKind → String
  | method => "Method"
  | get => "GetProp"
  | set => "SetProp"

end CallKind

/-- Who owns a binding. A namespace is known by the hash of its name. -/
inductive Owner (τ : Type) where
  | hostType (t : τ)
  | named (hash : UInt32)
deriving DecidableEq, Repr

/-- The address of a binding. -/
structure Key (τ : Type) where
  owner : Owner τ
  member : BitVec 24
  kind : CallKind
  isStatic : Bool
deriving DecidableEq, Repr

namespace Key

variable {τ : Type}

/-- The low 24 bits of a name hash. -/
def truncate (hash : UInt32) : BitVec 24 :=
  hash.toBitVec.setWidth 24

/-- The hash of a member's name as keys hold it. -/
def memberHash (name : List UInt8) : BitVec 24 :=
  truncate (NameHash.ofBytes name)

/-- The key of a member that is given by the full hash of its name. -/
def new (owner : Owner τ) (hash : UInt32) (kind : CallKind) (isStatic : Bool) : Key τ :=
  ⟨owner, truncate hash, kind, isStatic⟩

/-- The low half of the packed form: member hash, kind and static flag. -/
def low (k : Key τ) : BitVec 32 :=
  k.member ++ (BitVec.ofNat 7 k.kind.tag ++ BitVec.ofBool k.isStatic)

/-- The packed form of a key whose owner has the given digest. -/
def bits (digest : UInt32) (k : Key τ) : BitVec 64 :=
  digest.toBitVec ++ k.low

/-- The packed form of a key that a namespace owns. -/
def bits? (k : Key τ) : Option (BitVec 64) :=
  match k.owner with
  | .named hash => some (k.bits hash)
  | .hostType _ => none

/-- Hexadecimal text of a packed form. -/
def hexText {n : Nat} (b : BitVec n) : String :=
  Text.hexPadded (n / 4) b.toNat

end Key

end HostBridge
