import HostBridge.Binding.Key

/-!
# Packed keys

Diagnostics name a binding by its packed key: one word that holds the owner, the low 24 bits of the
hash of the member's name, the kind of the call and the static flag. Every bit of the word is one
bit of one of these fields, so each of them can be read back, and for keys that namespaces own,
two keys are the same exactly if their words are.

## Main definitions

- `Key.Packs` — a word packs given fields, and they can be read back from it
- `Key.bits?_eq_iff` — words are the same exactly if the keys are
-/

namespace HostBridge

theorem CallKind.tag_lt (kind : CallKind) : kind.tag < 4 := by
  cases kind <;> decide

theorem CallKind.ofTag?_natCast_tag (kind : CallKind) : ofTag? (kind.tag : Nat) = .ok kind := by
  cases kind <;> rfl

namespace Key

variable {τ : Type} {owner owner' member member' : UInt32} {kind kind' : CallKind}
  {isStatic isStatic' : Bool}

-- ════════════════════════════════════════════════════════════════════════
-- Bits of the fields
-- ════════════════════════════════════════════════════════════════════════

/-- A kind has two bits. -/
theorem testBit_tag_of_le (kind : CallKind) {i : Nat} (hi : 2 ≤ i) :
    kind.tag.testBit i = false :=
  Nat.testBit_lt_two_pow
    (Nat.lt_of_lt_of_le kind.tag_lt (Nat.pow_le_pow_right (n := 2) (by decide) hi))

theorem getLsbD_tag {w : Nat} (hw : 2 ≤ w) (kind : CallKind) (i : Nat) :
    (BitVec.ofNat w kind.tag).getLsbD i = kind.tag.testBit i := by
  rw [BitVec.getLsbD_ofNat]
  by_cases hi : i < w
  · rw [decide_eq_true hi, Bool.true_and]
  · rw [decide_eq_false hi, Bool.false_and, testBit_tag_of_le kind (by omega)]

/-- The low bits of a hash, kept in their places. -/
theorem getLsbD_and_low (hash : UInt32) (i : Nat) :
    (hash &&& 0xFFFFFF).toBitVec.getLsbD i = (decide (i < 24) && hash.toBitVec.getLsbD i) := by
  have hmask : (0xFFFFFF : UInt32).toBitVec = (BitVec.allOnes 24).setWidth 32 := rfl
  rw [UInt32.toBitVec_and, BitVec.getLsbD_and, hmask, BitVec.getLsbD_setWidth,
    BitVec.getLsbD_allOnes]
  grind

theorem getLsbD_truncate (hash : UInt32) (i : Nat) :
    (truncate hash).getLsbD i = (hash &&& 0xFFFFFF).toBitVec.getLsbD i := by
  rw [truncate, BitVec.getLsbD_setWidth, getLsbD_and_low]

/-- Of a hash, a key depends on the low 24 bits only. -/
theorem truncate_eq_iff : truncate member = truncate member' ↔
    member &&& 0xFFFFFF = member' &&& 0xFFFFFF := by
  constructor
  · intro h
    refine UInt32.toBitVec_inj.mp (BitVec.eq_of_getLsbD_eq fun i _ => ?_)
    rw [← getLsbD_truncate, ← getLsbD_truncate, h]
  · intro h
    refine BitVec.eq_of_getLsbD_eq fun i _ => ?_
    rw [getLsbD_truncate, getLsbD_truncate, h]

theorem new_eq_iff : (new (.named owner) member kind isStatic : Key τ) =
      new (.named owner') member' kind' isStatic' ↔
    owner = owner' ∧ member &&& 0xFFFFFF = member' &&& 0xFFFFFF ∧ kind = kind' ∧
      isStatic = isStatic' := by
  rw [new, new, Key.mk.injEq, Owner.named.injEq, truncate_eq_iff]

-- ════════════════════════════════════════════════════════════════════════
-- Words
-- ════════════════════════════════════════════════════════════════════════

/-- A word packs an owner, the low bits of a hash, a kind and a static flag. -/
structure Packs (word : BitVec 64) (owner member : UInt32) (kind : CallKind) (isStatic : Bool) :
    Prop where
  /-- The fields are shifted to their places and joined. -/
  joined : word = owner.toBitVec.setWidth 64 <<< 32 |||
    (member &&& 0xFFFFFF).toBitVec.setWidth 64 <<< 8 |||
    (BitVec.ofNat 64 kind.tag <<< 1 ||| (BitVec.ofBool isStatic).setWidth 64)
  /-- They do not overlap: every bit of the word is one bit of one field. -/
  bit : ∀ i < 64, word.getLsbD i =
    if i < 1 then isStatic
    else if i < 8 then kind.tag.testBit (i - 1)
    else if i < 32 then (member &&& 0xFFFFFF).toBitVec.getLsbD (i - 8)
    else owner.toBitVec.getLsbD (i - 32)
  /-- Shifts back and masks give the fields again. -/
  owner_eq : word >>> 32 = owner.toBitVec.setWidth 64
  member_eq : word >>> 8 &&& 0xFFFFFF = (member &&& 0xFFFFFF).toBitVec.setWidth 64
  kind_eq : CallKind.ofTag? ((word &&& 0xFF) >>> 1).toNat = .ok kind
  isStatic_eq : word &&& 1 = (BitVec.ofBool isStatic).setWidth 64

/-- The bits of a packed key, from the static flag up. -/
theorem getLsbD_bits (i : Nat) :
    ((new (.named owner) member kind isStatic : Key τ).bits owner).getLsbD i =
      if i < 1 then isStatic
      else if i < 8 then kind.tag.testBit (i - 1)
      else if i < 32 then (member &&& 0xFFFFFF).toBitVec.getLsbD (i - 8)
      else owner.toBitVec.getLsbD (i - 32) := by
  rw [bits, BitVec.getLsbD_append, low, BitVec.getLsbD_append, BitVec.getLsbD_append,
    BitVec.getLsbD_ofBool]
  simp only [new, getLsbD_truncate, getLsbD_tag (by decide : 2 ≤ 7)]
  grind

/-- A packed key packs what the key was made of. -/
theorem packs_bits : Packs ((new (.named owner) member kind isStatic : Key τ).bits owner)
    owner member kind isStatic := by
  have hlow : (0xFFFFFF : BitVec 64) = (BitVec.allOnes 24).setWidth 64 := rfl
  have hbyte : (0xFF : BitVec 64) = (BitVec.allOnes 8).setWidth 64 := rfl
  have hone : (1 : BitVec 64) = (BitVec.allOnes 1).setWidth 64 := rfl
  have htag := fun i => testBit_tag_of_le kind (i := i)
  refine
    { joined := ?_
      bit := fun i _ => getLsbD_bits i
      owner_eq := ?_
      member_eq := ?_
      kind_eq := ?_
      isStatic_eq := ?_ }
  · refine BitVec.eq_of_getLsbD_eq fun i hi => ?_
    simp only [getLsbD_bits, BitVec.getLsbD_or, BitVec.getLsbD_shiftLeft, BitVec.getLsbD_setWidth,
      getLsbD_and_low, getLsbD_tag (by decide : 2 ≤ 64), BitVec.getLsbD_ofBool]
    grind
  · refine BitVec.eq_of_getLsbD_eq fun i hi => ?_
    simp only [BitVec.getLsbD_ushiftRight, getLsbD_bits, BitVec.getLsbD_setWidth]
    grind
  · refine BitVec.eq_of_getLsbD_eq fun i hi => ?_
    simp only [hlow, BitVec.getLsbD_and, BitVec.getLsbD_ushiftRight, getLsbD_bits,
      BitVec.getLsbD_setWidth, BitVec.getLsbD_allOnes, getLsbD_and_low]
    grind
  · have hkind : ((new (.named owner) member kind isStatic : Key τ).bits owner &&& 0xFF) >>> 1 =
        BitVec.ofNat 64 kind.tag := by
      refine BitVec.eq_of_getLsbD_eq fun i hi => ?_
      simp only [hbyte, BitVec.getLsbD_and, BitVec.getLsbD_ushiftRight, getLsbD_bits,
        BitVec.getLsbD_setWidth, BitVec.getLsbD_allOnes, getLsbD_tag (by decide : 2 ≤ 64)]
      grind
    have hsmall : kind.tag < 2 ^ 64 := Nat.lt_trans kind.tag_lt (by decide)
    rw [hkind, BitVec.toNat_ofNat, Nat.mod_eq_of_lt hsmall, CallKind.ofTag?_natCast_tag]
  · refine BitVec.eq_of_getLsbD_eq fun i hi => ?_
    simp only [hone, BitVec.getLsbD_and, getLsbD_bits, BitVec.getLsbD_setWidth,
      BitVec.getLsbD_allOnes, BitVec.getLsbD_ofBool]
    grind

/-- Values of a field are the same if they are as words. -/
theorem setWidth_inj {w : Nat} {a b : BitVec w} (hw : w ≤ 64)
    (h : a.setWidth 64 = b.setWidth 64) : a = b := by
  rw [← BitVec.setWidth_eq a, ← BitVec.setWidth_eq b, ← BitVec.setWidth_setWidth_of_le a hw,
    ← BitVec.setWidth_setWidth_of_le b hw, h]

/-- A word packs one choice of fields. -/
theorem Packs.unique {word : BitVec 64} (h : Packs word owner member kind isStatic)
    (h' : Packs word owner' member' kind' isStatic') :
    owner = owner' ∧ member &&& 0xFFFFFF = member' &&& 0xFFFFFF ∧ kind = kind' ∧
      isStatic = isStatic' := by
  have howner := setWidth_inj (by decide) (h.owner_eq.symm.trans h'.owner_eq)
  have hmember := setWidth_inj (by decide) (h.member_eq.symm.trans h'.member_eq)
  have hkind := h.kind_eq.symm.trans h'.kind_eq
  have hstatic := setWidth_inj (by decide) (h.isStatic_eq.symm.trans h'.isStatic_eq)
  exact ⟨UInt32.toBitVec_inj.mp howner, UInt32.toBitVec_inj.mp hmember, Except.ok.inj hkind,
    BitVec.ofBool_eq_iff_eq.mp hstatic⟩

/-- The keys of namespaces have words, which are the same exactly if the keys are. Of the hash of a
    member's name, a key depends on the low 24 bits only. The word packs the owner, these bits, the
    kind and the static flag without overlap, and each of them can be read back from it. -/
theorem bits?_eq_iff (owner owner' member member' : UInt32) (kind kind' : CallKind)
    (isStatic isStatic' : Bool) :
    let key : Key τ := .new (.named owner) member kind isStatic
    let key' : Key τ := .new (.named owner') member' kind' isStatic'
    ∃ word word', key.bits? = some word ∧ key'.bits? = some word' ∧
      (word = word' ↔ key = key') ∧
      (key = key' ↔ owner = owner' ∧ member &&& 0xFFFFFF = member' &&& 0xFFFFFF ∧
        kind = kind' ∧ isStatic = isStatic') ∧
      Packs word owner member kind isStatic := by
  intro key key'
  have hpacks : Packs (key.bits owner) owner member kind isStatic := packs_bits
  have hpacks' : Packs (key'.bits owner') owner' member' kind' isStatic' := packs_bits
  refine ⟨key.bits owner, key'.bits owner', rfl, rfl, ⟨fun hword => ?_, fun hkey => ?_⟩,
    new_eq_iff, hpacks⟩
  · rw [hword] at hpacks
    exact new_eq_iff.mpr (hpacks.unique hpacks')
  · have howner : owner = owner' := (new_eq_iff.mp hkey).1
    rw [hkey, howner]

end Key

end HostBridge
