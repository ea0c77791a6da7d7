import HostBridge.Playground.Codecs
import HostBridge.Proofs.CodecTable
import HostBridge.Proofs.Install
import HostBridge.Proofs.Orderly

/-!
# Codecs of the host and codecs of an initializer

What a host has registered for a struct type is to stay when the bridge gets ready. For
packers and unpackers it does. A converter stays as well, with one exception: a type for
which the host has a converter alone does not count as handled, so the first registration
of the initializer that packs the type into lanes puts a converter of its own in place of
the host's. And if the initializer registers a packer and an unpacker for such a type, then
the unpacker is asked before the host's converter.

## Main definitions

- `Registration.handles` — a registration brings a packer and an unpacker for a type
- `Bridge.Reachable.consistent` — on a reachable bridge the handled types are those whose
  codec packs or unpacks
- `Bridge.Displaced` — a registration puts its converter in place of that of a type
- `Bridge.Reachable.codecKept_ensureReady` — what becomes of the codecs of a host
-/

namespace HostBridge

variable {ε : Type} [Embedding ε]

namespace Registration

/-- Whether a registration brings a packer and an unpacker for a type. -/
def handles (t : HostType ε) : Registration ε → Bool
  | codec u _ _ => u = t
  | packed u => u = t && !t.schema.laneFields.isEmpty
  | _ => false

theorem eq_of_handles {t : HostType ε} {r : Registration ε} (h : r.handles t = true) :
    (∃ pack unpack, r = codec t pack unpack) ∨ r = packed t := by
  cases r with
  | codec u pack unpack =>
    obtain rfl := of_decide_eq_true h
    exact Or.inl ⟨pack, unpack, rfl⟩
  | packed u =>
    obtain rfl := of_decide_eq_true (Bool.and_eq_true_iff.mp h).1
    exact Or.inr rfl
  | converter | onObjects | onType | onNamespace | typeName => exact Bool.noConfusion h

variable {warn : Bool} {codecs : Codecs ε} {t : HostType ε} {c : Codec t.schema}

-- ════════════════════════════════════════════════════════════════════════
-- One registration
-- ════════════════════════════════════════════════════════════════════════

@[simp] theorem keepExisting_codecsAfter (r : Registration ε) :
    (r.codecsAfter warn codecs).keepExisting = codecs.keepExisting := by
  cases r with
  | codec u pack unpack =>
    rw [codecsAfter, CodecTable.value_register]
    split <;> rfl
  | packed u =>
    rw [codecsAfter, CodecTable.value_registerPacked]
    split <;> rfl
  | converter | onObjects | onType | onNamespace | typeName => rfl

theorem consistent_codecsAfter (r : Registration ε) (h : codecs.Consistent) :
    (r.codecsAfter warn codecs).Consistent := by
  cases r with
  | codec u pack unpack => exact h.register pack unpack
  | packed u => exact h.registerPacked warn
  | converter u convert => exact h.registerConverter convert
  | onObjects | onType | onNamespace | typeName => exact h

/-- While existing codecs stay, a registration leaves the codec of a type alone if the type
    is handled, or if it is no registration that handles the type. -/
theorem upholds_codecsAfter (warn : Bool) (r : Registration ε) (hkeep : codecs.keepExisting = true)
    (hc : codecs.codec? t = some c) (hr : codecs.hasHandler t = true ∨ r.handles t = false) :
    ∃ c', (r.codecsAfter warn codecs).codec? t = some c' ∧ c'.Upholds c := by
  cases r with
  | codec u pack unpack =>
    rw [codecsAfter, CodecTable.value_register]
    split
    · exact ⟨c, hc, .refl⟩
    · next hw =>
      refine ⟨c, ?_, .refl⟩
      have hne : t ≠ u := by
        rintro rfl
        rcases hr with hhandled | hother
        · exact hw (by rw [hkeep, hhandled]; rfl)
        · exact of_decide_eq_false hother rfl
      rw [CodecTable.codec?_put_of_ne codecs _ hne]
      exact hc
  | packed u =>
    rw [codecsAfter, CodecTable.value_registerPacked]
    split
    · exact ⟨c, hc, .refl⟩
    · next hw =>
      refine ⟨c, ?_, .refl⟩
      have hne : t ≠ u := by
        rintro rfl
        rcases hr with hhandled | hother
        · exact hw (by rw [hkeep, hhandled]; rfl)
        · simp only [handles, decide_true, Bool.true_and, Bool.not_eq_false'] at hother
          exact hw (by rw [hother, Bool.or_true])
      rw [CodecTable.codec?_put_of_ne codecs _ hne]
      exact hc
  | converter u convert =>
    by_cases hu : t = u
    · -- The converter is added, unless the codec has one.
      subst hu
      refine ⟨_, CodecTable.codec?_put_self codecs _, ?_⟩
      rw [CodecTable.codecOrEmpty, hc, Option.getD_some, hkeep, Bool.true_and]
      split
      · exact .refl
      · next hnone => exact ⟨rfl, rfl, fun hold => absurd (by rw [hold]; rfl) hnone⟩
    · exact ⟨c, (CodecTable.codec?_put_of_ne codecs _ hu).trans hc, .refl⟩
  | onObjects | onType | onNamespace | typeName => exact ⟨c, hc, .refl⟩

/-- A packer and an unpacker are added to the codec of a type that is not handled. -/
theorem codec?_codecsAfter_codec {pack : t.schema.Value → Slot}
    {unpack : Slot → Option t.schema.Value} (hc : codecs.codec? t = some c)
    (hfree : codecs.hasHandler t = false) :
    ((codec t pack unpack).codecsAfter warn codecs).codec? t =
      some { c with pack := some pack, unpack := some unpack, strategy := .custom } := by
  rw [codecsAfter, CodecTable.value_register, hfree, Bool.and_false, if_neg Bool.false_ne_true,
    CodecTable.codec?_put_self, CodecTable.codecOrEmpty, hc, Option.getD_some]

/-- Packing into lanes takes the place of the codec of a type that is not handled. -/
theorem codec?_codecsAfter_packed (hlanes : (packed t).handles t = true)
    (hfree : codecs.hasHandler t = false) :
    ((packed t).codecsAfter warn codecs).codec? t = some (Codec.packing t.schema) := by
  simp only [handles, decide_true, Bool.true_and, Bool.not_eq_true'] at hlanes
  rw [codecsAfter, CodecTable.value_registerPacked, hfree, hlanes, Bool.and_false, Bool.or_self,
    if_neg Bool.false_ne_true, CodecTable.codec?_put_self]

-- ════════════════════════════════════════════════════════════════════════
-- Registrations one after the other
-- ════════════════════════════════════════════════════════════════════════

theorem keepExisting_codecsAfterAll (rs : List (Registration ε)) :
    (codecsAfterAll warn codecs rs).keepExisting = codecs.keepExisting := by
  induction rs generalizing codecs with
  | nil => rfl
  | cons r rs ih => rw [codecsAfterAll_cons, ih, keepExisting_codecsAfter]

theorem consistent_codecsAfterAll (warn : Bool) (rs : List (Registration ε))
    (h : codecs.Consistent) :
    (codecsAfterAll warn codecs rs).Consistent := by
  induction rs generalizing codecs with
  | nil => exact h
  | cons r rs ih => exact ih (consistent_codecsAfter r h)

theorem upholds_codecsAfterAll (warn : Bool) (rs : List (Registration ε))
    (hkeep : codecs.keepExisting = true) (h : codecs.Consistent) (hc : codecs.codec? t = some c)
    (hrs : codecs.hasHandler t = true ∨ ∀ r ∈ rs, r.handles t = false) :
    ∃ c', (codecsAfterAll warn codecs rs).codec? t = some c' ∧ c'.Upholds c := by
  induction rs generalizing codecs c with
  | nil => exact ⟨c, hc, .refl⟩
  | cons r rs ih =>
    obtain ⟨c₁, hc₁, hfirst⟩ := upholds_codecsAfter warn r hkeep hc
      (hrs.imp_right fun hall => hall r List.mem_cons_self)
    -- The type is handled afterwards if it was before.
    have hhandled : (r.codecsAfter warn codecs).hasHandler t = codecs.hasHandler t := by
      rw [(consistent_codecsAfter r h).hasHandler_eq hc₁, h.hasHandler_eq hc, hfirst.isHandler]
    obtain ⟨c₂, hc₂, hrest⟩ := ih (by simpa using hkeep) (consistent_codecsAfter r h) hc₁ <| by
      rw [hhandled]
      exact hrs.imp_right fun hall r' hr' => hall r' (List.mem_cons_of_mem r hr')
    exact ⟨c₂, hc₂, hrest.trans hfirst⟩

/-- The first registration that handles a type finds the codec of the type as it was, and
    what it makes of this codec stays. -/
theorem upholds_of_find?_eq_some (warn : Bool) {rs : List (Registration ε)} {r : Registration ε}
    (hkeep : codecs.keepExisting = true) (h : codecs.Consistent)
    (hc : codecs.codec? t = some c) (hfree : codecs.hasHandler t = false)
    (hr : rs.find? (·.handles t) = some r) :
    ∃ (found : Codecs ε) (c₁ : Codec t.schema), found.codec? t = some c₁ ∧ c₁.Upholds c ∧
      found.hasHandler t = false ∧
      ∀ c₂, (r.codecsAfter warn found).codec? t = some c₂ → c₂.isHandler = true →
        ∃ c', (codecsAfterAll warn codecs rs).codec? t = some c' ∧ c'.Upholds c₂ := by
  obtain ⟨-, before, after, rfl, hbefore⟩ := List.find?_eq_some_iff_append.mp hr
  have hfound := consistent_codecsAfterAll warn before h
  obtain ⟨c₁, hc₁, hupholds⟩ := upholds_codecsAfterAll warn before hkeep h hc
    (Or.inr fun r' hr' => by simpa using hbefore r' hr')
  refine ⟨codecsAfterAll warn codecs before, c₁, hc₁, hupholds, ?_, ?_⟩
  · rw [hfound.hasHandler_eq hc₁, hupholds.isHandler, ← h.hasHandler_eq hc, hfree]
  · intro c₂ hc₂ hhandler
    rw [codecsAfterAll_append, codecsAfterAll_cons]
    refine upholds_codecsAfterAll warn after ?_ (consistent_codecsAfter r hfound) hc₂ (Or.inl ?_)
    · rw [keepExisting_codecsAfter, keepExisting_codecsAfterAll, hkeep]
    · rw [(consistent_codecsAfter r hfound).hasHandler_eq hc₂, hhandler]

end Registration

namespace Bridge

variable {a b : Bridge ε} {t : HostType ε}

-- ════════════════════════════════════════════════════════════════════════
-- Codecs of reachable bridges
-- ════════════════════════════════════════════════════════════════════════

/-- Every change keeps the codecs consistent. -/
theorem consistent_apply (c : Change ε) (h : b.codecs.Consistent) :
    (c.apply b).codecs.Consistent := by
  rw [codecs_apply]
  cases c with
  | register r => exact Registration.consistent_codecsAfter r h
  | clear => exact fun _ => rfl
  | begin | finish => exact h
  | number | lend | release | releaseAll | work | setInitializer | skip => exact h

theorem Reachable.consistent (h : Reachable b) : b.codecs.Consistent := by
  refine h.invariant (I := fun d => d.codecs.Consistent) ?_ fun _ c _ hd => consistent_apply c hd
  intro a hnew
  rw [hnew.tables_eq.2.1]
  exact fun _ => rfl

-- ════════════════════════════════════════════════════════════════════════
-- What becomes of the codecs of a host
-- ════════════════════════════════════════════════════════════════════════

/-- Registrations put a converter in place of that of a type: the type is not handled, and
    the first registration that handles it packs it into lanes. -/
def Displaced (b : Bridge ε) (rs : List (Registration ε)) (t : HostType ε) : Prop :=
  b.codecs.hasHandler t = false ∧ rs.find? (·.handles t) = some (.packed t)

/-- What becomes of the codec of a type on a bridge when registrations lead to other codecs. -/
structure CodecKept (b : Bridge ε) (rs : List (Registration ε)) (t : HostType ε)
    (after : Codecs ε) : Prop where
  packer : ∀ {pack}, b.codecs.packer? t = some pack → after.packer? t = some pack
  unpacker : ∀ {unpack}, b.codecs.unpacker? t = some unpack → after.unpacker? t = some unpack
  converter : ∀ {convert}, b.codecs.converter? t = some convert → ¬b.Displaced rs t →
    after.converter? t = some convert
  /-- A type with a displaced converter is packed into lanes, and read by the names of its
      fields. -/
  displaced : b.codecs.converter? t ≠ none → b.Displaced rs t →
    ∃ c, after.codec? t = some c ∧ c.Upholds (Codec.packing t.schema)
  /-- A packed value gives the same slot. -/
  encode : ∀ {x slot}, b.codecs.encode? t x = some slot → after.encode? t x = some slot
  /-- A slot gives the same value, if the type is handled or no registration handles it. -/
  decode : ∀ {slot x}, b.codecs.decode? t slot = some x →
    (b.codecs.hasHandler t = true ∨ ∀ r ∈ rs, r.handles t = false) →
    after.decode? t slot = some x
  /-- An unpacker that is added comes before the converter of the type. -/
  decode_added : ∀ {slot x pack unpack}, b.codecs.decode? t slot = some x →
    b.codecs.hasHandler t = false → rs.find? (·.handles t) = some (.codec t pack unpack) →
    after.decode? t slot = (unpack slot).or (some x)

namespace CodecKept

variable {rs : List (Registration ε)} {after : Codecs ε}

/-- A type without a codec has nothing to keep. -/
theorem of_codec?_eq_none (hc : b.codecs.codec? t = none) : b.CodecKept rs t after := by
  have hpack : b.codecs.packer? t = none := by rw [CodecTable.packer?, hc, Option.bind_none]
  have hunpack : b.codecs.unpacker? t = none := by rw [CodecTable.unpacker?, hc, Option.bind_none]
  have hconvert : b.codecs.converter? t = none := by
    rw [CodecTable.converter?, hc, Option.bind_none]
  have hdecode (slot : Slot) : b.codecs.decode? t slot = none := by
    rw [CodecTable.decode?, hc, Option.bind_none]
  exact {
    packer := by simp [hpack]
    unpacker := by simp [hunpack]
    converter := by simp [hconvert]
    displaced := fun hold => absurd hconvert hold
    encode := by simp [CodecTable.encode?_eq, hpack]
    decode := by simp [hdecode]
    decode_added := by simp [hdecode] }

/-- A codec that is upheld. -/
theorem of_upholds {c c' : Codec t.schema} (hc : b.codecs.codec? t = some c)
    (hc' : after.codec? t = some c') (h : c'.Upholds c)
    (ht : b.codecs.hasHandler t = true ∨ ∀ r ∈ rs, r.handles t = false) :
    b.CodecKept rs t after := by
  have hnot {r : Registration ε} (hhandled : b.codecs.hasHandler t = false)
      (hr : rs.find? (·.handles t) = some r) : False := by
    rcases ht with htrue | hnone
    · exact Bool.noConfusion (htrue.symm.trans hhandled)
    · have hother : r.handles t = false := hnone r (List.mem_of_find?_eq_some hr)
      exact Bool.noConfusion ((List.find?_some hr).symm.trans hother)
  have hpack : after.packer? t = b.codecs.packer? t := by
    rw [CodecTable.packer?_of_codec? hc, CodecTable.packer?_of_codec? hc', h.pack]
  have hunpack : after.unpacker? t = b.codecs.unpacker? t := by
    rw [CodecTable.unpacker?_of_codec? hc, CodecTable.unpacker?_of_codec? hc', h.unpack]
  have hconvert {convert} (hold : b.codecs.converter? t = some convert) :
      after.converter? t = some convert := by
    rw [CodecTable.converter?_of_codec? hc] at hold
    rw [CodecTable.converter?_of_codec? hc', h.ofMembers hold]
  exact {
    packer := fun hold => hpack.trans hold
    unpacker := fun hold => hunpack.trans hold
    converter := fun hold _ => hconvert hold
    displaced := fun _ ⟨hhandled, hr⟩ => (hnot hhandled hr).elim
    encode := fun hold => by rw [CodecTable.encode?_eq, hpack, ← CodecTable.encode?_eq, hold]
    decode := fun hold _ => CodecTable.decode?_of_unpacker?_eq hunpack hconvert hold
    decode_added := fun _ hhandled hr => (hnot hhandled hr).elim }

/-- A type that is not handled, and that some registration handles. -/
theorem of_taken {r : Registration ε} (hb : b.codecs.Consistent)
    (hfree : b.codecs.hasHandler t = false) (hr : rs.find? (·.handles t) = some r)
    (hconverter : ∀ {convert}, b.codecs.converter? t = some convert → ¬b.Displaced rs t →
      after.converter? t = some convert)
    (hdisplaced : b.Displaced rs t →
      ∃ c, after.codec? t = some c ∧ c.Upholds (Codec.packing t.schema))
    (hadded : ∀ {pack unpack}, r = .codec t pack unpack → after.unpacker? t = some unpack) :
    b.CodecKept rs t after where
  packer hold := absurd (hold.symm.trans (hb.packer?_eq_none hfree)) (Option.some_ne_none _)
  unpacker hold := absurd (hold.symm.trans (hb.unpacker?_eq_none hfree)) (Option.some_ne_none _)
  converter := hconverter
  displaced _ := hdisplaced
  encode hold := by
    rw [CodecTable.encode?_eq, hb.packer?_eq_none hfree] at hold
    exact absurd hold.symm (Option.some_ne_none _)
  decode _ ht := by
    rcases ht with htrue | hnone
    · exact absurd (htrue.symm.trans hfree) Bool.noConfusion
    · have hother : r.handles t = false := hnone r (List.mem_of_find?_eq_some hr)
      exact absurd ((List.find?_some hr).symm.trans hother) Bool.noConfusion
  decode_added {slot x pack unpack} hold _ hr' := by
    obtain rfl := Option.some.inj (hr.symm.trans hr')
    have hother : ¬b.Displaced rs t := fun hd => nomatch Option.some.inj (hr'.symm.trans hd.2)
    rw [CodecTable.decode?_eq, hb.unpacker?_eq_none hfree, Option.bind_none,
      Option.none_or] at hold
    obtain ⟨convert, hconvert, hx⟩ := Option.bind_eq_some_iff.mp hold
    rw [CodecTable.decode?_eq, hadded rfl, hconverter hconvert hother, Option.bind_some,
      Option.bind_some, hx]

/-- A packer and an unpacker are added to the codec. -/
theorem of_added {c c' : Codec t.schema} {pack : t.schema.Value → Slot}
    {unpack : Slot → Option t.schema.Value} (hb : b.codecs.Consistent)
    (hfree : b.codecs.hasHandler t = false)
    (hr : rs.find? (·.handles t) = some (.codec t pack unpack))
    (hc : b.codecs.codec? t = some c) (hc' : after.codec? t = some c')
    (hunpack : c'.unpack = some unpack)
    (hconvert : ∀ {convert}, c.ofMembers = some convert → c'.ofMembers = some convert) :
    b.CodecKept rs t after := by
  refine .of_taken hb hfree hr ?_ ?_ ?_
  · intro convert hold _
    rw [CodecTable.converter?_of_codec? hc] at hold
    rw [CodecTable.converter?_of_codec? hc', hconvert hold]
  · intro hd
    nomatch Option.some.inj (hr.symm.trans hd.2)
  · intro pack' unpack' heq
    cases heq
    rw [CodecTable.unpacker?_of_codec? hc', hunpack]

/-- The codec is replaced by one that packs into lanes. -/
theorem of_packed {c' : Codec t.schema} (hb : b.codecs.Consistent)
    (hfree : b.codecs.hasHandler t = false) (hr : rs.find? (·.handles t) = some (.packed t))
    (hc' : after.codec? t = some c') (hpacking : c'.Upholds (Codec.packing t.schema)) :
    b.CodecKept rs t after := by
  refine .of_taken hb hfree hr ?_ (fun _ => ⟨c', hc', hpacking⟩) ?_
  · intro convert _ hnot
    exact absurd ⟨hfree, hr⟩ hnot
  · intro pack unpack heq
    nomatch heq

end CodecKept

/-- When a bridge gets ready by an initializer that registers, the host's codec of a type
    stays, but for a converter that is displaced and an unpacker that is added. -/
theorem Reachable.codecKept_ensureReady {i : Initializer ε} (hb : b.Reachable)
    (hphase : b.phase = .uninitialized) (hinit : b.initializer = some i) (h : i.Registers)
    (kept : List ObjectRef) (t : HostType ε) :
    b.CodecKept i.registrations t (b.after (ensureReady kept)).codecs := by
  -- The codecs on which the initializer starts, and those that it makes of them.
  let start : Codecs ε := { b.codecs with keepExisting := true }
  let made : Codecs ε := Registration.codecsAfterAll b.config.warnOnLossy start i.registrations
  have hmade : (b.after (ensureReady kept)).codecs = { made with keepExisting := false } :=
    codecs_ensureReady hphase hinit h kept
  have hkeep : start.keepExisting = true := rfl
  have hstart : start.Consistent := hb.consistent
  rw [hmade]
  cases hc : b.codecs.codec? t with
  | none => exact .of_codec?_eq_none hc
  | some c =>
    by_cases ht : b.codecs.hasHandler t = true ∨ ∀ r ∈ i.registrations, r.handles t = false
    · obtain ⟨c', hc', hupholds⟩ := Registration.upholds_codecsAfterAll
        b.config.warnOnLossy i.registrations hkeep hstart hc ht
      exact .of_upholds hc hc' hupholds ht
    · obtain ⟨hhandled, hsome⟩ := not_or.mp ht
      have hfree : b.codecs.hasHandler t = false := Bool.eq_false_iff.mpr hhandled
      obtain ⟨r, hr⟩ : ∃ r, i.registrations.find? (·.handles t) = some r := by
        refine Option.ne_none_iff_exists'.mp fun hnone => hsome fun r hr => ?_
        exact Bool.eq_false_iff.mpr (List.find?_eq_none.mp hnone r hr)
      obtain ⟨found, c₁, hc₁, hupholds, hfound, htaken⟩ := Registration.upholds_of_find?_eq_some
        b.config.warnOnLossy hkeep hstart hc hfree hr
      rcases Registration.eq_of_handles (List.find?_some hr) with ⟨pack, unpack, rfl⟩ | rfl
      · obtain ⟨c', hc', hadded⟩ := htaken _ (Registration.codec?_codecsAfter_codec hc₁ hfound) rfl
        exact .of_added hb.consistent hfree hr hc hc' hadded.unpack
          fun hold => hadded.ofMembers (hupholds.ofMembers hold)
      · obtain ⟨c', hc', hpacking⟩ := htaken _
          (Registration.codec?_codecsAfter_packed (List.find?_some hr) hfound) rfl
        exact .of_packed hb.consistent hfree hr hc' hpacking

/-- A host that packs colors in a way of its own keeps doing so when the bundled members
    are installed. -/
theorem codecKept_ensureReady_overriding :
    let b : Bridge Playground := (bundled {} Playground.quietHost).after (performWith ensureReady []
      (.register (Playground.SampleCodec.firstLane.registration .color)))
    (b.codecs.packer? .color).isSome = true ∧
      b.CodecKept Builtins.registrations .color (b.after (ensureReady [])).codecs := by
  intro b
  have hreachable : b.Reachable :=
    ⟨bundled {} Playground.quietHost, ⟨_, _, Or.inr rfl⟩, History.refl.performed trivial []⟩
  exact ⟨rfl, Reachable.codecKept_ensureReady (i := .bundled Builtins.registrations) hreachable
    rfl rfl trivial [] .color⟩

/-- A host that has a converter alone for colors, one that counts the members of an object,
    reads an object of two members as a color with two for red at first. Once the bundled
    members are installed, which pack colors into lanes, it reads one with the default red. -/
theorem decode?_ensureReady_displaced :
    let b : Bridge Playground := (bundled {} Playground.quietHost).after (performWith ensureReady []
      (.register (Playground.SampleCodec.memberCount.registration .color)))
    let slot : Slot := .json "\x7b\"a\":null,\"b\":null\x7d"
    let red (codecs : Codecs Playground) : Option Float32 :=
      (codecs.decode? .color slot).map fun color => (Color.ofRecord color).r
    b.Reachable ∧ b.phase = .uninitialized ∧
      b.initializer = some (.bundled Builtins.registrations) ∧
      (b.codecs.converter? .color).isSome = true ∧
      b.Displaced Builtins.registrations .color ∧
      red b.codecs = some 2 ∧ red (b.after (ensureReady [])).codecs = some 1 := by
  intro b slot red
  refine ⟨?_, rfl, rfl, rfl, ⟨rfl, rfl⟩, ?_, ?_⟩
  · exact ⟨bundled {} Playground.quietHost, ⟨_, _, Or.inr rfl⟩, History.refl.performed trivial []⟩
  · decide +kernel
  · decide +kernel

end Bridge

end HostBridge
