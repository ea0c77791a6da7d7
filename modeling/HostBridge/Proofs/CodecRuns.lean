import HostBridge.Proofs.CodecTable
import HostBridge.Proofs.Latest
import Mathlib.Data.List.DropRight
import Mathlib.Data.List.Induction
import Mathlib.Data.List.Nodup

/-!
# Runs of a codec table

A run is any sequence of registrations and clearings of a table that starts empty. A codec
has two halves that come and go apart from each other: the pair of a packer and an unpacker,
and the converter for object notation. Packing into lanes brings both. The history of a run
says which halves a type has: those that were registered last since the last clearing. The
table holds just these, so nothing is lost or kept by mistake when one half is merged with
the other.

## Main definitions

- `Codec.Pair`, `Codec.ofParts?` — a packer with its unpacker, and the codec of two halves
- `CodecTable.Use`, `CodecTable.perform`, `CodecTable.run` — one use of a table, and runs
- `CodecTable.pair?`, `CodecTable.conversion?` — the halves of a type, by the history alone
- `CodecTable.Records` — a table agrees with a history
- `CodecTable.records_history` — the table that a run leaves does
-/

namespace HostBridge

-- ════════════════════════════════════════════════════════════════════════
-- The halves of a codec
-- ════════════════════════════════════════════════════════════════════════

/-- A packer with its unpacker, and how they were registered. -/
structure Codec.Pair (s : Schema) where
  pack : s.Value → Slot
  unpack : Slot → Option s.Value
  strategy : Strategy

/-- The pair that packs into lanes. -/
def Codec.Pair.packing (s : Schema) : Codec.Pair s where
  pack := s.packSlot
  unpack := s.unpackSlot?
  strategy := .packed

/-- The codec of a type that has the given halves, if it has any. -/
def Codec.ofParts? {s : Schema} :
    Option (Codec.Pair s) → Option (Json.Members → s.Value) → Option (Codec s)
  | none, none => none
  | none, some convert => some { ofMembers := some convert, strategy := .custom }
  | some p, ofMembers =>
    some { pack := some p.pack, unpack := some p.unpack, ofMembers, strategy := p.strategy }

namespace CodecTable

variable {τ : Type} [DecidableEq τ] {schema : τ → Schema}

-- ════════════════════════════════════════════════════════════════════════
-- Uses and runs
-- ════════════════════════════════════════════════════════════════════════

/-- One use of a codec table. -/
inductive Use (τ : Type) (schema : τ → Schema) where
  | register (t : τ) (pack : (schema t).Value → Slot) (unpack : Slot → Option (schema t).Value)
  | registerPacked (t : τ) (warnOnLossy : Bool)
  | registerConverter (t : τ) (convert : Json.Members → (schema t).Value)
  | clear

/-- The table after a use. -/
def perform (table : CodecTable τ schema) : Use τ schema → CodecTable τ schema
  | .register t pack unpack => (table.register t pack unpack).value
  | .registerPacked t warnOnLossy => (table.registerPacked t warnOnLossy).value.2
  | .registerConverter t convert => table.registerConverter t convert
  | .clear => table.clear

/-- The table after a run. -/
def run (us : List (Use τ schema)) : CodecTable τ schema :=
  us.foldl perform {}

namespace Use

/-- The type that a registration is for; a clearing is for none. -/
def subject? : Use τ schema → Option τ
  | register t .. => some t
  | registerPacked t _ => some t
  | registerConverter t _ => some t
  | clear => none

/-- Whether a use can matter to a type. -/
def concerns (t : τ) (u : Use τ schema) : Bool :=
  u.subject?.all (· = t)

/-- The pair that a use registers for a type. -/
def pairAt? (t : τ) : Use τ schema → Option (Codec.Pair (schema t))
  | register u pack unpack => if h : u = t then some (h ▸ ⟨pack, unpack, .custom⟩) else none
  | registerPacked u _ =>
    if u = t ∧ (schema t).laneFields ≠ [] then some (Codec.Pair.packing (schema t)) else none
  | registerConverter .. => none
  | clear => none

/-- The converter that a use registers for a type. -/
def conversionAt? (t : τ) : Use τ schema → Option (Json.Members → (schema t).Value)
  | register .. => none
  | registerPacked u _ =>
    if u = t ∧ (schema t).laneFields ≠ [] then some (schema t).ofMembers else none
  | registerConverter u convert => if h : u = t then some (h ▸ convert) else none
  | clear => none

theorem parts_of_not_concerns {t : τ} {u : Use τ schema} (h : u.concerns t = false) :
    u.pairAt? t = none ∧ u.conversionAt? t = none := by
  cases u with
  | register v | registerPacked v | registerConverter v =>
    have hv : v ≠ t := by simpa [concerns, subject?] using h
    simp [pairAt?, conversionAt?, hv]
  | clear => exact ⟨rfl, rfl⟩

end Use

-- ════════════════════════════════════════════════════════════════════════
-- What a history says
-- ════════════════════════════════════════════════════════════════════════

/-- What a run has done since the last clearing. -/
def sinceClear (us : List (Use τ schema)) : List (Use τ schema) :=
  us.rtakeWhile fun u => u.subject?.isSome

/-- The pair of a type, by the history alone. -/
def pair? (us : List (Use τ schema)) (t : τ) : Option (Codec.Pair (schema t)) :=
  latest? (Use.pairAt? t) (sinceClear us)

/-- The converter of a type, by the history alone. -/
def conversion? (us : List (Use τ schema)) (t : τ) :
    Option (Json.Members → (schema t).Value) :=
  latest? (Use.conversionAt? t) (sinceClear us)

section

variable (us : List (Use τ schema)) (u : Use τ schema) (t : τ)

omit [DecidableEq τ] in
/-- One more use of a history adds to what it says, and a clearing takes all back. -/
theorem latest?_sinceClear_concat {β : Type} (f : Use τ schema → Option β)
    (hclear : f .clear = none) :
    latest? f (sinceClear (us ++ [u])) =
      (f u).or (if u.subject?.isSome then latest? f (sinceClear us) else none) := by
  rw [sinceClear, List.rtakeWhile_concat]
  split
  · next hsubject => rw [latest?_concat, sinceClear]
  · next hsubject =>
    have hu : u = .clear := by cases u <;> simp_all [Use.subject?]
    rw [hu, hclear]
    rfl

theorem pair?_concat :
    pair? (us ++ [u]) t = (u.pairAt? t).or (if u.subject?.isSome then pair? us t else none) :=
  latest?_sinceClear_concat us u (Use.pairAt? t) rfl

theorem conversion?_concat :
    conversion? (us ++ [u]) t =
      (u.conversionAt? t).or (if u.subject?.isSome then conversion? us t else none) :=
  latest?_sinceClear_concat us u (Use.conversionAt? t) rfl

/-- Registrations for other types say nothing about a type. -/
theorem parts_filter :
    pair? (us.filter (·.concerns t)) t = pair? us t ∧
      conversion? (us.filter (·.concerns t)) t = conversion? us t := by
  induction us using List.reverseRecOn with
  | nil => exact ⟨rfl, rfl⟩
  | append_singleton us u ih =>
    rw [List.filter_append, List.filter_singleton]
    cases hu : u.concerns t with
    | true =>
      rw [cond_true, pair?_concat, pair?_concat, conversion?_concat, conversion?_concat, ih.1,
        ih.2]
      exact ⟨rfl, rfl⟩
    | false =>
      obtain ⟨hpair, hconversion⟩ := Use.parts_of_not_concerns hu
      have hsubject : u.subject?.isSome = true := by
        cases u <;> simp_all [Use.concerns, Use.subject?]
      rw [cond_false, List.append_nil, pair?_concat, conversion?_concat, hpair, hconversion,
        if_pos hsubject, if_pos hsubject]
      exact ih

end

-- ════════════════════════════════════════════════════════════════════════
-- What one use does
-- ════════════════════════════════════════════════════════════════════════

variable {table : CodecTable τ schema} {t : τ} {pair : Option (Codec.Pair (schema t))}
  {convert : Option (Json.Members → (schema t).Value)}

@[simp] theorem keepExisting_put (table : CodecTable τ schema) (c : Codec (schema t)) :
    (table.put t c).keepExisting = table.keepExisting := rfl

theorem keepExisting_perform (hkeep : table.keepExisting = false) (u : Use τ schema) :
    (table.perform u).keepExisting = false := by
  cases u with
  | register v pack unpack =>
    rw [perform, value_register, hkeep]
    exact hkeep
  | registerPacked v warnOnLossy =>
    rw [perform, value_registerPacked, hkeep]
    split <;> exact hkeep
  | registerConverter v convert => exact hkeep
  | clear => exact hkeep

theorem Consistent.perform (h : table.Consistent) (u : Use τ schema) :
    (table.perform u).Consistent := by
  cases u with
  | register v pack unpack => exact h.register pack unpack
  | registerPacked v warnOnLossy => exact h.registerPacked warnOnLossy
  | registerConverter v convert => exact h.registerConverter convert
  | clear => exact fun _ => rfl

theorem nodup_handled_put (h : table.handled.Nodup) (c : Codec (schema t)) :
    (table.put t c).handled.Nodup := by
  unfold put
  dsimp only
  split
  · next hnew =>
    have hfresh : t ∉ table.handled := by simpa using (Bool.and_eq_true_iff.mp hnew).2
    rw [← List.concat_eq_append]
    exact List.Nodup.concat hfresh h
  · exact h

theorem nodup_handled_perform (h : table.handled.Nodup) (u : Use τ schema) :
    (table.perform u).handled.Nodup := by
  cases u with
  | register v pack unpack =>
    rw [perform, value_register]
    split
    · exact h
    · exact nodup_handled_put h _
  | registerPacked v warnOnLossy =>
    rw [perform, value_registerPacked]
    split
    · exact h
    · exact nodup_handled_put h _
  | registerConverter v convert => exact nodup_handled_put h _
  | clear => exact List.nodup_nil

theorem ofMembers_codecOrEmpty (h : table.codec? t = Codec.ofParts? pair convert)
    (strategy : Strategy) : (table.codecOrEmpty t strategy).ofMembers = convert := by
  rw [codecOrEmpty, h]
  cases pair <;> cases convert <;> rfl

/-- A use sets the halves that it registers; the other half of the codec stays. -/
theorem codec?_perform (hkeep : table.keepExisting = false)
    (h : table.codec? t = Codec.ofParts? pair convert) (u : Use τ schema) :
    (table.perform u).codec? t =
      Codec.ofParts? ((u.pairAt? t).or (if u.subject?.isSome then pair else none))
        ((u.conversionAt? t).or (if u.subject?.isSome then convert else none)) := by
  cases u with
  | register v pack unpack =>
    rw [perform, value_register, hkeep, Bool.false_and, if_neg Bool.false_ne_true]
    by_cases hv : v = t
    · subst hv
      have hother : (table.codecOrEmpty v .custom).ofMembers = convert :=
        ofMembers_codecOrEmpty h .custom
      rw [codec?_put_self]
      simp [Use.pairAt?, Use.conversionAt?, Use.subject?, Codec.ofParts?, hother]
    · rw [codec?_put_of_ne _ _ (Ne.symm hv), h]
      simp [Use.pairAt?, Use.conversionAt?, Use.subject?, hv]
  | registerPacked v warnOnLossy =>
    rw [perform, value_registerPacked, hkeep, Bool.false_and, Bool.false_or]
    by_cases hv : v = t
    · subst hv
      by_cases hfields : (schema v).laneFields = []
      · simp [hfields, Use.pairAt?, Use.conversionAt?, Use.subject?, h]
      · have hnonempty : (schema v).laneFields.isEmpty = false := by simpa using hfields
        rw [hnonempty, if_neg Bool.false_ne_true, codec?_put_self]
        simp [hfields, Use.pairAt?, Use.conversionAt?, Codec.ofParts?, Codec.packing,
          Codec.Pair.packing]
    · have hother : (table.put v (Codec.packing (schema v))).codec? t = table.codec? t :=
        codec?_put_of_ne _ _ (Ne.symm hv)
      simp only [Use.pairAt?, Use.conversionAt?, Use.subject?, hv, false_and, if_false,
        Option.none_or, Option.isSome_some, if_true]
      split
      · exact h
      · exact hother.trans h
  | registerConverter v convert' =>
    rw [perform, registerConverter, hkeep, Bool.false_and, if_neg Bool.false_ne_true]
    by_cases hv : v = t
    · subst hv
      rw [codec?_put_self, codecOrEmpty, h]
      cases pair <;> cases convert <;>
        simp [Use.pairAt?, Use.conversionAt?, Use.subject?, Codec.ofParts?]
    · rw [codec?_put_of_ne _ _ (Ne.symm hv), h]
      simp [Use.pairAt?, Use.conversionAt?, Use.subject?, hv]
  | clear => rfl

-- ════════════════════════════════════════════════════════════════════════
-- What a run does
-- ════════════════════════════════════════════════════════════════════════

theorem run_concat (us : List (Use τ schema)) (u : Use τ schema) :
    run (us ++ [u]) = (run us).perform u :=
  List.foldl_concat ..

theorem keepExisting_run (us : List (Use τ schema)) : (run us).keepExisting = false := by
  induction us using List.reverseRecOn with
  | nil => rfl
  | append_singleton us u ih =>
    rw [run_concat]
    exact keepExisting_perform ih u

theorem consistent_run (us : List (Use τ schema)) : (run us).Consistent := by
  induction us using List.reverseRecOn with
  | nil => exact fun _ => rfl
  | append_singleton us u ih =>
    rw [run_concat]
    exact ih.perform u

theorem nodup_handled_run (us : List (Use τ schema)) : (run us).handled.Nodup := by
  induction us using List.reverseRecOn with
  | nil => exact List.nodup_nil
  | append_singleton us u ih =>
    rw [run_concat]
    exact nodup_handled_perform ih u

/-- The codec of a type has the halves that the history says. -/
theorem codec?_run (us : List (Use τ schema)) (t : τ) :
    (run us).codec? t = Codec.ofParts? (pair? us t) (conversion? us t) := by
  induction us using List.reverseRecOn with
  | nil => rfl
  | append_singleton us u ih =>
    rw [run_concat, pair?_concat, conversion?_concat]
    exact codec?_perform (keepExisting_run us) ih u

theorem hasHandler_run (us : List (Use τ schema)) (t : τ) :
    (run us).hasHandler t = (pair? us t).isSome := by
  rw [consistent_run us t, codec?_run]
  cases pair? us t <;> cases conversion? us t <;> rfl

-- ════════════════════════════════════════════════════════════════════════
-- The table agrees with its history
-- ════════════════════════════════════════════════════════════════════════

/-- A table agrees with the history that has led to it. -/
structure Records (us : List (Use τ schema)) (table : CodecTable τ schema) : Prop where
  encode? : ∀ t x, table.encode? t x = (pair? us t).map fun p => p.pack x
  unpacker? : ∀ t, table.unpacker? t = (pair? us t).map (·.unpack)
  converter? : ∀ t, table.converter? t = conversion? us t
  /-- A slot is read by the unpacker, or else by the converter. -/
  decode? : ∀ t slot, table.decode? t slot =
    ((pair? us t).bind fun p => p.unpack slot).or
      ((conversion? us t).bind fun convert => slot.members?.map convert)
  hasHandler : ∀ t, table.hasHandler t = (pair? us t).isSome
  strategy? : ∀ t, table.strategy? t = (pair? us t).map (·.strategy)
  /-- The size is the number of types with a pair. -/
  size : ∃ ts : List τ, ts.Nodup ∧ (∀ t, t ∈ ts ↔ (pair? us t).isSome = true) ∧
    table.size = ts.length
  /-- A type with a converter alone is read from object notation but is not handled. -/
  conversionOnly : ∀ {t convert}, pair? us t = none → conversion? us t = some convert →
    (∀ slot, table.decode? t slot = slot.members?.map convert) ∧ table.hasHandler t = false
  /-- Packing into lanes is refused exactly to a type without lanes, and then nothing changes. -/
  packed : ∀ t warnOnLossy,
    ((table.registerPacked t warnOnLossy).value.1 = true ↔ (schema t).laneFields ≠ []) ∧
      ((schema t).laneFields = [] → (table.registerPacked t warnOnLossy).value = (false, table))
  /-- A pair and a converter of a type may come in either order. -/
  eitherOrder : ∀ t pack unpack convert,
    ((table.perform (.register t pack unpack)).perform (.registerConverter t convert)) =
      (table.perform (.registerConverter t convert)).perform (.register t pack unpack)
  /-- Registrations for other types do not matter to a type. -/
  apart : ∀ t, table.codec? t = (run (us.filter (·.concerns t))).codec? t ∧
    table.hasHandler t = (run (us.filter (·.concerns t))).hasHandler t

/-- A codec that is set twice is as it was set last. -/
theorem put_put {c c' : Codec (schema t)} (hhandler : c'.isHandler = true) :
    (table.put t c).put t c' = table.put t c' := by
  have hcodecs (l : List ((t : τ) × Codec (schema t))) :
      (l.filter (·.1 ≠ t) ++ [⟨t, c⟩] : List ((t : τ) × Codec (schema t))).filter (·.1 ≠ t) =
        l.filter (·.1 ≠ t) := by
    simp
  unfold put
  dsimp only
  rw [hcodecs, hhandler]
  cases c.isHandler <;> cases hold : table.handled.contains t <;> simp_all

@[simp] theorem codecOrEmpty_put (c : Codec (schema t)) (strategy : Strategy) :
    (table.put t c).codecOrEmpty t strategy = c := by
  rw [codecOrEmpty, codec?_put_self, Option.getD_some]

/-- A pair and a converter of a type may come in either order. -/
theorem perform_comm (hkeep : table.keepExisting = false) (pack : (schema t).Value → Slot)
    (unpack : Slot → Option (schema t).Value) (convert : Json.Members → (schema t).Value) :
    (table.perform (.register t pack unpack)).perform (.registerConverter t convert) =
      (table.perform (.registerConverter t convert)).perform (.register t pack unpack) := by
  have hpair (d : CodecTable τ schema) (hd : d.keepExisting = false) :
      d.perform (.register t pack unpack) = d.put t { d.codecOrEmpty t .custom with
        pack := some pack, unpack := some unpack, strategy := .custom } := by
    rw [perform, value_register, hd, Bool.false_and, if_neg Bool.false_ne_true]
  have hconverter (d : CodecTable τ schema) (hd : d.keepExisting = false) :
      d.perform (.registerConverter t convert) =
        d.put t { d.codecOrEmpty t .custom with ofMembers := some convert } := by
    rw [perform, registerConverter, hd, Bool.false_and, if_neg Bool.false_ne_true]
  rw [hpair table hkeep, hconverter (table.put t _) hkeep, hconverter table hkeep,
    hpair (table.put t _) hkeep, codecOrEmpty_put, codecOrEmpty_put, put_put rfl, put_put rfl]

/-- The table that a run leaves agrees with the history of the run. -/
theorem records_history (us : List (Use τ schema)) : Records us (run us) := by
  have hconverter (t : τ) : (run us).converter? t = conversion? us t := by
    rw [CodecTable.converter?, codec?_run]
    cases pair? us t <;> cases conversion? us t <;> rfl
  have hunpacker (t : τ) : (run us).unpacker? t = (pair? us t).map (·.unpack) := by
    rw [CodecTable.unpacker?, codec?_run]
    cases pair? us t <;> cases conversion? us t <;> rfl
  have hpacker (t : τ) : (run us).packer? t = (pair? us t).map (·.pack) := by
    rw [CodecTable.packer?, codec?_run]
    cases pair? us t <;> cases conversion? us t <;> rfl
  have hdecode (t : τ) (slot : Slot) : (run us).decode? t slot =
      ((pair? us t).bind fun p => p.unpack slot).or
        ((conversion? us t).bind fun convert => slot.members?.map convert) := by
    rw [decode?_eq, hunpacker, hconverter, Option.bind_map]
    rfl
  refine
    { encode? := fun t x => ?_
      unpacker? := hunpacker
      converter? := hconverter
      decode? := hdecode
      hasHandler := hasHandler_run us
      strategy? := fun t => ?_
      size := ⟨(run us).handled, nodup_handled_run us, fun t => ?_, rfl⟩
      conversionOnly := fun {t convert} hpair hconversion => ⟨fun slot => ?_, ?_⟩
      packed := fun t warnOnLossy => ?_
      eitherOrder := fun t pack unpack convert => ?_
      apart := fun t => ?_ }
  · rw [encode?_eq, hpacker, Option.map_map]
    rfl
  · rw [CodecTable.strategy?, hasHandler_run, codec?_run]
    cases pair? us t <;> cases conversion? us t <;> rfl
  · rw [← hasHandler_run, CodecTable.hasHandler, List.contains_iff_mem]
  · rw [hdecode, hpair, hconversion]
    rfl
  · rw [hasHandler_run, hpair]
    rfl
  · rw [value_registerPacked, keepExisting_run, Bool.false_and, Bool.false_or]
    by_cases hfields : (schema t).laneFields = [] <;> simp [hfields]
  · exact perform_comm (keepExisting_run us) pack unpack convert
  · obtain ⟨hpair, hconversion⟩ := parts_filter us t
    rw [codec?_run, codec?_run, hasHandler_run, hasHandler_run, hpair, hconversion]
    exact ⟨rfl, rfl⟩

end CodecTable

end HostBridge
