import HostBridge.Playground.Codecs
import HostBridge.Playground.Members
import HostBridge.Proofs.Life
import HostBridge.Proofs.Numbering

/-!
# Registering the same again

A host that reloads registers what it has registered before, in the same order. Whatever the
registrations are, also if they overwrite each other, claim one name or add to one codec, the
second pass leaves the bridge as the first one did and answers the same.

A table of a bridge changes in one of two ways. Bindings, names of types and codecs are
*replaced*: only the last word about a key counts. Namespaces, handled types and numbers
*accrue*: only the first mention counts. In both cases a sequence of steps that is taken twice
has been taken, and every table of a bridge that lets its entries go is a case of these two.

## Main definitions

- `Replacing`, `Accruing` — the two ways in which a table changes
- `Codec.Part` — what a registration sets of a codec
- `Bridge.Free` — a bridge whose entries give way
- `Bridge.Reachable.reload` — a second pass changes nothing
-/

namespace HostBridge

-- ════════════════════════════════════════════════════════════════════════
-- Steps that are taken twice
-- ════════════════════════════════════════════════════════════════════════

theorem filterMap_cons_eq {α β : Type} (g : α → Option β) (a : α) (l : List α) :
    (a :: l).filterMap g = (g a).toList ++ l.filterMap g := by
  cases hg : g a <;> simp [hg]

section

variable {σ α : Type} {f : σ → α → σ}

/-- A step replaces what the same step has made before, whatever was made in between. -/
structure Replacing (f : σ → α → σ) : Prop where
  twice : ∀ s a, f (f s a) a = f s a
  congr : ∀ {s s' a} (b : α), f s a = f s' a → f (f s b) a = f (f s' b) a

/-- Once a step changes nothing it never does. -/
structure Accruing (f : σ → α → σ) : Prop where
  twice : ∀ s a, f (f s a) a = f s a
  stays : ∀ {s a} (b : α), f s a = s → f (f s b) a = f s b

theorem Replacing.foldl_congr (h : Replacing f) {s s' : σ} {a : α} (hs : f s a = f s' a)
    (l : List α) : f (l.foldl f s) a = f (l.foldl f s') a := by
  induction l generalizing s s' with
  | nil => exact hs
  | cons b l ih => exact ih (h.congr b hs)

/-- The last step of the first pass is there again at the end of the second one, and what stands
    before it is the same by induction. -/
theorem Replacing.foldl_foldl (h : Replacing f) (s : σ) (l : List α) :
    l.foldl f (l.foldl f s) = l.foldl f s := by
  induction l using List.reverseRecOn with
  | nil => rfl
  | append_singleton l a ih =>
    have hlast : f (l.foldl f (f (l.foldl f s) a)) a = f (l.foldl f (l.foldl f s)) a :=
      h.foldl_congr (h.twice _ a) l
    simp only [List.foldl_append, List.foldl_cons, List.foldl_nil]
    rw [hlast, ih]

theorem Accruing.foldl_stays (h : Accruing f) {s : σ} {a : α} (hs : f s a = s) (l : List α) :
    f (l.foldl f s) a = l.foldl f s := by
  induction l generalizing s with
  | nil => exact hs
  | cons b l ih => exact ih (h.stays b hs)

/-- Every step of the first pass changes nothing at its end. -/
theorem Accruing.step_foldl (h : Accruing f) (s : σ) {l : List α} {a : α} (ha : a ∈ l) :
    f (l.foldl f s) a = l.foldl f s := by
  induction l generalizing s with
  | nil => exact absurd ha List.not_mem_nil
  | cons b l ih =>
    rcases List.mem_cons.mp ha with rfl | hmem
    · exact h.foldl_stays (h.twice s a) l
    · exact ih (f s b) hmem

theorem Accruing.foldl_of_subset (h : Accruing f) (s : σ) {l more : List α} (hmore : more ⊆ l) :
    more.foldl f (l.foldl f s) = l.foldl f s := by
  induction more with
  | nil => rfl
  | cons a more ih =>
    obtain ⟨ha, hrest⟩ := List.cons_subset.mp hmore
    rw [List.foldl_cons, h.step_foldl s ha, ih hrest]

theorem Accruing.foldl_foldl (h : Accruing f) (s : σ) (l : List α) :
    l.foldl f (l.foldl f s) = l.foldl f s :=
  h.foldl_of_subset s (List.Subset.refl l)

end

-- ════════════════════════════════════════════════════════════════════════
-- Association lists and lists without repetition
-- ════════════════════════════════════════════════════════════════════════

theorem Assoc.replacing_put {κ α : Type} [DecidableEq κ] :
    Replacing fun (m : List (κ × α)) (e : κ × α) => put m e.1 e.2 where
  twice m e := by simp [put, List.filter_filter]
  congr {m m' e} e' h := by
    obtain ⟨key, value⟩ := e
    obtain ⟨key', value'⟩ := e'
    have hrest : m.filter (·.1 ≠ key) = m'.filter (·.1 ≠ key) := (List.cons.inj h).2
    have hboth : (m.filter (·.1 ≠ key')).filter (·.1 ≠ key) =
        (m'.filter (·.1 ≠ key')).filter (·.1 ≠ key) := by
      rw [List.filter_comm, hrest, List.filter_comm]
    simp only [put, List.filter_cons, hboth]

/-- A list with one more element, if it is new. -/
def mention {α : Type} [DecidableEq α] (l : List α) (a : α) : List α :=
  if l.contains a then l else l ++ [a]

theorem mention_eq_self_iff {α : Type} [DecidableEq α] {l : List α} {a : α} :
    mention l a = l ↔ a ∈ l := by
  unfold mention
  split
  · next h => exact iff_of_true rfl (List.contains_iff_mem.mp h)
  · next h =>
    refine iff_of_false (fun heq => ?_) (mt List.contains_iff_mem.mpr h)
    exact absurd (congrArg List.length heq) (by simp)

theorem mem_mention {α : Type} [DecidableEq α] {l : List α} {a b : α} :
    b ∈ mention l a ↔ b ∈ l ∨ b = a := by
  unfold mention
  split
  · next h =>
    refine (or_iff_left_of_imp ?_).symm
    rintro rfl
    exact List.contains_iff_mem.mp h
  · rw [List.mem_append, List.mem_singleton]

theorem accruing_mention {α : Type} [DecidableEq α] : Accruing (mention (α := α)) where
  twice _ _ := mention_eq_self_iff.mpr (mem_mention.mpr (Or.inr rfl))
  stays _ h := mention_eq_self_iff.mpr (mem_mention.mpr (Or.inl (mention_eq_self_iff.mp h)))

-- ════════════════════════════════════════════════════════════════════════
-- Numbers
-- ════════════════════════════════════════════════════════════════════════

namespace BindingIds

variable {κ : Type} [DecidableEq κ] {ids : BindingIds κ} {key : κ}

/-- A request changes nothing if the key has a number, or if no number is left. -/
theorem afterRequest_eq_self_iff :
    ids.afterRequest key = ids ↔ key ∈ ids.keys ∨ 0x7FFFFFFF ≤ ids.size := by
  rcases request_cases ids key with ⟨-, -, hafter, -, -, hmem⟩ | ⟨hnew, hroom, -, hafter⟩ |
      ⟨-, hfull, -, hafter⟩
  · exact iff_of_true hafter (Or.inl hmem)
  · rw [hafter]
    refine iff_of_false (fun heq => ?_) (not_or.mpr ⟨hnew, Nat.not_le.mpr hroom⟩)
    exact absurd (congrArg size heq) (by simp [size])
  · exact iff_of_true hafter (Or.inr hfull)

theorem accruing_afterRequest : Accruing (afterRequest (κ := κ)) where
  twice ids key := by
    rcases request_cases ids key with ⟨-, -, hafter, -⟩ | ⟨-, -, -, hafter⟩ | ⟨-, -, -, hafter⟩
    · rw [hafter, hafter]
    · rw [afterRequest_eq_self_iff, hafter]
      exact Or.inl (List.mem_append_right _ (List.mem_singleton_self key))
    · rw [hafter, hafter]
  stays {ids key} other h := by
    obtain ⟨more, hmore⟩ : (ids.afterRequest other).Extends ids := extends_afterRequest
    rw [afterRequest_eq_self_iff] at h ⊢
    rw [hmore, size, hmore, List.length_append]
    exact h.imp (List.mem_append_left _) fun hfull => Nat.le_add_right_of_le hfull

theorem extends_foldl_afterRequest (ids : BindingIds κ) (keys : List κ) :
    (keys.foldl afterRequest ids).Extends ids := by
  induction keys generalizing ids with
  | nil => exact .refl
  | cons key keys ih => exact (ih _).trans extends_afterRequest

/-- After any number of further requests a key is answered what it was answered first, be it that
    no number is left. -/
theorem assign_foldl_afterRequest (ids : BindingIds κ) (key : κ) (keys : List κ) :
    (((key :: keys).foldl afterRequest ids).assign key).map Prod.fst =
      (ids.assign key).map Prod.fst := by
  cases hassign : ids.assign key with
  | ok given =>
    obtain ⟨number, first⟩ := given
    have hfirst : ids.afterRequest key = first := by rw [afterRequest, hassign]
    rw [List.foldl_cons, hfirst,
      assign_of_extends hassign (extends_foldl_afterRequest first keys)]
    rfl
  | error e =>
    have hafter : ids.afterRequest key = ids := by rw [afterRequest, hassign]
    have hnone : ids.number? key = none := by
      rw [number?, hassign]
      rfl
    have hfull : 0x7FFFFFFF ≤ ids.size := by
      refine Nat.not_lt.mp fun hroom => ?_
      have hsome := isSome_number?_of_lt key hroom
      rw [hnone] at hsome
      exact Bool.noConfusion hsome
    have hall : keys.foldl afterRequest ids = ids :=
      List.foldl_fixed' (fun _ => afterRequest_eq_self_iff.mpr (Or.inr hfull)) keys
    rw [List.foldl_cons, hafter, hall, hassign]

end BindingIds

variable {ε : Type} [Embedding ε]

-- ════════════════════════════════════════════════════════════════════════
-- Bindings, names and namespaces
-- ════════════════════════════════════════════════════════════════════════

namespace Placement

/-- The name that a placement gives to a host type, and the type. -/
def naming? : Placement ε → Option (UInt32 × HostType ε)
  | onType t .. => some (NameHash.ofText t.name, t)
  | onNamespace .. => none
  | typeName t name => some (NameHash.ofText name, t)

variable {r : Registry (HostType ε) (Handler ε)}

/-- A registry whose entries give way takes what a placement says into each of its tables. -/
theorem place_eq (hfree : r.keepExisting = false) (p : Placement ε) :
    p.place r =
      { r with
        bindings := p.entry?.toList.foldl (fun m e => Assoc.put m e.1 e.2) r.bindings
        typeNames := p.naming?.toList.foldl (fun m e => Assoc.put m e.1 e.2) r.typeNames
        namespaces := p.namespace?.toList.foldl mention r.namespaces } := by
  cases p with
  | onType t name isStatic kind handler =>
    simp only [place, Registry.value_insert, Registry.value_nameType, hfree, Bool.false_and,
      Bool.false_eq_true, if_false]
    rfl
  | onNamespace space name kind handler =>
    have hmark : r.markNamespace (NameHash.ofText space) =
        { r with namespaces := mention r.namespaces (NameHash.ofText space) } := by
      unfold Registry.markNamespace mention Registry.isNamespace
      split <;> rfl
    simp only [place, Registry.value_insert, hmark, hfree, Bool.false_and, Bool.false_eq_true,
      if_false]
    rfl
  | typeName t name =>
    simp only [place, Registry.value_nameType, hfree, Bool.false_and, Bool.false_eq_true,
      if_false]
    rfl

theorem placeAll_eq (hfree : r.keepExisting = false) (ps : List (Placement ε)) :
    placeAll r ps =
      { r with
        bindings := (ps.filterMap entry?).foldl (fun m e => Assoc.put m e.1 e.2) r.bindings
        typeNames := (ps.filterMap naming?).foldl (fun m e => Assoc.put m e.1 e.2) r.typeNames
        namespaces := (ps.filterMap namespace?).foldl mention r.namespaces } := by
  induction ps generalizing r with
  | nil => rfl
  | cons p ps ih =>
    rw [placeAll_cons, ih (by simpa using hfree), place_eq hfree p]
    simp only [filterMap_cons_eq, List.foldl_append]

/-- Placements that are made twice have been made. -/
theorem placeAll_placeAll (hfree : r.keepExisting = false) (ps : List (Placement ε)) :
    placeAll (placeAll r ps) ps = placeAll r ps := by
  rw [placeAll_eq (r := placeAll r ps) (by simpa using hfree), placeAll_eq hfree]
  simp only [Assoc.replacing_put.foldl_foldl, accruing_mention.foldl_foldl]

end Placement

-- ════════════════════════════════════════════════════════════════════════
-- Codecs
-- ════════════════════════════════════════════════════════════════════════

namespace Codec

/-- What a registration sets of a codec. -/
inductive Part (s : Schema) where
  | handlers (pack : s.Value → Slot) (unpack : Slot → Option s.Value)
  | lanes
  | converter (convert : Json.Members → s.Value)

/-- A codec once a part is set; where there was none, the rest is empty. -/
def Part.set {s : Schema} (c : Option (Codec s)) : Part s → Codec s
  | handlers pack unpack =>
    { c.getD { strategy := .custom } with
      pack := some pack, unpack := some unpack, strategy := .custom }
  | lanes => Codec.packing s
  | converter convert => { c.getD { strategy := .custom } with ofMembers := some convert }

theorem Part.set_set {s : Schema} (c : Option (Codec s)) (p : Part s) :
    p.set (some (p.set c)) = p.set c := by
  cases p <;> rfl

/-- What a part leaves as it was is left so by any part that is set before it, or is set by it. -/
theorem Part.set_congr {s : Schema} {c d : Option (Codec s)} {p : Part s} (q : Part s)
    (h : p.set c = p.set d) : p.set (some (q.set c)) = p.set (some (q.set d)) := by
  cases p <;> cases q <;> simp_all [set]

end Codec

namespace CodecTable

variable {τ : Type} [DecidableEq τ] {schema : τ → Schema}
  {l l' : List ((t : τ) × Codec (schema t))} {t u : τ}

/-- Codecs once a part of the codec of one type is set. -/
def amend (l : List ((t : τ) × Codec (schema t))) (p : (t : τ) × Codec.Part (schema t)) :
    List ((t : τ) × Codec (schema t)) :=
  l.filter (·.1 ≠ p.1) ++ [⟨p.1, p.2.set (find? l p.1)⟩]

theorem find?_amend_self (p : Codec.Part (schema t)) :
    find? (amend l ⟨t, p⟩) t = some (p.set (find? l t)) :=
  codec?_put_self { codecs := l } (p.set (find? l t))

theorem find?_amend_of_ne (p : Codec.Part (schema t)) (h : u ≠ t) :
    find? (amend l ⟨t, p⟩) u = find? l u :=
  codec?_put_of_ne { codecs := l } (p.set (find? l t)) h

/-- To leave out a type does not matter to the others: lanes take the place of whatever is there. -/
theorem find?_filter_of_ne (h : u ≠ t) : find? (l.filter (·.1 ≠ t)) u = find? l u := by
  have hsame : amend (l.filter (·.1 ≠ t)) ⟨t, .lanes⟩ = amend l ⟨t, .lanes⟩ := by
    simp [amend, List.filter_filter, Codec.Part.set]
  rw [← find?_amend_of_ne .lanes h, hsame, find?_amend_of_ne .lanes h]

theorem filter_amend_self (p : Codec.Part (schema t)) :
    (amend l ⟨t, p⟩).filter (·.1 ≠ t) = l.filter (·.1 ≠ t) := by
  simp [amend, List.filter_filter]

theorem filter_amend_of_ne (p : Codec.Part (schema u)) (h : u ≠ t) :
    (amend l ⟨u, p⟩).filter (·.1 ≠ t) =
      (l.filter (·.1 ≠ t)).filter (·.1 ≠ u) ++ [⟨u, p.set (find? l u)⟩] := by
  rw [amend, List.filter_append, List.filter_comm]
  simp [h]

/-- Lists agree once a part is set if they agree on the other types, and if what they have for
    the type itself comes to the same with the part. -/
theorem amend_eq_iff (p : Codec.Part (schema t)) :
    amend l ⟨t, p⟩ = amend l' ⟨t, p⟩ ↔
      l.filter (·.1 ≠ t) = l'.filter (·.1 ≠ t) ∧ p.set (find? l t) = p.set (find? l' t) := by
  simp [amend]

theorem replacing_amend : Replacing (@amend τ _ schema) where
  twice l p := by
    obtain ⟨t, p⟩ := p
    rw [amend_eq_iff, filter_amend_self, find?_amend_self, Codec.Part.set_set]
    exact ⟨rfl, rfl⟩
  congr {l l' p} q h := by
    obtain ⟨t, p⟩ := p
    obtain ⟨u, q⟩ := q
    obtain ⟨hrest, hset⟩ := (amend_eq_iff p).mp h
    rw [amend_eq_iff]
    by_cases hu : u = t
    · subst hu
      rw [filter_amend_self, filter_amend_self, find?_amend_self, find?_amend_self]
      exact ⟨hrest, Codec.Part.set_congr q hset⟩
    · have hsame : find? l u = find? l' u := by
        rw [← find?_filter_of_ne hu, hrest, find?_filter_of_ne hu]
      rw [filter_amend_of_ne q hu, filter_amend_of_ne q hu, hrest, hsame,
        find?_amend_of_ne q (Ne.symm hu), find?_amend_of_ne q (Ne.symm hu)]
      exact ⟨rfl, hset⟩

theorem put_set (table : CodecTable τ schema) (p : Codec.Part (schema t)) :
    table.put t (p.set (table.codec? t)) =
      { table with
        codecs := amend table.codecs ⟨t, p⟩
        handled := if (p.set (table.codec? t)).isHandler then mention table.handled t
          else table.handled } := by
  unfold put mention
  cases (p.set (table.codec? t)).isHandler <;> cases table.handled.contains t <;> rfl

/-- A converter makes no type a handled one, and a type that is handled already stays one. -/
theorem put_converter (table : CodecTable τ schema) (h : table.Consistent)
    (convert : Json.Members → (schema t).Value) :
    table.put t ((Codec.Part.converter convert).set (table.codec? t)) =
      { table with codecs := amend table.codecs ⟨t, .converter convert⟩ } := by
  rw [put_set]
  split
  · next hhandler =>
    have hhandled : table.hasHandler t = true := by
      cases hc : table.codec? t with
      | none =>
        rw [hc] at hhandler
        exact Bool.noConfusion hhandler
      | some c =>
        rw [hc] at hhandler
        rw [h.hasHandler_eq hc]
        exact hhandler
    have hmem : t ∈ table.handled := List.contains_iff_mem.mp hhandled
    rw [mention_eq_self_iff.mpr hmem]
  · rfl

end CodecTable

namespace Registration

/-- The type whose codec a registration changes, and what it sets of the codec. -/
def part? : Registration ε → Option ((t : HostType ε) × Codec.Part t.schema)
  | codec t pack unpack => some ⟨t, .handlers pack unpack⟩
  | packed t => if t.schema.laneFields.isEmpty then none else some ⟨t, .lanes⟩
  | converter t convert => some ⟨t, .converter convert⟩
  | _ => none

/-- The type that a registration makes a handled one. -/
def handled? (r : Registration ε) : Option (HostType ε) :=
  r.part?.bind fun
    | ⟨_, .converter _⟩ => none
    | ⟨t, _⟩ => some t

variable {warn : Bool} {codecs : Codecs ε}

/-- Where codecs give way, a registration sets its part of the codec. -/
theorem codecsAfter_eq (hfree : codecs.keepExisting = false) (h : codecs.Consistent)
    (r : Registration ε) :
    r.codecsAfter warn codecs =
      { codecs with
        codecs := r.part?.toList.foldl CodecTable.amend codecs.codecs
        handled := r.handled?.toList.foldl mention codecs.handled } := by
  cases r with
  | codec t pack unpack =>
    have hput : (codec t pack unpack).codecsAfter warn codecs =
        codecs.put t ((Codec.Part.handlers pack unpack).set (codecs.codec? t)) := by
      rw [codecsAfter, CodecTable.value_register, hfree, Bool.false_and,
        if_neg Bool.false_ne_true]
      rfl
    rw [hput, CodecTable.put_set]
    rfl
  | packed t =>
    have hput : (packed t).codecsAfter warn codecs =
        if t.schema.laneFields.isEmpty then codecs
        else codecs.put t (Codec.Part.lanes.set (codecs.codec? t)) := by
      rw [codecsAfter, CodecTable.value_registerPacked, hfree, Bool.false_and, Bool.false_or]
      split <;> rfl
    rw [hput]
    cases hlanes : t.schema.laneFields.isEmpty with
    | true =>
      rw [if_pos rfl, handled?, part?, if_pos hlanes]
      rfl
    | false =>
      rw [if_neg Bool.false_ne_true, CodecTable.put_set, handled?, part?,
        if_neg (Bool.eq_false_iff.mp hlanes)]
      rfl
  | converter t convert =>
    have hput : (converter t convert).codecsAfter warn codecs =
        codecs.put t ((Codec.Part.converter convert).set (codecs.codec? t)) := by
      rw [codecsAfter, CodecTable.registerConverter, hfree, Bool.false_and,
        if_neg Bool.false_ne_true]
      rfl
    rw [hput, codecs.put_converter h]
    rfl
  | onObjects | onType | onNamespace | typeName => rfl

theorem codecsAfterAll_eq (hfree : codecs.keepExisting = false) (h : codecs.Consistent)
    (rs : List (Registration ε)) :
    codecsAfterAll warn codecs rs =
      { codecs with
        codecs := (rs.filterMap part?).foldl CodecTable.amend codecs.codecs
        handled := (rs.filterMap handled?).foldl mention codecs.handled } := by
  induction rs generalizing codecs with
  | nil => rfl
  | cons r rs ih =>
    rw [codecsAfterAll_cons, ih (by simpa using hfree) (consistent_codecsAfter r h),
      codecsAfter_eq hfree h r]
    simp only [filterMap_cons_eq, List.foldl_append]

/-- Codecs that are registered twice have been registered. -/
theorem codecsAfterAll_codecsAfterAll (hfree : codecs.keepExisting = false)
    (h : codecs.Consistent) (rs : List (Registration ε)) :
    codecsAfterAll warn (codecsAfterAll warn codecs rs) rs = codecsAfterAll warn codecs rs := by
  have hfree' : (codecsAfterAll warn codecs rs).keepExisting = false := by
    rw [keepExisting_codecsAfterAll, hfree]
  rw [codecsAfterAll_eq hfree' (consistent_codecsAfterAll warn rs h), codecsAfterAll_eq hfree h]
  simp only [CodecTable.replacing_amend.foldl_foldl, accruing_mention.foldl_foldl]

end Registration

-- ════════════════════════════════════════════════════════════════════════
-- Answers
-- ════════════════════════════════════════════════════════════════════════

/-- The key that an operation asks a number for when it registers. -/
def Command.numbered? : Command ε → Option (Key (HostType ε))
  | .registerWithId space name _ =>
    some (.ofName (.named (NameHash.ofText space)) name .method true)
  | _ => none

/-- Whether a registration is accepted where nothing stays: if it packs, it has lanes. -/
def Registration.accepted : Registration ε → Bool
  | packed t => !t.schema.laneFields.isEmpty
  | _ => true

/-- What an operation that registers answers where nothing stays. -/
def Command.registered (ids : BindingIds (Key (HostType ε))) (c : Command ε) : Answer ε :=
  match c with
  | .register r => .truth r.accepted
  | .registerWithId space name _ => .bindingId
      ((ids.assign (.ofName (.named (NameHash.ofText space)) name .method true)).map Prod.fst)
  | _ => .done

namespace Bridge

variable {a b : Bridge ε}

/-- A bridge whose entries give way. -/
structure Free (b : Bridge ε) : Prop where
  registry : b.registry.keepExisting = false
  codecs : b.codecs.keepExisting = false
  consistent : b.codecs.Consistent

theorem answer_register (h : b.Free) (r : Registration ε) :
    b.answer (register r) = r.accepted := by
  cases r with
  | packed t =>
    have hanswer : b.answer (register (.packed t)) =
        (b.codecs.registerPacked t b.config.warnOnLossy).value.1 := rfl
    rw [hanswer, CodecTable.value_registerPacked, h.codecs, Bool.false_and, Bool.false_or,
      Registration.accepted]
    cases t.schema.laneFields.isEmpty <;> rfl
  | onObjects | onType | onNamespace | typeName | codec | converter => rfl

theorem ids_register (r : Registration ε) : (b.after (register r)).ids = b.ids := by
  rw [after_register]

theorem answer_assignId (key : Key (HostType ε)) :
    b.answer (assignId key) = (b.ids.assign key).map Prod.fst := by
  rw [assignId, answer_modifyGet]
  cases b.ids.assign key <;> rfl

theorem ids_assignId (key : Key (HostType ε)) :
    (b.after (assignId key)).ids = b.ids.afterRequest key := by
  rw [assignId, after_modifyGet, BindingIds.afterRequest]
  cases b.ids.assign key <;> rfl

theorem answer_performWith_of_registers (h : b.Free) (ready : Readiness ε)
    (kept : List ObjectRef) {c : Command ε} (hc : c.Registers) :
    b.answer (performWith ready kept c) = c.registered b.ids := by
  cases c with
  | register r => exact congrArg Answer.truth (answer_register h r)
  | registerWithId space name f =>
    have hanswer : b.answer (performWith ready kept (.registerWithId space name f)) =
        .bindingId ((b.after (register (.onNamespace space name (.method f)))).answer
          (assignId (.ofName (.named (NameHash.ofText space)) name .method true))) := rfl
    rw [hanswer, answer_assignId, ids_register]
    rfl
  | _ => exact absurd hc id

theorem ids_performWith_of_registers (ready : Readiness ε) (kept : List ObjectRef)
    {c : Command ε} (hc : c.Registers) :
    (b.after (performWith ready kept c)).ids =
      c.numbered?.toList.foldl BindingIds.afterRequest b.ids := by
  cases c with
  | register r => exact ids_register r
  | registerWithId space name f =>
    have hafter : b.after (performWith ready kept (.registerWithId space name f)) =
        (b.after (register (.onNamespace space name (.method f)))).after
          (assignId (.ofName (.named (NameHash.ofText space)) name .method true)) := rfl
    rw [hafter, ids_assignId, ids_register]
    rfl
  | _ => exact absurd hc id

theorem Free.register (h : b.Free) (ps : List (Placement ε)) (rs : List (Registration ε))
    (ids : BindingIds (Key (HostType ε))) :
    Free { b with
      registry := Placement.placeAll b.registry ps
      codecs := Registration.codecsAfterAll b.config.warnOnLossy b.codecs rs
      ids } where
  registry := (Placement.keepExisting_placeAll ..).trans h.registry
  codecs := (Registration.keepExisting_codecsAfterAll _).trans h.codecs
  consistent := Registration.consistent_codecsAfterAll _ _ h.consistent

theorem free_performWith (h : b.Free) (ready : Readiness ε) (kept : List ObjectRef)
    {c : Command ε} (hc : c.Registers) : (b.after (performWith ready kept c)).Free := by
  obtain ⟨ids, hafter⟩ := after_performWith_of_registers b ready kept hc
  rw [hafter]
  exact h.register _ _ ids

/-- Between operations, and at every moment of one, only a bridge that is being initialized keeps
    its entries. -/
theorem Reachable.free (h : b.Reachable) (hphase : b.phase ≠ .initializing) : b.Free where
  registry := h.guarded.trans (decide_eq_false hphase)
  codecs := h.guardedCodecs.trans (decide_eq_false hphase)
  consistent := h.consistent

-- ════════════════════════════════════════════════════════════════════════
-- Passes
-- ════════════════════════════════════════════════════════════════════════

section

variable {cs : List (Command ε)} (hcs : ∀ c ∈ cs, c.Registers) (ready : Readiness ε)
  (kept : List ObjectRef)

include hcs

/-- The numbers that a pass asks for are asked for in order. -/
theorem ids_performAllWith_of_registers :
    (b.after (performAllWith ready kept cs)).ids =
      (cs.filterMap Command.numbered?).foldl BindingIds.afterRequest b.ids := by
  induction cs generalizing b with
  | nil => rfl
  | cons c cs ih =>
    have hsplit : b.after (performAllWith ready kept (c :: cs)) =
        (b.after (performWith ready kept c)).after (performAllWith ready kept cs) := rfl
    rw [hsplit, ih fun d hd => hcs d (List.mem_cons_of_mem c hd),
      ids_performWith_of_registers ready kept (hcs c List.mem_cons_self), filterMap_cons_eq,
      List.foldl_append]

theorem after_pass :
    b.after (performAllWith ready kept cs) =
      { b with
        registry := Placement.placeAll b.registry (cs.flatMap Command.placements)
        codecs := Registration.codecsAfterAll b.config.warnOnLossy b.codecs
          (cs.flatMap fun c => c.registration?.toList)
        ids := (cs.filterMap Command.numbered?).foldl BindingIds.afterRequest b.ids } := by
  obtain ⟨ids, hafter⟩ := after_performAllWith_of_registers b ready kept hcs
  have hids := ids_performAllWith_of_registers (b := b) hcs ready kept
  rw [hafter] at hids ⊢
  rw [← hids]

/-- A pass that is made twice has been made. -/
theorem Free.after_pass_pass (h : b.Free) :
    (b.after (performAllWith ready kept cs)).after (performAllWith ready kept cs) =
      b.after (performAllWith ready kept cs) := by
  rw [after_pass hcs ready kept, after_pass hcs ready kept]
  simp only [Placement.placeAll_placeAll h.registry,
    Registration.codecsAfterAll_codecsAfterAll h.codecs h.consistent,
    BindingIds.accruing_afterRequest.foldl_foldl]

/-- A pass answers alike on two bridges if one has given all numbers that the pass will have
    asked the other for. -/
theorem Free.answers_eq {d : Bridge ε} (h : b.Free) (hd : d.Free)
    (hids : d.ids = (cs.filterMap Command.numbered?).foldl BindingIds.afterRequest b.ids) :
    (d.answer (performAllWith ready kept cs)).map (·.answer) =
      (b.answer (performAllWith ready kept cs)).map (·.answer) := by
  induction cs generalizing b d with
  | nil => rfl
  | cons c cs ih =>
    have hc : c.Registers := hcs c List.mem_cons_self
    have hrest : ∀ e ∈ cs, e.Registers := fun e he => hcs e (List.mem_cons_of_mem c he)
    have hsplit (b : Bridge ε) :
        (b.answer (performAllWith ready kept (c :: cs))).map (·.answer) =
          b.answer (performWith ready kept c) ::
            ((b.after (performWith ready kept c)).answer
              (performAllWith ready kept cs)).map (·.answer) := rfl
    rw [filterMap_cons_eq] at hids
    -- The other bridge has given the number of this operation, so it gives no new one.
    have hstays : (d.after (performWith ready kept c)).ids = d.ids := by
      rw [ids_performWith_of_registers ready kept hc, hids]
      exact BindingIds.accruing_afterRequest.foldl_of_subset b.ids (List.subset_append_left _ _)
    rw [List.foldl_append] at hids
    have hsame : c.registered d.ids = c.registered b.ids := by
      cases c with
      | registerWithId space name f =>
        rw [hids]
        exact congrArg Answer.bindingId (BindingIds.assign_foldl_afterRequest b.ids _ _)
      | _ => rfl
    rw [hsplit, hsplit, answer_performWith_of_registers h ready kept hc,
      answer_performWith_of_registers hd ready kept hc, hsame,
      ih hrest (free_performWith h ready kept hc) (free_performWith hd ready kept hc) ?_]
    rw [hstays, hids, ids_performWith_of_registers ready kept hc]

end

/-- Whatever a host registers, to register the same again in the same order leaves the bridge as
    it is and is answered as it was the first time. -/
theorem Reachable.reload (ha : a.Reachable) (hphase : a.phase ≠ .initializing)
    (kept : List ObjectRef) {cs : List (Command ε)} (hcs : ∀ c ∈ cs, c.Registers) :
    let pass : BridgeM ε (List (Reply ε)) := performAllWith ensureReady kept cs
    let b := a.after pass
    b.after pass = b ∧ (b.answer pass).map (·.answer) = (a.answer pass).map (·.answer) := by
  intro pass b
  have hfree : a.Free := ha.free hphase
  have hfree' : b.Free := by
    rw [show b = _ from after_pass hcs ensureReady kept]
    exact hfree.register _ _ _
  refine ⟨hfree.after_pass_pass hcs ensureReady kept, ?_⟩
  exact hfree.answers_eq hcs ensureReady kept hfree'
    (ids_performAllWith_of_registers hcs ensureReady kept)

/-- A host binds `Tools.size` twice, gives one name to two types, packs points in a way of its
    own after it has given them lanes and a converter, asks for lanes where there are none, and
    numbers two methods. Then it reloads. -/
theorem reload_overlapping :
    let size (n : Int32) : Command Playground :=
      .register (.onNamespace "Tools" "size" (.getter (return Playground.int32 n)))
    let point : Playground.Kind := .own .point
    let f : HostFunction Playground := Playground.Function.seven.code
    let cs : List (Command Playground) :=
      [size 3, .registerWithId "Tools" "seven" f, size 4,
        .register (.typeName Playground.counterType "Gadget"),
        .register (Playground.SampleCodec.memberCount.registration point),
        .register (.packed point),
        .register (Playground.SampleCodec.firstLane.registration point),
        .register (.typeName point "Gadget"), .register (.packed (.own .empty)),
        .registerWithId "Tools" "size" f, .registerWithId "Tools" "seven" f]
    let a : Bridge Playground := (new {} Playground.quietHost).after (performWith ensureReady []
      (.registerWithId "Tools" "size" f))
    let pass : BridgeM Playground (List (Reply Playground)) := performAllWith ensureReady [] cs
    let b : Bridge Playground := a.after pass
    let number? (reply : Reply Playground) : Option Nat :=
      match reply.answer with
      | .bindingId (.ok n) => some n
      | _ => none
    a.Reachable ∧ a.phase ≠ .initializing ∧ (∀ c ∈ cs, c.Registers) ∧
      b.after pass = b ∧ (b.answer pass).map (·.answer) = (a.answer pass).map (·.answer) ∧
      (b.answer pass).filterMap number? = [2, 1, 2] ∧ b.ids.size = 2 ∧
      b.registry.typeFor? (NameHash.ofText "Gadget") = some point ∧
      b.codecs.strategy? point = some .custom := by
  intro size point f cs a pass b number?
  have ha : a.Reachable :=
    ⟨new {} Playground.quietHost, ⟨_, _, Or.inl rfl⟩, History.refl.performed trivial []⟩
  have hphase : a.phase ≠ .initializing := Phase.noConfusion
  have hcs : ∀ c ∈ cs, c.Registers := by
    simp [cs, size, Command.Registers]
  obtain ⟨hafter, hanswers⟩ := Reachable.reload ha hphase [] hcs
  refine ⟨ha, hphase, hcs, hafter, hanswers, ?_, ?_, ?_, ?_⟩
  · decide +kernel
  · decide +kernel
  · decide +kernel
  · decide +kernel

end Bridge

end HostBridge
