import HostBridge.Proofs.Latest

/-!
# The earliest registration stays

While existing entries stay, a placement takes effect only where there is nothing yet. A
key keeps the binding that it has, and otherwise is bound by the earliest placement that
binds it; a name keeps its host type, and otherwise belongs to the one that claims it
first. This is the order of `latest?` turned round, with what the registry held before in
front.

## Main statements

- `Placement.binding?_placeAll_keeping`, `Placement.typeFor?_placeAll_keeping` — the laws
-/

namespace HostBridge.Placement

variable {ε : Type} [Embedding ε] {r : Registry (HostType ε) (Handler ε)}

-- ════════════════════════════════════════════════════════════════════════
-- One placement
-- ════════════════════════════════════════════════════════════════════════

theorem binding?_insert_keeping (hkeep : r.keepExisting = true) (key other : Key (HostType ε))
    (member : String) (handler : Handler ε) :
    (r.insert key member handler).value.binding? other =
      (r.binding? other).or (if key = other then some ⟨member, handler⟩ else none) := by
  by_cases hk : other = key
  · subst hk
    rw [Registry.binding?_insert_self, hkeep, Bool.true_and, if_pos rfl, Registry.contains]
    cases r.binding? other <;> rfl
  · rw [Registry.binding?_insert_of_ne r member handler hk, if_neg (Ne.symm hk), Option.or_none]

theorem typeFor?_nameType_keeping (hkeep : r.keepExisting = true) (hash other : UInt32)
    (t : HostType ε) :
    (r.nameType hash t).value.typeFor? other =
      (r.typeFor? other).or (if hash = other then some t else none) := by
  rw [Registry.value_nameType, hkeep, Bool.true_and]
  by_cases hh : other = hash
  · subst hh
    rw [if_pos rfl]
    cases hold : r.typeFor? other with
    | none => exact Assoc.get?_put_self r.typeNames _ _
    | some old => exact hold
  · rw [if_neg (Ne.symm hh), Option.or_none]
    split
    · rfl
    · exact Assoc.get?_put_of_ne r.typeNames _ hh

theorem binding?_place_keeping (hkeep : r.keepExisting = true) (p : Placement ε)
    (key : Key (HostType ε)) :
    (p.place r).binding? key = (r.binding? key).or (p.bindingAt? key) := by
  cases p with
  | onType t name isStatic kind handler =>
    rw [place, binding?_insert_keeping (by simpa using hkeep),
      Registry.binding?_congr (Registry.bindings_nameType r _ t)]
    rfl
  | onNamespace space name kind handler =>
    rw [place, binding?_insert_keeping (by simpa using hkeep),
      Registry.binding?_congr (Registry.bindings_markNamespace r _)]
    rfl
  | typeName t name =>
    rw [place, Registry.binding?_congr (Registry.bindings_nameType r _ t)]
    exact Option.or_none.symm

theorem typeFor?_place_keeping (hkeep : r.keepExisting = true) (p : Placement ε)
    (hash : UInt32) :
    (p.place r).typeFor? hash = (r.typeFor? hash).or (p.claimant? hash) := by
  cases p with
  | onType t name isStatic kind handler =>
    rw [place, Registry.typeFor?_congr (Registry.typeNames_insert _ _ name handler),
      typeFor?_nameType_keeping hkeep]
    rfl
  | onNamespace space name kind handler =>
    rw [place, Registry.typeFor?_congr (Registry.typeNames_insert _ _ name handler),
      Registry.typeFor?_congr (Registry.typeNames_markNamespace r _)]
    exact Option.or_none.symm
  | typeName t name =>
    rw [place, typeFor?_nameType_keeping hkeep]
    rfl

-- ════════════════════════════════════════════════════════════════════════
-- Placements one after the other
-- ════════════════════════════════════════════════════════════════════════

/-- A key keeps its binding, or is bound by the earliest placement that binds it. -/
theorem binding?_placeAll_keeping (hkeep : r.keepExisting = true) (ps : List (Placement ε))
    (key : Key (HostType ε)) :
    (placeAll r ps).binding? key = (r.binding? key).or (ps.findSome? (bindingAt? key)) := by
  induction ps generalizing r with
  | nil => exact Option.or_none.symm
  | cons p ps ih =>
    rw [placeAll_cons, ih (by simpa using hkeep), binding?_place_keeping hkeep, Option.or_assoc,
      List.findSome?_cons]
    cases p.bindingAt? key <;> rfl

/-- A name keeps its host type, or belongs to the one that claims it first. -/
theorem typeFor?_placeAll_keeping (hkeep : r.keepExisting = true) (ps : List (Placement ε))
    (hash : UInt32) :
    (placeAll r ps).typeFor? hash = (r.typeFor? hash).or (ps.findSome? (claimant? hash)) := by
  induction ps generalizing r with
  | nil => exact Option.or_none.symm
  | cons p ps ih =>
    rw [placeAll_cons, ih (by simpa using hkeep), typeFor?_place_keeping hkeep, Option.or_assoc,
      List.findSome?_cons]
    cases p.claimant? hash <;> rfl

/-- So a bound key keeps its binding. -/
theorem binding?_placeAll_of_keeping {key : Key (HostType ε)} {found : Binding (Handler ε)}
    (hkeep : r.keepExisting = true) (hfound : r.binding? key = some found)
    (ps : List (Placement ε)) : (placeAll r ps).binding? key = some found := by
  rw [binding?_placeAll_keeping hkeep, hfound, Option.some_or]

/-- A name that is taken keeps its type. -/
theorem typeFor?_placeAll_of_keeping {hash : UInt32} {t : HostType ε}
    (hkeep : r.keepExisting = true) (ht : r.typeFor? hash = some t) (ps : List (Placement ε)) :
    (placeAll r ps).typeFor? hash = some t := by
  rw [typeFor?_placeAll_keeping hkeep, ht, Option.some_or]

end HostBridge.Placement
