import HostBridge.Proofs.Placement

/-!
# The latest registration wins

Where nothing gives way, a placement takes effect: a key is bound by the latest placement
that binds it, and a name belongs to the host type that claimed it last. Both are read off
the placements alone, the newest first, with what the registry held before behind them.

## Main definitions

- `Placement.bindingAt?`, `Placement.claimant?` — what one placement says about a key and a name
- `latest?` — the last of a list that has something to say
- `Placement.binding?_placeAll`, `Placement.typeFor?_placeAll` — the laws
-/

namespace HostBridge

/-- What the last of the elements that have something to say says. -/
def latest? {α β : Type} (f : α → Option β) (l : List α) : Option β :=
  l.reverse.findSome? f

theorem latest?_cons {α β : Type} (f : α → Option β) (a : α) (l : List α) :
    latest? f (a :: l) = (latest? f l).or (f a) := by
  rw [latest?, List.reverse_cons, List.findSome?_append, List.findSome?_singleton]
  rfl

theorem latest?_concat {α β : Type} (f : α → Option β) (l : List α) (a : α) :
    latest? f (l ++ [a]) = (f a).or (latest? f l) := by
  rw [latest?, List.reverse_append, List.reverse_singleton, List.singleton_append,
    List.findSome?_cons]
  cases f a <;> rfl

variable {ε : Type} [Embedding ε]

namespace Placement

def bindingAt? (key : Key (HostType ε)) (p : Placement ε) : Option (Binding (Handler ε)) :=
  p.entry?.bind fun (bound, binding) => if bound = key then some binding else none

/-- The host type for which a placement claims a name: one that it names, or one whose
    member it binds, by the name of the type itself. -/
def claimant? (hash : UInt32) : Placement ε → Option (HostType ε)
  | onType t .. => if NameHash.ofText t.name = hash then some t else none
  | onNamespace .. => none
  | typeName t name => if NameHash.ofText name = hash then some t else none

variable {r : Registry (HostType ε) (Handler ε)}

-- ════════════════════════════════════════════════════════════════════════
-- One placement
-- ════════════════════════════════════════════════════════════════════════

theorem binding?_insert (hkeep : r.keepExisting = false) (key other : Key (HostType ε))
    (member : String) (handler : Handler ε) :
    (r.insert key member handler).value.binding? other =
      (if key = other then some ⟨member, handler⟩ else none).or (r.binding? other) := by
  by_cases hk : other = key
  · subst hk
    rw [Registry.binding?_insert_self, hkeep, Bool.false_and, if_neg Bool.false_ne_true,
      if_pos rfl, Option.some_or]
  · rw [Registry.binding?_insert_of_ne r member handler hk, if_neg (Ne.symm hk), Option.none_or]

theorem typeFor?_nameType (hkeep : r.keepExisting = false) (hash other : UInt32)
    (t : HostType ε) :
    (r.nameType hash t).value.typeFor? other =
      (if hash = other then some t else none).or (r.typeFor? other) := by
  rw [Registry.value_nameType, hkeep, Bool.false_and, if_neg Bool.false_ne_true]
  by_cases hh : other = hash
  · subst hh
    rw [if_pos rfl, Option.some_or]
    exact Assoc.get?_put_self r.typeNames _ _
  · rw [if_neg (Ne.symm hh), Option.none_or]
    exact Assoc.get?_put_of_ne r.typeNames _ hh

theorem binding?_place (hkeep : r.keepExisting = false) (p : Placement ε)
    (key : Key (HostType ε)) :
    (p.place r).binding? key = (p.bindingAt? key).or (r.binding? key) := by
  cases p with
  | onType t name isStatic kind handler =>
    rw [place, binding?_insert (by simpa using hkeep),
      Registry.binding?_congr (Registry.bindings_nameType r _ t)]
    rfl
  | onNamespace space name kind handler =>
    rw [place, binding?_insert (by simpa using hkeep),
      Registry.binding?_congr (Registry.bindings_markNamespace r _)]
    rfl
  | typeName t name =>
    rw [place, Registry.binding?_congr (Registry.bindings_nameType r _ t)]
    rfl

theorem typeFor?_place (hkeep : r.keepExisting = false) (p : Placement ε) (hash : UInt32) :
    (p.place r).typeFor? hash = (p.claimant? hash).or (r.typeFor? hash) := by
  cases p with
  | onType t name isStatic kind handler =>
    rw [place, Registry.typeFor?_congr (Registry.typeNames_insert _ _ name handler),
      typeFor?_nameType hkeep]
    rfl
  | onNamespace space name kind handler =>
    rw [place, Registry.typeFor?_congr (Registry.typeNames_insert _ _ name handler),
      Registry.typeFor?_congr (Registry.typeNames_markNamespace r _)]
    rfl
  | typeName t name =>
    rw [place, typeFor?_nameType hkeep]
    rfl

-- ════════════════════════════════════════════════════════════════════════
-- Placements one after the other
-- ════════════════════════════════════════════════════════════════════════

/-- A key is bound by the latest placement that binds it. -/
theorem binding?_placeAll (hkeep : r.keepExisting = false) (ps : List (Placement ε))
    (key : Key (HostType ε)) :
    (placeAll r ps).binding? key = (latest? (bindingAt? key) ps).or (r.binding? key) := by
  induction ps generalizing r with
  | nil => rfl
  | cons p ps ih =>
    rw [placeAll_cons, ih (by simpa using hkeep), binding?_place hkeep, latest?_cons,
      Option.or_assoc]

/-- A name belongs to the host type that claimed it last. -/
theorem typeFor?_placeAll (hkeep : r.keepExisting = false) (ps : List (Placement ε))
    (hash : UInt32) :
    (placeAll r ps).typeFor? hash = (latest? (claimant? hash) ps).or (r.typeFor? hash) := by
  induction ps generalizing r with
  | nil => rfl
  | cons p ps ih =>
    rw [placeAll_cons, ih (by simpa using hkeep), typeFor?_place hkeep, latest?_cons,
      Option.or_assoc]

end Placement

end HostBridge
