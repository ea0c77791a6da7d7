import HostBridge.Proofs.History

/-!
# Order among the bindings

A registry is *orderly* if every handler is bound under a key where it belongs, and every
namespace with a bound member is marked. A registration keeps this whether existing
entries stay or not, other changes do not bind anything, and a new registry is empty. So
the registry of a reachable bridge is orderly, however it was reached.

## Main definitions

- `Orderly` — the invariant of registries
- `Bridge.Reachable.orderly` — reachable bridges have it
-/

namespace HostBridge

variable {ε : Type} [Embedding ε]

/-- Every handler belongs where it is bound, and a namespace with a member is marked. -/
structure Orderly (r : Registry (HostType ε) (Handler ε)) : Prop where
  fits : ∀ {key : Key (HostType ε)} {found : Binding (Handler ε)},
    r.binding? key = some found → found.handler.Fits key
  marked : ∀ {key : Key (HostType ε)} {hash : UInt32},
    key.owner = .named hash → r.contains key = true → r.isNamespace hash = true

namespace Orderly

theorem of_bindings_nil {r : Registry (HostType ε) (Handler ε)} (h : r.bindings = []) :
    Orderly r where
  fits hfound := by
    rw [Registry.binding?, h] at hfound
    exact absurd hfound (by simp)
  marked _ hbound := by
    rw [Registry.contains, Registry.binding?, h] at hbound
    exact absurd hbound (by simp)

/-- Whether existing entries stay does not matter for order. -/
theorem keepExisting {r : Registry (HostType ε) (Handler ε)} (h : Orderly r) (keep : Bool) :
    Orderly { r with keepExisting := keep } where
  fits hfound := h.fits hfound
  marked howner hbound := h.marked howner hbound

variable {r : Registry (HostType ε) (Handler ε)}

theorem namespace?_of_key? {p : Placement ε} {key : Key (HostType ε)} {hash : UInt32}
    (hkey : p.key? = some key) (howner : key.owner = .named hash) : p.namespace? = some hash := by
  cases p with
  | onType t name isStatic kind handler =>
    obtain rfl := Option.some.inj hkey
    exact absurd howner (by simp [Key.ofName])
  | onNamespace space name kind handler =>
    obtain rfl := Option.some.inj hkey
    exact congrArg some (Owner.named.inj howner)
  | typeName t name => exact absurd hkey (by simp [Placement.key?, Placement.entry?])

/-- A placement whose handler belongs under its key keeps order. -/
theorem place {p : Placement ε} (h : Orderly r)
    (hfits : ∀ {key : Key (HostType ε)} {found : Binding (Handler ε)},
      p.entry? = some (key, found) → found.handler.Fits key) :
    Orderly (p.place r) where
  fits hfound := by
    rcases Placement.binding?_place_cases p r hfound with hnew | hold
    · exact hfits hnew
    · exact h.fits hold
  marked {key hash} howner hbound := by
    rw [Placement.contains_place, Bool.or_eq_true, decide_eq_true_eq] at hbound
    rw [Placement.isNamespace_place, Bool.or_eq_true, decide_eq_true_eq]
    rcases hbound with hnew | hold
    · exact Or.inl (namespace?_of_key? hnew howner)
    · exact Or.inr (h.marked howner hold)

theorem placeAll {ps : List (Placement ε)} (h : Orderly r)
    (hfits : ∀ p ∈ ps, ∀ {key : Key (HostType ε)} {found : Binding (Handler ε)},
      p.entry? = some (key, found) → found.handler.Fits key) :
    Orderly (Placement.placeAll r ps) := by
  induction ps generalizing r with
  | nil => exact h
  | cons p ps ih =>
    have hfirst : Orderly (p.place r) := h.place (hfits p List.mem_cons_self)
    exact ih hfirst fun q hq => hfits q (List.mem_cons_of_mem p hq)

end Orderly

namespace Bridge

variable {a b : Bridge ε}

/-- Every change keeps the registry orderly. -/
theorem orderly_apply (c : Change ε) (h : Orderly b.registry) :
    Orderly (c.apply b).registry := by
  rw [registry_apply]
  cases c with
  | register r => exact h.placeAll fun p hp => Registration.fits_of_mem_placements hp
  | clear => exact Orderly.of_bindings_nil rfl
  | begin => exact h.keepExisting true
  | finish replies => exact h.keepExisting false
  | number | lend | release | releaseAll | work | setInitializer | skip => exact h

theorem Changes.orderly {P : Change ε → Prop} (h : Changes P a b) (ha : Orderly a.registry) :
    Orderly b.registry :=
  h.invariant (I := fun d => Orderly d.registry) ha fun _ c _ _ hd => orderly_apply c hd

/-- The registry of a reachable bridge is orderly. -/
theorem Reachable.orderly (h : Reachable b) : Orderly b.registry :=
  h.invariant (I := fun d => Orderly d.registry)
    (fun _ hnew => Orderly.of_bindings_nil (congrArg Registry.bindings hnew.tables_eq.1))
    fun _ c _ hd => orderly_apply c hd

theorem Reachable.orderly_prepared (h : Reachable b) (e : Entry ε) :
    Orderly (e.prepared ensureReady b).registry := by
  unfold Entry.prepared
  cases e.errand b with
  | nothing => exact h.orderly
  | byName q => exact (changes_ensureReady b _).orderly h.orderly
  | byId id args => exact (changes_ensureReady b _).orderly h.orderly

end Bridge

end HostBridge
