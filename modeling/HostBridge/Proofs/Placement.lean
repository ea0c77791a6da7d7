import HostBridge.Proofs.Computation
import HostBridge.Proofs.Registry

/-!
# Registrations as placements

To the registry a registration is a list of *placements*, one for each handler or name
that it brings. The placement of a member of a host type names the type on the way,
that of a member of a namespace marks the namespace. Everything that a registration
does to a registry follows from what one placement does, by induction on the list.

## Main definitions

- `Handler.subject?`, `Handler.Fits` — the type that a handler works on, and the keys
  under which it belongs
- `Placement`, `Placement.place` — one entry of the registry, and how it gets there
- `Registration.placements` — the placements of a registration
-/

namespace HostBridge

variable {ε : Type} [Embedding ε]

/-- The host type on whose objects a handler works; handlers of static members have none. -/
def Handler.subject? : Handler ε → Option (HostType ε)
  | getter t _ => some t
  | setter t _ _ => some t
  | method t _ _ => some t
  | function .. => none
  | assign .. => none

/-- Whether a handler belongs under a key: one that works on objects under an instance
    member of their type, any other under a static member. -/
def Handler.Fits (h : Handler ε) (key : Key (HostType ε)) : Prop :=
  match h.subject? with
  | some t => key.owner = .hostType t ∧ key.isStatic = false
  | none => key.isStatic = true

/-- One entry of the registry that a registration asks for. -/
inductive Placement (ε : Type) [Embedding ε] where
  /-- A member of a host type or of its objects. -/
  | onType (t : HostType ε) (name : String) (isStatic : Bool) (kind : CallKind)
      (handler : Handler ε)
  /-- A member of a namespace. -/
  | onNamespace (space name : String) (kind : CallKind) (handler : Handler ε)
  /-- A name of a host type. -/
  | typeName (t : HostType ε) (name : String)

namespace Placement

/-- The registry once a placement is made. -/
def place (r : Registry (HostType ε) (Handler ε)) :
    Placement ε → Registry (HostType ε) (Handler ε)
  | onType t name isStatic kind handler =>
    ((r.nameType (NameHash.ofText t.name) t).value.insert
      (.ofName (.hostType t) name kind isStatic) name handler).value
  | onNamespace space name kind handler =>
    ((r.markNamespace (NameHash.ofText space)).insert
      (.ofName (.named (NameHash.ofText space)) name kind true) name handler).value
  | typeName t name => (r.nameType (NameHash.ofText name) t).value

/-- The key that a placement binds, and what it binds there. -/
def entry? : Placement ε → Option (Key (HostType ε) × Binding (Handler ε))
  | onType t name isStatic kind handler =>
    some (.ofName (.hostType t) name kind isStatic, ⟨name, handler⟩)
  | onNamespace space name kind handler =>
    some (.ofName (.named (NameHash.ofText space)) name kind true, ⟨name, handler⟩)
  | typeName .. => none

/-- The key that a placement binds. -/
def key? (p : Placement ε) : Option (Key (HostType ε)) :=
  p.entry?.map (·.1)

/-- The name that a placement marks as that of a namespace. -/
def namespace? : Placement ε → Option UInt32
  | onNamespace space .. => some (NameHash.ofText space)
  | _ => none

/-- The registry once placements are made one after the other. -/
def placeAll (r : Registry (HostType ε) (Handler ε)) (ps : List (Placement ε)) :
    Registry (HostType ε) (Handler ε) :=
  ps.foldl place r

variable (p : Placement ε) (r : Registry (HostType ε) (Handler ε))

@[simp] theorem placeAll_nil : placeAll r [] = r := rfl

@[simp] theorem placeAll_cons (ps : List (Placement ε)) :
    placeAll r (p :: ps) = placeAll (p.place r) ps := rfl

theorem placeAll_append (ps qs : List (Placement ε)) :
    placeAll r (ps ++ qs) = placeAll (placeAll r ps) qs :=
  List.foldl_append

-- ════════════════════════════════════════════════════════════════════════
-- One placement
-- ════════════════════════════════════════════════════════════════════════

@[simp] theorem keepExisting_place : (p.place r).keepExisting = r.keepExisting := by
  cases p <;> simp [place]

theorem binding?_place_cases {key : Key (HostType ε)} {found : Binding (Handler ε)}
    (h : (p.place r).binding? key = some found) :
    p.entry? = some (key, found) ∨ r.binding? key = some found := by
  cases p with
  | onType t name isStatic kind handler =>
    rcases Registry.binding?_insert_cases _ h with ⟨rfl, rfl⟩ | hold
    · exact Or.inl rfl
    · rw [Registry.binding?_congr (Registry.bindings_nameType r _ t)] at hold
      exact Or.inr hold
  | onNamespace space name kind handler =>
    rcases Registry.binding?_insert_cases _ h with ⟨rfl, rfl⟩ | hold
    · exact Or.inl rfl
    · rw [Registry.binding?_congr (Registry.bindings_markNamespace r _)] at hold
      exact Or.inr hold
  | typeName t name =>
    rw [place, Registry.binding?_congr (Registry.bindings_nameType r _ t)] at h
    exact Or.inr h

theorem contains_place (key : Key (HostType ε)) :
    (p.place r).contains key = (decide (p.key? = some key) || r.contains key) := by
  cases p with
  | onType t name isStatic kind handler =>
    rw [place, Registry.contains_insert,
      Registry.contains_congr (Registry.bindings_nameType r _ t)]
    simp [key?, entry?, eq_comm]
  | onNamespace space name kind handler =>
    rw [place, Registry.contains_insert,
      Registry.contains_congr (Registry.bindings_markNamespace r _)]
    simp [key?, entry?, eq_comm]
  | typeName t name =>
    rw [place, Registry.contains_congr (Registry.bindings_nameType r _ t)]
    simp [key?, entry?]

theorem isNamespace_place (hash : UInt32) :
    (p.place r).isNamespace hash =
      (decide (p.namespace? = some hash) || r.isNamespace hash) := by
  cases p with
  | onType t name isStatic kind handler =>
    have hsame : (place r (.onType t name isStatic kind handler)).namespaces = r.namespaces := by
      simp [place]
    rw [Registry.isNamespace_congr hsame]
    simp [namespace?]
  | onNamespace space name kind handler =>
    have hmark : (place r (.onNamespace space name kind handler)).namespaces =
        (r.markNamespace (NameHash.ofText space)).namespaces := by
      simp [place]
    rw [Registry.isNamespace_congr hmark, Registry.isNamespace_markNamespace]
    simp [namespace?, eq_comm]
  | typeName t name =>
    have hsame : (place r (.typeName t name)).namespaces = r.namespaces := by
      simp [place]
    rw [Registry.isNamespace_congr hsame]
    simp [namespace?]

-- ════════════════════════════════════════════════════════════════════════
-- Placements one after the other
-- ════════════════════════════════════════════════════════════════════════

variable (ps : List (Placement ε))

@[simp] theorem keepExisting_placeAll : (placeAll r ps).keepExisting = r.keepExisting := by
  induction ps generalizing r with
  | nil => rfl
  | cons p ps ih => rw [placeAll_cons, ih, keepExisting_place]

theorem contains_placeAll (key : Key (HostType ε)) :
    (placeAll r ps).contains key = true ↔
      (∃ p ∈ ps, p.key? = some key) ∨ r.contains key = true := by
  induction ps generalizing r with
  | nil => simp
  | cons p ps ih =>
    rw [placeAll_cons, ih, contains_place]
    simp only [Bool.or_eq_true, decide_eq_true_eq, List.mem_cons, exists_eq_or_imp]
    rw [or_left_comm, or_assoc]

theorem isNamespace_placeAll (hash : UInt32) :
    (placeAll r ps).isNamespace hash = true ↔
      (∃ p ∈ ps, p.namespace? = some hash) ∨ r.isNamespace hash = true := by
  induction ps generalizing r with
  | nil => simp
  | cons p ps ih =>
    rw [placeAll_cons, ih, isNamespace_place]
    simp only [Bool.or_eq_true, decide_eq_true_eq, List.mem_cons, exists_eq_or_imp]
    rw [or_left_comm, or_assoc]

end Placement

-- ════════════════════════════════════════════════════════════════════════
-- Registrations
-- ════════════════════════════════════════════════════════════════════════

/-- The handlers of an instance member work on objects of its type. -/
theorem InstanceMember.subject?_of_mem {t : HostType ε} {member : InstanceMember ε t}
    {kind : CallKind} {handler : Handler ε} (h : (kind, handler) ∈ member.handlers) :
    handler.subject? = some t := by
  cases member <;> simp only [handlers, List.mem_cons, List.not_mem_nil, or_false,
    Prod.mk.injEq] at h
  case property =>
    rcases h with ⟨-, rfl⟩ | ⟨-, rfl⟩ <;> rfl
  all_goals
    obtain ⟨-, rfl⟩ := h
    rfl

theorem StaticMember.subject?_of_mem {member : StaticMember ε} {kind : CallKind}
    {handler : Handler ε} (h : (kind, handler) ∈ member.handlers) :
    handler.subject? = none := by
  cases member <;> simp only [handlers, List.mem_cons, List.not_mem_nil, or_false,
    Prod.mk.injEq] at h
  case property =>
    rcases h with ⟨-, rfl⟩ | ⟨-, rfl⟩ <;> rfl
  all_goals
    obtain ⟨-, rfl⟩ := h
    rfl

namespace Registration

/-- The placements of a registration, in order; codecs have none. -/
def placements : Registration ε → List (Placement ε)
  | onObjects t name member =>
    member.handlers.map fun (kind, handler) => .onType t name false kind handler
  | onType t name member =>
    member.handlers.map fun (kind, handler) => .onType t name true kind handler
  | onNamespace space name member =>
    member.handlers.map fun (kind, handler) => .onNamespace space name kind handler
  | typeName t name => [.typeName t name]
  | _ => []

/-- The codecs once a registration is made; members and names leave them alone. -/
def codecsAfter (warnOnLossy : Bool) (codecs : Codecs ε) : Registration ε → Codecs ε
  | codec t pack unpack => (codecs.register t pack unpack).value
  | packed t => (codecs.registerPacked t warnOnLossy).value.2
  | converter t convert => codecs.registerConverter t convert
  | _ => codecs

/-- A registration binds each handler under a key where it belongs. -/
theorem fits_of_mem_placements {r : Registration ε} {p : Placement ε}
    {key : Key (HostType ε)} {found : Binding (Handler ε)} (hp : p ∈ r.placements)
    (hentry : p.entry? = some (key, found)) : found.handler.Fits key := by
  cases r with
  | onObjects t name member =>
    obtain ⟨⟨kind, handler⟩, hmem, rfl⟩ := List.mem_map.mp hp
    obtain ⟨rfl, rfl⟩ := Prod.mk.inj (Option.some.inj hentry)
    simp [Handler.Fits, InstanceMember.subject?_of_mem hmem, Key.ofName]
  | onType t name member =>
    obtain ⟨⟨kind, handler⟩, hmem, rfl⟩ := List.mem_map.mp hp
    obtain ⟨rfl, rfl⟩ := Prod.mk.inj (Option.some.inj hentry)
    simp [Handler.Fits, StaticMember.subject?_of_mem hmem, Key.ofName]
  | onNamespace space name member =>
    obtain ⟨⟨kind, handler⟩, hmem, rfl⟩ := List.mem_map.mp hp
    obtain ⟨rfl, rfl⟩ := Prod.mk.inj (Option.some.inj hentry)
    simp [Handler.Fits, StaticMember.subject?_of_mem hmem, Key.ofName]
  | typeName t name =>
    obtain rfl := List.mem_singleton.mp hp
    exact absurd hentry (by simp [Placement.entry?])
  | codec | packed | converter => exact absurd hp List.not_mem_nil

end Registration

namespace Bridge

open Placement

variable (b : Bridge ε)

theorem after_bindOnType (t : HostType ε) (name : String) (isStatic : Bool)
    (handlers : List (CallKind × Handler ε)) :
    b.after (bindOnType t name isStatic handlers) =
      { b with
        registry := placeAll b.registry
          (handlers.map fun (kind, handler) => .onType t name isStatic kind handler) } := by
  induction handlers generalizing b with
  | nil => rfl
  | cons h rest ih =>
    rw [bindOnType, after_bind, after_bind, ih]
    rfl

theorem after_bindOnNamespace (space name : String)
    (handlers : List (CallKind × Handler ε)) :
    b.after (bindOnNamespace space name handlers) =
      { b with
        registry := placeAll b.registry
          (handlers.map fun (kind, handler) => .onNamespace space name kind handler) } := by
  induction handlers generalizing b with
  | nil => rfl
  | cons h rest ih =>
    rw [bindOnNamespace, after_bind, after_bind, ih]
    rfl

/-- A registration makes its placements and registers its codec; nothing else changes. -/
theorem after_register (r : Registration ε) :
    b.after (register r) =
      { b with
        registry := placeAll b.registry r.placements
        codecs := r.codecsAfter b.config.warnOnLossy b.codecs } := by
  cases r with
  | onObjects t name member => exact after_bindOnType b t name false member.handlers
  | onType t name member => exact after_bindOnType b t name true member.handlers
  | onNamespace space name member => exact after_bindOnNamespace b space name member.handlers
  | typeName | codec | packed | converter => rfl

end Bridge

end HostBridge
