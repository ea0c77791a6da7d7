import HostBridge.Proofs.Earliest

/-!
# Initializers that register

An initializer that only registers, as that of the bundled members does, makes its
placements and registers its codecs while existing entries stay. This is all that getting
ready does to the registry: what was bound and named before is bound and named as before.

## Main definitions

- `Initializer.Registers`, `Initializer.registrations`, `Initializer.placements` —
  initializers that only register, and what they register and place
- `Bridge.after_install` — what such an initializer does to a bridge
- `Bridge.registry_ensureReady`, `Bridge.codecs_ensureReady` — the registry and the codecs
  of a bridge that has got ready
-/

namespace HostBridge

variable {ε : Type} [Embedding ε]

/-- Operations that make a registration and nothing else with the registry. -/
def Command.Registers : Command ε → Prop
  | .register _ => True
  | .registerWithId .. => True
  | _ => False

/-- The placements of an operation that registers. -/
def Command.placements : Command ε → List (Placement ε)
  | .register r => r.placements
  | .registerWithId space name f => (Registration.onNamespace space name (.method f)).placements
  | _ => []

/-- The registration that an operation makes. -/
def Command.registration? : Command ε → Option (Registration ε)
  | .register r => some r
  | .registerWithId space name f => some (.onNamespace space name (.method f))
  | _ => none

namespace Initializer

/-- Initializers that are a sequence of registrations. -/
def Registers : Initializer ε → Prop
  | bundled _ => True
  | custom commands => ∀ c ∈ commands, c.Registers

/-- What an initializer that registers places, in order. -/
def placements : Initializer ε → List (Placement ε)
  | bundled registrations => registrations.flatMap Registration.placements
  | custom commands => commands.flatMap Command.placements

/-- The registrations of an initializer, in order. -/
def registrations : Initializer ε → List (Registration ε)
  | bundled registrations => registrations
  | custom commands => commands.flatMap fun c => c.registration?.toList

end Initializer

namespace Registration

/-- The codecs once registrations are made one after the other. -/
def codecsAfterAll (warnOnLossy : Bool) (codecs : Codecs ε) (rs : List (Registration ε)) :
    Codecs ε :=
  rs.foldl (codecsAfter warnOnLossy) codecs

variable (warnOnLossy : Bool) (codecs : Codecs ε)

@[simp] theorem codecsAfterAll_cons (r : Registration ε) (rs : List (Registration ε)) :
    codecsAfterAll warnOnLossy codecs (r :: rs) =
      codecsAfterAll warnOnLossy (r.codecsAfter warnOnLossy codecs) rs := rfl

theorem codecsAfterAll_append (rs rs' : List (Registration ε)) :
    codecsAfterAll warnOnLossy codecs (rs ++ rs') =
      codecsAfterAll warnOnLossy (codecsAfterAll warnOnLossy codecs rs) rs' :=
  List.foldl_append

end Registration

namespace Bridge

open Placement

variable (b : Bridge ε)

/-- Registrations make their placements and register their codecs; nothing else changes. -/
theorem after_registerAll (rs : List (Registration ε)) :
    b.after (registerAll rs) =
      { b with
        registry := placeAll b.registry (rs.flatMap Registration.placements)
        codecs := Registration.codecsAfterAll b.config.warnOnLossy b.codecs rs } := by
  induction rs generalizing b with
  | nil => rfl
  | cons r rs ih =>
    have hsplit : b.after (registerAll (r :: rs)) =
        (b.after (register r)).after (registerAll rs) := rfl
    rw [hsplit, ih, after_register, List.flatMap_cons, placeAll_append]
    rfl

/-- An operation that registers may also give a number to a key. -/
theorem after_performWith_of_registers (ready : Readiness ε) (kept : List ObjectRef)
    {c : Command ε} (h : c.Registers) :
    ∃ ids, b.after (performWith ready kept c) =
      { b with
        registry := placeAll b.registry c.placements
        codecs := Registration.codecsAfterAll b.config.warnOnLossy b.codecs c.registration?.toList
        ids } := by
  cases c with
  | register r => exact ⟨b.ids, after_register b r⟩
  | registerWithId space name f =>
    obtain ⟨ids, hids⟩ := exists_ids_assignId (b.after (register (.onNamespace space name
      (.method f)))) (.ofName (.named (NameHash.ofText space)) name .method true)
    have hsplit : b.after (performWith ready kept (.registerWithId space name f)) =
        (b.after (register (.onNamespace space name (.method f)))).after
          (assignId (.ofName (.named (NameHash.ofText space)) name .method true)) := rfl
    refine ⟨ids, ?_⟩
    rw [hsplit, hids, after_register]
    rfl
  | _ => exact absurd h id

theorem after_performAllWith_of_registers (ready : Readiness ε) (kept : List ObjectRef)
    {cs : List (Command ε)} (h : ∀ c ∈ cs, c.Registers) :
    ∃ ids, b.after (performAllWith ready kept cs) =
      { b with
        registry := placeAll b.registry (cs.flatMap Command.placements)
        codecs := Registration.codecsAfterAll b.config.warnOnLossy b.codecs
          (cs.flatMap fun c => c.registration?.toList)
        ids } := by
  induction cs generalizing b with
  | nil => exact ⟨b.ids, rfl⟩
  | cons c cs ih =>
    have hsplit : b.after (performAllWith ready kept (c :: cs)) =
        (b.after (performWith ready kept c)).after (performAllWith ready kept cs) := rfl
    obtain ⟨ids, hfirst⟩ := after_performWith_of_registers b ready kept (h c List.mem_cons_self)
    obtain ⟨ids', hrest⟩ := ih (b.after (performWith ready kept c))
      fun d hd => h d (List.mem_cons_of_mem c hd)
    refine ⟨ids', ?_⟩
    rw [hsplit, hrest, hfirst, List.flatMap_cons, placeAll_append, List.flatMap_cons,
      Registration.codecsAfterAll_append]

/-- To run an initializer that registers is to make its registrations. -/
theorem after_install (kept : List ObjectRef) {i : Initializer ε} (h : i.Registers) :
    ∃ ids replies, b.after (install kept i) =
      { b with
        registry := placeAll b.registry i.placements
        codecs := Registration.codecsAfterAll b.config.warnOnLossy b.codecs i.registrations
        ids, replies } := by
  cases i with
  | bundled rs => exact ⟨b.ids, b.replies, after_registerAll b rs⟩
  | custom cs =>
    obtain ⟨ids, hall⟩ := after_performAllWith_of_registers b (fun _ => pure ()) kept h
    refine ⟨ids, b.replies ++ b.answer (performAllWith (fun _ => pure ()) kept cs), ?_⟩
    have hinstall : b.after (install kept (.custom cs)) =
        { b.after (performAllWith (fun _ => pure ()) kept cs) with
          replies := (b.after (performAllWith (fun _ => pure ()) kept cs)).replies ++
            b.answer (performAllWith (fun _ => pure ()) kept cs) } := rfl
    rw [hinstall, hall]
    rfl

variable {b}

/-- A bridge that gets ready has the placements of its initializer made while existing
    entries stay. -/
theorem registry_ensureReady {i : Initializer ε} (hphase : b.phase = .uninitialized)
    (hinit : b.initializer = some i) (h : i.Registers) (kept : List ObjectRef) :
    (b.after (ensureReady kept)).registry =
      { placeAll { b.registry with keepExisting := true } i.placements with
        keepExisting := false } := by
  obtain ⟨ids, replies, hinstall⟩ := after_install b.begun kept h
  rw [after_ensureReady_of_some hphase hinit, hinstall]
  rfl

/-- It has the codecs of its initializer registered while existing codecs stay. -/
theorem codecs_ensureReady {i : Initializer ε} (hphase : b.phase = .uninitialized)
    (hinit : b.initializer = some i) (h : i.Registers) (kept : List ObjectRef) :
    (b.after (ensureReady kept)).codecs =
      { Registration.codecsAfterAll b.config.warnOnLossy
          { b.codecs with keepExisting := true } i.registrations with
        keepExisting := false } := by
  obtain ⟨ids, replies, hinstall⟩ := after_install b.begun kept h
  rw [after_ensureReady_of_some hphase hinit, hinstall]
  rfl

-- ════════════════════════════════════════════════════════════════════════
-- What a bridge keeps when it gets ready
-- ════════════════════════════════════════════════════════════════════════

section

variable {i : Initializer ε} {key : Key (HostType ε)} (hphase : b.phase = .uninitialized)
  (hinit : b.initializer = some i) (h : i.Registers) (kept : List ObjectRef)

include hphase hinit h

theorem binding?_ensureReady {found : Binding (Handler ε)}
    (hfound : b.registry.binding? key = some found) :
    (b.after (ensureReady kept)).registry.binding? key = some found := by
  rw [registry_ensureReady hphase hinit h]
  exact binding?_placeAll_of_keeping (r := { b.registry with keepExisting := true }) rfl hfound
    i.placements

theorem typeFor?_ensureReady {hash : UInt32} {t : HostType ε}
    (ht : b.registry.typeFor? hash = some t) :
    (b.after (ensureReady kept)).registry.typeFor? hash = some t := by
  rw [registry_ensureReady hphase hinit h]
  exact typeFor?_placeAll_of_keeping (r := { b.registry with keepExisting := true }) rfl ht
    i.placements

theorem contains_ensureReady :
    (b.after (ensureReady kept)).registry.contains key = true ↔
      (∃ p ∈ i.placements, p.key? = some key) ∨ b.registry.contains key = true := by
  rw [registry_ensureReady hphase hinit h]
  exact contains_placeAll { b.registry with keepExisting := true } i.placements key

theorem isNamespace_ensureReady {hash : UInt32} :
    (b.after (ensureReady kept)).registry.isNamespace hash = true ↔
      (∃ p ∈ i.placements, p.namespace? = some hash) ∨ b.registry.isNamespace hash = true := by
  rw [registry_ensureReady hphase hinit h]
  exact isNamespace_placeAll { b.registry with keepExisting := true } i.placements hash

end

end Bridge

end HostBridge
