import HostBridge.Proofs.Install
import HostBridge.Proofs.Keeping

/-!
# The registry of the host merged with that of an initializer

An initializer may do anything on the bridge that it initializes. Of what it does, only
registrations and clearing reach the registry, so an initializer that does not clear makes
its placements and nothing else, however many calls it mixes in between. The registry
afterwards is a merge of two: the entries of the host, and behind them, for each key and each
name, the earliest placement of the initializer. After that registrations overwrite again.

## Main statements

- `Bridge.registry_ensureReady_of_not_clears` — the registry of a bridge that has got ready
- `Bridge.merged_ensureReady` — it is such a merge, and later registrations overwrite
-/

namespace HostBridge

variable {ε : Type} [Embedding ε]

/-- Of the changes that operations make, only registrations and clearing reach the registry. -/
theorem Command.Makes.onRegistry_eq {c : Command ε} {change : Change ε} (h : c.Makes change)
    (hregisters : ¬c.Registers) (hclear : c ≠ .clear)
    (r : Registry (HostType ε) (Handler ε)) : change.onRegistry r = r := by
  cases change with
  | register registration =>
    cases c with
    | register | registerWithId => exact absurd trivial hregisters
    | _ => exact absurd h id
  | clear =>
    cases c with
    | clear => exact absurd rfl hclear
    | _ => exact absurd h id
  | begin | finish => cases c <;> exact absurd h id
  | number | lend | release | releaseAll | work | setInitializer | skip => rfl

theorem Command.placements_eq_nil {c : Command ε} (h : ¬c.Registers) : c.placements = [] := by
  cases c with
  | register | registerWithId => exact absurd trivial h
  | _ => rfl

namespace Bridge

open Placement

variable {a b : Bridge ε} {kept : List ObjectRef}

-- ════════════════════════════════════════════════════════════════════════
-- What operations place
-- ════════════════════════════════════════════════════════════════════════

/-- While a bridge gets ready, an operation other than clearing makes its placements. -/
theorem registry_performWith (b : Bridge ε) (kept : List ObjectRef) {c : Command ε}
    (hclear : c ≠ .clear) :
    (b.after (performWith (fun _ => pure ()) kept c)).registry =
      placeAll b.registry c.placements := by
  by_cases hregisters : c.Registers
  · obtain ⟨ids, hafter⟩ := after_performWith_of_registers b (fun _ => pure ()) kept hregisters
    rw [hafter]
  · have hchanges : Changes c.Makes b (b.after (performWith (fun _ => pure ()) kept c)) :=
      changes_performWith b (fun _ _ _ => .refl) (fun _ hmakes => hmakes) kept
    rw [Command.placements_eq_nil hregisters, placeAll_nil]
    refine hchanges.invariant (I := fun d => d.registry = b.registry) rfl ?_
    intro d change hmakes _ hd
    rw [registry_apply, hmakes.onRegistry_eq hregisters hclear, hd]

theorem registry_performAllWith (b : Bridge ε) (kept : List ObjectRef) {cs : List (Command ε)}
    (hclear : .clear ∉ cs) :
    (b.after (performAllWith (fun _ => pure ()) kept cs)).registry =
      placeAll b.registry (cs.flatMap Command.placements) := by
  induction cs generalizing b with
  | nil => rfl
  | cons c cs ih =>
    rw [List.mem_cons, not_or] at hclear
    have hsplit : b.after (performAllWith (fun _ => pure ()) kept (c :: cs)) =
        (b.after (performWith (fun _ => pure ()) kept c)).after
          (performAllWith (fun _ => pure ()) kept cs) := rfl
    rw [hsplit, ih _ hclear.2, registry_performWith b kept (Ne.symm hclear.1), List.flatMap_cons,
      placeAll_append]

/-- An initializer that does not clear the bridge makes its placements. -/
theorem registry_install (b : Bridge ε) (kept : List ObjectRef) {i : Initializer ε}
    (hclears : ¬i.Clears) :
    (b.after (install kept i)).registry = placeAll b.registry i.placements := by
  cases i with
  | bundled rs => exact congrArg Bridge.registry (after_registerAll b rs)
  | custom cs => exact registry_performAllWith b kept hclears

/-- It makes them while existing entries stay. -/
theorem registry_ensureReady_of_not_clears {i : Initializer ε} (hphase : b.phase = .uninitialized)
    (hinit : b.initializer = some i) (hclears : ¬i.Clears) (kept : List ObjectRef) :
    (b.after (ensureReady kept)).registry =
      { placeAll { b.registry with keepExisting := true } i.placements with
        keepExisting := false } := by
  have hinstall : (b.begun.after (install kept i)).registry =
      placeAll { b.registry with keepExisting := true } i.placements :=
    registry_install b.begun kept hclears
  rw [after_ensureReady_of_some hphase hinit, finished, setKeepExisting, hinstall]

-- ════════════════════════════════════════════════════════════════════════
-- After that nothing gives way
-- ════════════════════════════════════════════════════════════════════════

/-- On a settled bridge existing entries do not start to stay. -/
theorem History.keepExisting_eq_false {P : Command ε → Prop} (h : History P a b) (hs : a.Settled)
    (hfree : a.registry.keepExisting = false) : b.registry.keepExisting = false := by
  refine (h.changes_of_settled hs).1.invariant (I := fun d => d.registry.keepExisting = false)
    hfree ?_
  intro d change hkind _ hd
  rw [registry_apply]
  cases change with
  | register r => exact (keepExisting_placeAll d.registry r.placements).trans hd
  | finish => rfl
  | begin =>
    obtain ⟨c, -, hmakes⟩ := hkind
    cases c <;> exact absurd hmakes id
  | number | lend | release | releaseAll | work | clear | setInitializer | skip => exact hd

/-- A bridge on which the placements of an operation take effect: a key is bound by the latest
    one that binds it, a name belongs to the host type that claimed it last, and the rest is as
    it was. -/
structure Overwrites (b : Bridge ε) (ps : List (Placement ε)) (after : Bridge ε) : Prop where
  binding? : ∀ key, after.registry.binding? key =
    (latest? (bindingAt? key) ps).or (b.registry.binding? key)
  typeFor? : ∀ hash, after.registry.typeFor? hash =
    (latest? (claimant? hash) ps).or (b.registry.typeFor? hash)

theorem overwrites_performWith (hfree : b.registry.keepExisting = false) (ready : Readiness ε)
    (kept : List ObjectRef) {c : Command ε} (hregisters : c.Registers) :
    b.Overwrites c.placements (b.after (performWith ready kept c)) := by
  obtain ⟨ids, hafter⟩ := after_performWith_of_registers b ready kept hregisters
  rw [hafter]
  exact ⟨binding?_placeAll hfree c.placements, typeFor?_placeAll hfree c.placements⟩

/-- When a bridge gets ready by an initializer that does not clear it, every key is bound as
    the host has bound it, or else as the initializer binds it first; every name belongs to the
    host type to which the host has given it, or else to the one to which the initializer gives
    it first; and nothing else is bound or named. Whatever happens afterwards, a registration
    overwrites. -/
theorem merged_ensureReady {i : Initializer ε} (hphase : b.phase = .uninitialized)
    (hinit : b.initializer = some i) (hclears : ¬i.Clears) (kept : List ObjectRef) :
    let ready := b.after (ensureReady kept)
    (∀ key, ready.registry.binding? key =
        (b.registry.binding? key).or (i.placements.findSome? (bindingAt? key))) ∧
      (∀ hash, ready.registry.typeFor? hash =
        (b.registry.typeFor? hash).or (i.placements.findSome? (claimant? hash))) ∧
      ∀ {later : Bridge ε}, History (fun _ => True) ready later →
        ∀ (c : Command ε), c.Registers → ∀ objects,
          later.Overwrites c.placements (later.after (performWith ensureReady objects c)) := by
  intro ready
  have hregistry : ready.registry =
      { placeAll { b.registry with keepExisting := true } i.placements with
        keepExisting := false } :=
    registry_ensureReady_of_not_clears hphase hinit hclears kept
  refine ⟨fun key => ?_, fun hash => ?_, fun {later} hlater c hregisters objects => ?_⟩
  · rw [hregistry]
    exact binding?_placeAll_keeping (r := { b.registry with keepExisting := true }) rfl
      i.placements key
  · rw [hregistry]
    exact typeFor?_placeAll_keeping (r := { b.registry with keepExisting := true }) rfl
      i.placements hash
  · have hfree : ready.registry.keepExisting = false := by rw [hregistry]
    exact overwrites_performWith
      (hlater.keepExisting_eq_false (settled_after_ensureReady b kept) hfree) ensureReady objects
      hregisters

/-- A host has bound `Tools.limit`. An initializer binds it as well and binds `Tools.size` twice,
    with a call and a number for it in between, and gives two host types one name. The host's
    limit stays, the first size and the first host type count, and after that a new size
    overwrites. -/
theorem merged_ensureReady_sharing :
    let tool (member value : String) : Command Playground :=
      .register (.onNamespace "Tools" member (.getter (return .value .string value)))
    let cs : List (Command Playground) :=
      [tool "limit" "built-in", tool "size" "first", .call (.static "Tools" "size" .get) [],
        .resolveId "Tools" "size" .get true, tool "size" "second",
        .register (.typeName Playground.counterType "Gadget"),
        .register (.typeName .clock "Gadget")]
    let b : Bridge Playground := (new {} Playground.quietHost).after
      (performAllWith ensureReady [] [tool "limit" "host", .setInitializer cs])
    let ready : Bridge Playground := b.after (ensureReady [])
    let later : Bridge Playground := ready.after (performWith ensureReady [] (tool "size" "later"))
    let key (member : String) : Key Playground.Kind :=
      .ofName (.named (NameHash.ofText "Tools")) member .get true
    let read (d : Bridge Playground) (member : String) : Option String :=
      (d.answer (call ensureReady [] (.static "Tools" member .get))).bind Slot.text?
    b.phase = .uninitialized ∧ b.initializer = some (.custom cs) ∧
      ¬(Initializer.custom cs).Clears ∧
      ready.registry.binding? (key "limit") = (b.registry.binding? (key "limit")).or
        ((Initializer.custom cs).placements.findSome? (bindingAt? (key "limit"))) ∧
      read ready "limit" = some "host" ∧ read ready "size" = some "first" ∧
      ready.registry.typeFor? (NameHash.ofText "Gadget") = some Playground.counterType ∧
      ready.Overwrites (tool "size" "later").placements later ∧
      read later "size" = some "later" := by
  intro tool cs b ready later key read
  have hclears : ¬(Initializer.custom cs).Clears := by
    simp [Initializer.Clears, cs, tool]
  obtain ⟨hbinding, htype, hlater⟩ :=
    merged_ensureReady (b := b) (i := .custom cs) rfl rfl hclears []
  refine ⟨rfl, rfl, hclears, hbinding (key "limit"), ?_, ?_, ?_, ?_, ?_⟩
  · decide +kernel
  · decide +kernel
  · exact (htype _).trans (by decide +kernel)
  · exact hlater .refl (tool "size" "later") trivial []
  · decide +kernel

end Bridge

end HostBridge
