import HostBridge.Proofs.Install
import HostBridge.Proofs.Orderly

/-!
# Members of the host and members of an initializer

What a host has bound stays bound when the bridge gets ready, so a host can put a member
of its own in the place of a bundled one. This is about keys. Names are another matter: a
name may be that of a namespace and of a host type, and the namespace comes first. If the
initializer binds a member of a namespace with the name of a host type, then that member
is what the name leads to, and the static member of the host type, although bound as
before, can no longer be reached by name.

## Main definitions

- `Initializer.Shadows` — an initializer puts itself in front of what a request reaches
- `Bridge.Reachable.lookup?_ensureReady_iff` — a request reaches what it reached unless this happens
-/

namespace HostBridge

variable {ε : Type} [Embedding ε]

omit [Embedding ε] in
theorem Request.key_hostType_ne_named (q : Request ε) (t : HostType ε) (hash : UInt32) :
    q.key (.hostType t) ≠ q.key (.named hash) := by
  intro hkey
  have howner : Owner.hostType t = .named hash := congrArg Key.owner hkey
  exact nomatch howner

/-- An initializer shadows the binding that a request by name reaches: the request is for
    a static member, and the initializer binds the member of the namespace with this name,
    which is not what the request reaches. -/
def Initializer.Shadows (i : Initializer ε) (q : Request ε) (key : Key (HostType ε)) : Prop :=
  q.owner = none ∧ q.isStatic = true ∧
    ∃ name, q.typeName = some name ∧ key ≠ q.key (.named (NameHash.ofBytes name)) ∧
      ∃ p ∈ i.placements, p.key? = some (q.key (.named (NameHash.ofBytes name)))

theorem Initializer.shadows_iff {i : Initializer ε} {q : Request ε} {key : Key (HostType ε)}
    {name : List UInt8} (howner : q.owner = none) (hname : q.typeName = some name) :
    i.Shadows q key ↔ q.isStatic = true ∧ key ≠ q.key (.named (NameHash.ofBytes name)) ∧
      ∃ p ∈ i.placements, p.key? = some (q.key (.named (NameHash.ofBytes name))) := by
  constructor
  · rintro ⟨-, hstatic, other, hother, hne, hplaced⟩
    obtain rfl := Option.some.inj (hname.symm.trans hother)
    exact ⟨hstatic, hne, hplaced⟩
  · rintro ⟨hstatic, hne, hplaced⟩
    exact ⟨howner, hstatic, name, hname, hne, hplaced⟩

namespace Bridge

variable {b : Bridge ε} {i : Initializer ε} {key : Key (HostType ε)}

section

variable (hphase : b.phase = .uninitialized) (hinit : b.initializer = some i)
  (h : i.Registers) (kept : List ObjectRef)

include hphase hinit h

theorem inNamespace_ensureReady {name : UInt32} {keyOf : Owner (HostType ε) → Key (HostType ε)}
    {isStatic : Bool} (hin : b.registry.InNamespace name keyOf isStatic) :
    (b.after (ensureReady kept)).registry.InNamespace name keyOf isStatic := by
  obtain ⟨hstatic, hspace, hbound⟩ := hin
  refine ⟨hstatic, ?_, ?_⟩
  · exact (isNamespace_ensureReady hphase hinit h kept).mpr (Or.inr hspace)
  · exact (contains_ensureReady hphase hinit h kept).mpr (Or.inr hbound)

/-- A member of a namespace that is reached by name after but not before is one that the
    initializer binds. -/
theorem inNamespace_ensureReady_iff {name : UInt32}
    {keyOf : Owner (HostType ε) → Key (HostType ε)} {isStatic : Bool}
    (horder : Orderly b.registry) (howner : (keyOf (.named name)).owner = .named name)
    (hout : ¬b.registry.InNamespace name keyOf isStatic) :
    (b.after (ensureReady kept)).registry.InNamespace name keyOf isStatic ↔
      isStatic = true ∧ ∃ p ∈ i.placements, p.key? = some (keyOf (.named name)) := by
  constructor
  · rintro ⟨hstatic, -, hbound⟩
    rcases (contains_ensureReady hphase hinit h kept).mp hbound with hplaced | hbefore
    · exact ⟨hstatic, hplaced⟩
    · -- What was bound there before was in a marked namespace already.
      exact absurd ⟨hstatic, horder.marked howner hbefore, hbefore⟩ hout
  · rintro ⟨hstatic, p, hp, hkey⟩
    refine ⟨hstatic, ?_, ?_⟩
    · exact (isNamespace_ensureReady hphase hinit h kept).mpr
        (Or.inl ⟨p, hp, Orderly.namespace?_of_key? hkey howner⟩)
    · exact (contains_ensureReady hphase hinit h kept).mpr (Or.inl ⟨p, hp, hkey⟩)

/-- A name that leads to a member of a host type leads there after, unless the initializer
    binds the member of the namespace with this name. -/
theorem keyByName?_ensureReady_iff {q : Request ε} {name : List UInt8} {t : HostType ε}
    (horder : Orderly b.registry)
    (hout : ¬b.registry.InNamespace (NameHash.ofBytes name) q.key q.isStatic)
    (ht : b.registry.typeFor? (NameHash.ofBytes name) = some t)
    (hbound : b.registry.contains (q.key (.hostType t)) = true) :
    (b.after (ensureReady kept)).registry.keyByName? (NameHash.ofBytes name) q.key q.isStatic =
        some (q.key (.hostType t)) ↔
      ¬(q.isStatic = true ∧
        ∃ p ∈ i.placements, p.key? = some (q.key (.named (NameHash.ofBytes name)))) := by
  have howner : (q.key (.named (NameHash.ofBytes name))).owner =
      .named (NameHash.ofBytes name) := rfl
  rw [← inNamespace_ensureReady_iff hphase hinit h kept horder howner hout]
  constructor
  · intro hkey hin
    rw [Registry.keyByName?_of_inNamespace _ hin] at hkey
    exact q.key_hostType_ne_named t _ (Option.some.inj hkey).symm
  · intro hnot
    have hbound' : (b.after (ensureReady kept)).registry.contains (q.key (.hostType t)) = true :=
      (contains_ensureReady hphase hinit h kept).mpr (Or.inr hbound)
    rw [Registry.keyByName?_of_not_inNamespace _ hnot,
      typeFor?_ensureReady hphase hinit h kept ht, Option.bind_some, if_pos hbound']

end

/-- When a bridge gets ready by an initializer that registers, what a request reached keeps
    its binding; the request still reaches it if and only if the initializer does not
    shadow it. -/
theorem Reachable.lookup?_ensureReady_iff (hb : b.Reachable) (hphase : b.phase = .uninitialized)
    (hinit : b.initializer = some i) (h : i.Registers) (kept : List ObjectRef) {q : Request ε}
    (hkey : lookup? b.registry q = some key) :
    (b.after (ensureReady kept)).registry.binding? key = b.registry.binding? key ∧
      (lookup? (b.after (ensureReady kept)).registry q = some key ↔ ¬i.Shadows q key) := by
  have hbound := contains_of_lookup? hkey
  obtain ⟨found, hfound⟩ := Option.isSome_iff_exists.mp hbound
  refine ⟨(binding?_ensureReady hphase hinit h kept hfound).trans hfound.symm, ?_⟩
  cases howner : q.owner with
  | some t =>
    -- A request that knows the type goes by the key alone.
    obtain ⟨owner, rfl, hknown⟩ := exists_key_of_lookup? hkey
    obtain rfl := hknown t howner
    have hstays := (contains_ensureReady hphase hinit h kept).mpr (Or.inr hbound)
    refine iff_of_true ?_ ?_
    · rw [lookup?, howner]
      exact if_pos hstays
    · rintro ⟨hnone, -⟩
      exact Option.some_ne_none t (howner.symm.trans hnone)
  | none =>
    unfold lookup? at hkey ⊢
    rw [howner] at hkey ⊢
    obtain ⟨name, hname, hkey⟩ := Option.bind_eq_some_iff.mp hkey
    rw [hname, Option.bind_some]
    rw [Initializer.shadows_iff howner hname]
    obtain ⟨-, ⟨hin, rfl⟩ | ⟨hout, t, ht, rfl⟩⟩ := Registry.keyByName?_cases b.registry hkey
    · have hin' := inNamespace_ensureReady hphase hinit h kept hin
      refine iff_of_true (Registry.keyByName?_of_inNamespace _ hin') ?_
      rintro ⟨-, hne, -⟩
      exact hne rfl
    · rw [keyByName?_ensureReady_iff hphase hinit h kept hb.orderly hout ht hbound]
      simp only [q.key_hostType_ne_named t, ne_eq, not_false_eq_true, true_and]

/-- A host that binds `Mathf.PI` itself, under the namespace, keeps its own when the
    bundled members are installed. -/
theorem lookup?_ensureReady_overriding :
    let b : Bridge Playground := (bundled {} Playground.quietHost).after
      (performWith ensureReady []
        (.register (.onNamespace "Mathf" "PI" (.getter (return Playground.int32 3)))))
    let q : Request Playground := Request.byName "Mathf" "PI" .get true
    lookup? b.registry q = some (q.key (.named (NameHash.ofText "Mathf"))) ∧
      lookup? (b.after (ensureReady [])).registry q =
        some (q.key (.named (NameHash.ofText "Mathf"))) := by
  intro b q
  have hreachable : b.Reachable :=
    ⟨bundled {} Playground.quietHost, ⟨_, _, Or.inr rfl⟩, History.refl.performed trivial []⟩
  have hkey : lookup? b.registry q = some (q.key (.named (NameHash.ofText "Mathf"))) := by
    decide +kernel
  have hname : NameHash.ofBytes (Text.utf8 "Mathf") = NameHash.ofText "Mathf" := by decide
  have hstays := Reachable.lookup?_ensureReady_iff (i := .bundled Builtins.registrations)
    hreachable rfl rfl trivial [] hkey
  refine ⟨hkey, hstays.2.mpr ?_⟩
  rintro ⟨-, -, name, hspace, hne, -⟩
  obtain rfl := Option.some.inj hspace
  exact hne (by rw [hname])

/-- A host that lets a type of its own go by the name `Mathf` and gives it an integer `PI`
    reaches this member by name at first. Once the bundled members are installed the same
    name leads to the bundled member, and a call answers with a float. -/
theorem lookup?_ensureReady_shadowed :
    let named : Bridge Playground := (bundled {} Playground.quietHost).after
      (performWith ensureReady [] (.register (.typeName Playground.counterType "Mathf")))
    let b : Bridge Playground := named.after (performWith ensureReady []
      (.register (.onType Playground.counterType "PI" (.getter (return Playground.int32 3)))))
    let q : Request Playground := Request.byName "Mathf" "PI" .get true
    b.Reachable ∧ b.phase = .uninitialized ∧
      b.initializer = some (.bundled Builtins.registrations) ∧
      lookup? b.registry q = some (q.key (.hostType Playground.counterType)) ∧
      lookup? (b.after (ensureReady [])).registry q ≠
        some (q.key (.hostType Playground.counterType)) ∧
      (b.answer ((Entry.request q).call ensureReady)).map Slot.kind = some .float32 := by
  intro named b q
  refine ⟨?_, rfl, rfl, ?_, ?_, ?_⟩
  · exact ⟨bundled {} Playground.quietHost, ⟨_, _, Or.inr rfl⟩,
      (History.refl.performed trivial []).performed trivial []⟩
  · decide +kernel
  · decide +kernel
  · decide +kernel

end Bridge

end HostBridge
