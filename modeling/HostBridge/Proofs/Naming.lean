import HostBridge.Proofs.Install
import HostBridge.Proofs.Keeping
import HostBridge.Proofs.Latest
import HostBridge.Proofs.NameHash

/-!
# Names under which members are registered

What a host registers as a member of a namespace is to be reached by the name of the
namespace. It is, if the text of this name has the hash of its bytes, as every ASCII text
has: the member is bound, a call by name has its function serve it, and the name is resolved
to the number that the registration gave. A name whose hashes differ is registered all the
same, but nothing that goes by the name ever arrives at the member.

## Main definitions

- `Bridge.Entered` — a method is bound in a namespace and has a number
- `Bridge.Reached` — what goes by a name arrives at a method with a number
- `Bridge.Reachable.reached_registerWithId_iff` — when it does
-/

namespace HostBridge.Bridge

variable {ε : Type} [Embedding ε] {b : Bridge ε} {space name : String}

/-- The key of a method of a namespace. -/
abbrev methodKey (space name : String) : Key (HostType ε) :=
  .ofName (.named (NameHash.ofText space)) name .method true

-- ════════════════════════════════════════════════════════════════════════
-- From a name to a key
-- ════════════════════════════════════════════════════════════════════════

/-- The name of a namespace leads to a method that is bound there if and only if the two
    hashes of the name agree. -/
theorem lookup?_methodKey_iff {registry : Registry (HostType ε) (Handler ε)}
    (hbound : registry.contains (methodKey space name) = true)
    (hspace : registry.isNamespace (NameHash.ofText space) = true) :
    lookup? registry (Request.byName space name .method true) = some (methodKey space name) ↔
      NameHash.Agrees space := by
  have hlookup : lookup? registry (Request.byName space name .method true) =
      registry.keyByName? (NameHash.ofBytes (Text.utf8 space))
        (Request.byName space name .method true).key true := rfl
  rw [hlookup]
  constructor
  · intro hkey
    obtain ⟨-, ⟨-, hsame⟩ | ⟨-, t, -, hsame⟩⟩ := Registry.keyByName?_cases registry hkey
    · exact Owner.named.inj (congrArg Key.owner hsame)
    · exact absurd (congrArg Key.owner hsame) (fun howner => nomatch howner)
  · intro hagrees
    rw [← hagrees]
    exact Registry.keyByName?_of_inNamespace registry ⟨rfl, hspace, hbound⟩

-- ════════════════════════════════════════════════════════════════════════
-- What a registration leaves
-- ════════════════════════════════════════════════════════════════════════

/-- A method is bound in a namespace that is marked, and its key has a number. -/
structure Entered (b : Bridge ε) (space name : String) (f : HostFunction ε) (id : Nat) : Prop where
  bound : b.registry.binding? (methodKey space name) = some ⟨name, .function f.params f.act⟩
  marked : b.registry.isNamespace (NameHash.ofText space) = true
  numbered : b.ids.assign (methodKey space name) = .ok (id, b.ids)

theorem Entered.of_keeps {a : Bridge ε} {f : HostFunction ε} {id : Nat}
    (h : a.Entered space name f id) (hkeeps : b.Keeps a) : b.Entered space name f id where
  bound := hkeeps.binding? h.bound
  marked := hkeeps.isNamespace h.marked
  numbered := BindingIds.assign_of_extends h.numbered hkeeps.ids

/-- A registration with a number enters its method, where nothing gives way. -/
theorem entered_registerWithId {f : HostFunction ε} {id : Nat}
    (hkeep : b.registry.keepExisting = false)
    (hid : b.answer (registerWithId space name f) = .ok id) :
    (b.after (registerWithId space name f)).Entered space name f id := by
  -- The bridge on which the key gets its number.
  let registered : Bridge ε := b.after (register (.onNamespace space name (.method f)))
  have hregistry : registered.registry = Placement.place b.registry
      (.onNamespace space name .method (.function f.params f.act)) :=
    congrArg Bridge.registry (after_register b (.onNamespace space name (.method f)))
  have hanswer : registered.answer (assignId (methodKey space name)) = .ok id := hid
  obtain ⟨ids, hassign, hafter⟩ := exists_assign_of_answer hanswer
  have hall : b.after (registerWithId space name f) = { registered with ids } := hafter
  rw [hall]
  refine ⟨?_, ?_, BindingIds.assign_of_extends hassign .refl⟩
  · show registered.registry.binding? _ = _
    rw [hregistry, Placement.binding?_place hkeep]
    simp [Placement.bindingAt?, Placement.entry?]
  · show registered.registry.isNamespace _ = true
    rw [hregistry, Placement.isNamespace_place]
    simp [Placement.namespace?]

theorem frame_registerWithId (b : Bridge ε) (space name : String) (f : HostFunction ε) :
    (b.after (registerWithId space name f)).phase = b.phase ∧
      (b.after (registerWithId space name f)).initializer = b.initializer := by
  obtain ⟨ids, hafter⟩ := after_performWith_of_registers b ensureReady []
    (c := .registerWithId space name f) trivial
  have hphase := congrArg Bridge.phase hafter
  have hinit := congrArg Bridge.initializer hafter
  exact ⟨hphase, hinit⟩

-- ════════════════════════════════════════════════════════════════════════
-- What goes by the name
-- ════════════════════════════════════════════════════════════════════════

namespace Entered

variable {f : HostFunction ε} {id : Nat}

theorem contains (h : b.Entered space name f id) :
    b.registry.contains (methodKey space name) = true := by
  rw [Registry.contains, h.bound]
  rfl

theorem lookup?_iff (h : b.Entered space name f id) :
    lookup? b.registry (Request.byName space name .method true) = some (methodKey space name) ↔
      NameHash.Agrees space :=
  lookup?_methodKey_iff h.contains h.marked

/-- If the hashes agree, the method serves a call by the name. -/
theorem serviceByName?_eq_some (h : b.Entered space name f id) (hagrees : NameHash.Agrees space)
    (args : List Slot) :
    b.serviceByName? { Request.byName space name .method true with args } =
      some ⟨methodKey space name, .function f.params f.act, none, args⟩ := by
  have hget : b.registry.get? (methodKey space name) = some (.function f.params f.act) := by
    rw [Registry.get?, h.bound]
    rfl
  show (lookup? b.registry (Request.byName space name .method true)).bind _ = _
  rw [h.lookup?_iff.mpr hagrees, Option.bind_some, serviceAt?, hget]
  rfl

/-- Whatever serves a call by the name is not the method, unless the hashes agree. -/
theorem agrees_of_serviceByName? (h : b.Entered space name f id) {args : List Slot} {s : Service ε}
    (hs : b.serviceByName? { Request.byName space name .method true with args } = some s)
    (hkey : s.key = methodKey space name) : NameHash.Agrees space :=
  h.lookup?_iff.mp (hkey ▸ (of_serviceByName?_eq_some hs).1)

/-- The name is resolved to the number of the method if and only if the hashes agree. -/
theorem answer_resolveId_iff (h : (b.after (ensureReady [])).Entered space name f id) :
    b.answer (resolveId (ensureReady []) space name .method true) = .ok id ↔
      NameHash.Agrees space := by
  rw [← h.lookup?_iff]
  constructor
  · intro hresolved
    have hid : (b.after (ensureReady [])).ids.key? id = some (methodKey space name) :=
      BindingIds.key?_of_assign h.numbered
    cases hkey : lookup? (b.after (ensureReady [])).registry
        (Request.byName space name .method true) with
    | none => simp [resolveId, hkey] at hresolved
    | some key =>
      -- The key that the name leads to has the number as well.
      have hassigned : (b.after (ensureReady [])).answer (assignId key) = .ok id := by
        simpa [resolveId, hkey] using hresolved
      obtain ⟨ids, hassign, -⟩ := exists_assign_of_answer hassigned
      have hkey' : ids.key? id = some key := BindingIds.key?_of_assign hassign
      rw [← hkey', (BindingIds.extends_of_assign hassign).key? hid]
  · intro hkey
    have hanswer : b.answer (resolveId (ensureReady []) space name .method true) =
        (b.after (ensureReady [])).answer (assignId (methodKey space name)) := by
      simp [resolveId, hkey]
    rw [hanswer, assignId, answer_modifyGet, h.numbered]

end Entered

/-- What goes by a name arrives at a method with a number: the name is bound, every call by
    it has the method's function serve it, and it is resolved to the number. -/
structure Reached (a : Bridge ε) (space name : String) (f : HostFunction ε) (id : Nat) : Prop where
  bound : a.hasBinding space name .method true = true
  hit : ∀ args, (a.answer (call ensureReady args (.static space name .method))).isSome = true
  served : ∀ args, a.outcome (call ensureReady args (.static space name .method)) =
    (a.after (ensureReady [])).outcome (invoke (.function f.params f.act) none args)
  resolved : a.answer (resolveId (ensureReady []) space name .method true) = .ok id

theorem Entered.reached {a : Bridge ε} {f : HostFunction ε} {id : Nat}
    (ha : a.Entered space name f id) (hready : (a.after (ensureReady [])).Entered space name f id)
    (hagrees : NameHash.Agrees space) : a.Reached space name f id := by
  have hserved (args : List Slot) : a.outcome (call ensureReady args (.static space name .method)) =
      (a.after (ensureReady [])).outcome (invoke (.function f.params f.act) none args) := by
    have hservice : (Entry.callee (.static space name .method) args).service? ensureReady a =
        some ⟨methodKey space name, .function f.params f.act, none, args⟩ :=
      hready.serviceByName?_eq_some hagrees args
    have houtcome := (Entry.callee (.static space name .method) args).outcome_call ensureReady a
    rw [hservice] at houtcome
    exact houtcome
  refine ⟨?_, fun args => ?_, hserved, hready.answer_resolveId_iff.mpr hagrees⟩
  · show (lookup? a.registry _).isSome = true
    rw [ha.lookup?_iff.mpr hagrees]
    rfl
  · have hanswer : a.answer (call ensureReady args (.static space name .method)) =
        (a.after (ensureReady [])).answer (invoke (.function f.params f.act) none args) :=
      congrArg Prod.fst (hserved args)
    rw [hanswer]
    exact isSome_answer_invoke _ args rfl

/-- What a host registers as a method of a namespace, with a number, is reached by its name
    if and only if the text of the namespace's name has the hash of its bytes, as all ASCII
    texts have. Otherwise no call by the name is served by the method. -/
theorem Reachable.reached_registerWithId_iff (hb : b.Reachable) (hphase : b.phase ≠ .initializing)
    (hclears : ∀ i, b.phase = .uninitialized → b.initializer = some i → ¬i.Clears)
    (space name : String) (f : HostFunction ε) {id : Nat}
    (hid : b.answer (registerWithId space name f) = .ok id) :
    let a := b.after (registerWithId space name f)
    (a.Reached space name f id ↔ NameHash.Agrees space) ∧
      ((∀ c ∈ space.toList.takeWhile (· ≠ '\x00'), c.val < 128) → NameHash.Agrees space) ∧
      (¬NameHash.Agrees space → ∀ args s,
        (Entry.callee (.static space name .method) args).service? ensureReady a = some s →
          s.key ≠ methodKey space name) := by
  intro a
  have hkeep : b.registry.keepExisting = false := hb.guarded.trans (decide_eq_false hphase)
  have ha : a.Entered space name f id := entered_registerWithId hkeep hid
  have hready : (a.after (ensureReady [])).Entered space name f id := by
    obtain ⟨hsame, hinit⟩ := frame_registerWithId b space name f
    refine ha.of_keeps (keeps_ensureReady a [] fun i hi hsome => ?_)
    exact hclears i (hsame.symm.trans hi) (hinit.symm.trans hsome)
  refine ⟨⟨?_, ha.reached hready⟩, NameHash.agrees_of_ascii, ?_⟩
  · intro hreached
    exact hready.answer_resolveId_iff.mp hreached.resolved
  · intro hdiffer args s hs hkey
    exact hdiffer (hready.agrees_of_serviceByName? hs hkey)

/-- A method of a namespace with an ASCII name is reached, also by way of an initializer that
    has yet to run. -/
theorem reached_registerWithId_ascii :
    let b : Bridge Playground := bundled {} Playground.quietHost
    let f : HostFunction Playground := Playground.Function.seven.code
    b.answer (registerWithId "Tools" "seven" f) = .ok 1 ∧
      (b.after (registerWithId "Tools" "seven" f)).Reached "Tools" "seven" f 1 := by
  intro b f
  have hreachable : b.Reachable := ⟨b, ⟨_, _, Or.inr rfl⟩, .refl⟩
  have hclears : ∀ i, b.phase = .uninitialized → b.initializer = some i → ¬i.Clears := by
    rintro i - hi
    obtain rfl := Option.some.inj hi
    exact id
  have hid : b.answer (registerWithId "Tools" "seven" f) = .ok 1 := rfl
  obtain ⟨hreached, hascii, -⟩ := Reachable.reached_registerWithId_iff hreachable
    Phase.noConfusion hclears "Tools" "seven" f hid
  exact ⟨hid, hreached.mpr (hascii (by simp))⟩

/-- The two hashes of a name with an umlaut differ. A method that a host registers under such
    a name gets a number and can be called by it, but the name is neither bound nor resolved,
    and a call by the name is a miss. -/
theorem not_reached_registerWithId_umlaut :
    let b : Bridge Playground := new {} Playground.quietHost
    let f : HostFunction Playground := Playground.Function.seven.code
    let a : Bridge Playground := b.after (registerWithId "Größe" "seven" f)
    b.Reachable ∧ b.phase ≠ .initializing ∧ b.initializer = none ∧
      b.answer (registerWithId "Größe" "seven" f) = .ok 1 ∧
      ¬NameHash.Agrees "Größe" ∧
      a.answer (call ensureReady [] (.byId 1)) = some (.int32 7) ∧
      a.hasBinding "Größe" "seven" .method true = false ∧
      a.answer (call ensureReady [] (.static "Größe" "seven" .method)) = none ∧
      (a.answer (resolveId (ensureReady []) "Größe" "seven" .method true)).toOption = none := by
  intro b f a
  refine ⟨⟨b, ⟨_, _, Or.inl rfl⟩, .refl⟩, Phase.noConfusion, rfl, rfl, ?_, rfl, ?_, ?_, ?_⟩
  · decide +kernel
  · decide +kernel
  · decide +kernel
  · decide +kernel

end HostBridge.Bridge
