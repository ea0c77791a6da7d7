import HostBridge.Proofs.History

/-!
# Calls by number agree with calls by names

A script that makes the same call often has its names looked up once, and calls by number
from then on. As long as nothing is registered and the bridge is not cleared, this is the
same: what serves the call by number is what serves the call by names, down to target and
arguments, so answer and effect agree.

A quiet history keeps what names lead to and only adds numbers. The key with a number is
therefore the key that the names lead to, on every later bridge.

## Main definitions

- `Command.Quiet` — operations that register nothing and do not clear
- `Bridge.Retains` — names lead where they led, and numbers stand for what they stood for
- `Bridge.resolved_calls_agree` — both ways to call agree
-/

namespace HostBridge

-- ════════════════════════════════════════════════════════════════════════
-- Numbers of keys
-- ════════════════════════════════════════════════════════════════════════

namespace BindingIds

variable {κ : Type} {ids later : BindingIds κ} {key : κ} {id : Int}

/-- Every number stands later for what it stands for now. -/
def Extends (later ids : BindingIds κ) : Prop :=
  ∃ more, later.keys = ids.keys ++ more

theorem Extends.refl : ids.Extends ids :=
  ⟨[], (List.append_nil _).symm⟩

theorem Extends.trans {last : BindingIds κ} (h : last.Extends later) (h' : later.Extends ids) :
    last.Extends ids := by
  obtain ⟨more, hmore⟩ := h
  obtain ⟨some, hsome⟩ := h'
  exact ⟨some ++ more, by rw [hmore, hsome, List.append_assoc]⟩

theorem Extends.key? (h : later.Extends ids) (hkey : ids.key? id = some key) :
    later.key? id = some key := by
  obtain ⟨more, hmore⟩ := h
  unfold BindingIds.key? at hkey ⊢
  split at hkey
  · next hpos =>
    obtain ⟨hlt, -⟩ := List.getElem?_eq_some_iff.mp hkey
    rw [if_pos hpos, hmore, List.getElem?_append_left hlt]
    exact hkey
  · exact absurd hkey (by simp)

variable [DecidableEq κ] {number : Nat}

theorem extends_of_assign (h : ids.assign key = .ok (number, later)) : later.Extends ids := by
  unfold assign at h
  split at h
  · obtain ⟨-, rfl⟩ := Prod.mk.inj (Except.ok.inj h)
    exact .refl
  · split at h
    · obtain ⟨-, rfl⟩ := Prod.mk.inj (Except.ok.inj h)
      exact ⟨[key], rfl⟩
    · exact absurd h (by simp)

theorem key?_of_assign (h : ids.assign key = .ok (number, later)) :
    later.key? number = some key := by
  unfold assign at h
  split at h
  · next i hi =>
    obtain ⟨rfl, rfl⟩ := Prod.mk.inj (Except.ok.inj h)
    obtain ⟨hlt, hkey, -⟩ := List.findIdx?_eq_some_iff_getElem.mp hi
    have hat : ids.keys[i] = key := of_decide_eq_true hkey
    have hpos : (0 : Int) < (i + 1 : Nat) := by omega
    rw [BindingIds.key?, if_pos hpos]
    show ids.keys[i]? = some key
    rw [List.getElem?_eq_getElem hlt, hat]
  · split at h
    · obtain ⟨rfl, rfl⟩ := Prod.mk.inj (Except.ok.inj h)
      have hpos : (0 : Int) < (ids.keys.length + 1 : Nat) := by omega
      rw [BindingIds.key?, if_pos hpos]
      show (ids.keys ++ [key])[ids.keys.length]? = some key
      rw [List.getElem?_append_right (Nat.le_refl _), Nat.sub_self]
      rfl
    · exact absurd h (by simp)

/-- A key that was given a number is given this number again, however many keys have been
    given one since. -/
theorem assign_of_extends {given : BindingIds κ} (h : ids.assign key = .ok (number, given))
    (hlater : later.Extends given) : later.assign key = .ok (number, later) := by
  obtain ⟨more, hmore⟩ := hlater
  have hfirst : ∃ i, number = i + 1 ∧ given.keys.findIdx? (· = key) = some i := by
    unfold assign at h
    split at h
    · next i hi =>
      obtain ⟨rfl, rfl⟩ := Prod.mk.inj (Except.ok.inj h)
      exact ⟨i, rfl, hi⟩
    · next hnew =>
      split at h
      · obtain ⟨rfl, rfl⟩ := Prod.mk.inj (Except.ok.inj h)
        refine ⟨ids.keys.length, rfl, ?_⟩
        rw [List.findIdx?_append, hnew]
        simp
      · exact absurd h (by simp)
  obtain ⟨i, rfl, hi⟩ := hfirst
  have hfound : later.keys.findIdx? (· = key) = some i := by
    rw [hmore, List.findIdx?_append, hi, Option.some_or]
  rw [assign, hfound]

end BindingIds

/-- A handle fits a 32-bit integer, which counts as the handle. -/
theorem Slot.handle?_int32 (h : Handle) :
    (Slot.int32 (Int32.ofInt h.number)).handle? = some h := by
  have hbounded := h.bounded
  have hnumber : (Int32.ofInt h.number).toInt = h.number :=
    Int32.toInt_ofInt_of_le (by omega) (by omega)
  show Handle.ofInt? (Int32.ofInt h.number).toInt = some h
  rw [hnumber]
  exact h.ofInt?_number

variable {ε : Type} [Embedding ε]

/-- Operations that register nothing and do not clear the bridge. -/
def Command.Quiet : Command ε → Prop
  | .register _ => False
  | .registerWithId .. => False
  | .clear => False
  | _ => True

namespace Bridge

-- ════════════════════════════════════════════════════════════════════════
-- What a quiet history keeps
-- ════════════════════════════════════════════════════════════════════════

/-- Names lead where they led on an earlier bridge, to the same handlers, and numbers stand
    for what they stood for. -/
structure Retains (b a : Bridge ε) : Prop where
  bindings : b.registry.bindings = a.registry.bindings
  typeNames : b.registry.typeNames = a.registry.typeNames
  namespaces : b.registry.namespaces = a.registry.namespaces
  ids : b.ids.Extends a.ids

namespace Retains

variable {a b c : Bridge ε}

theorem refl : a.Retains a :=
  ⟨rfl, rfl, rfl, .refl⟩

theorem trans (hcb : c.Retains b) (hba : b.Retains a) : c.Retains a :=
  ⟨hcb.bindings.trans hba.bindings, hcb.typeNames.trans hba.typeNames,
    hcb.namespaces.trans hba.namespaces, hcb.ids.trans hba.ids⟩

theorem contains (h : b.Retains a) : b.registry.contains = a.registry.contains :=
  Registry.contains_congr h.bindings

theorem typeFor? (h : b.Retains a) : b.registry.typeFor? = a.registry.typeFor? :=
  Registry.typeFor?_congr h.typeNames

theorem lookup? (h : b.Retains a) (q : Request ε) :
    lookup? b.registry q = lookup? a.registry q := by
  unfold Bridge.lookup? Registry.keyByName?
  rw [h.contains, h.typeFor?, Registry.isNamespace_congr h.namespaces]

/-- A quiet change retains all of it. -/
theorem apply {change : Change ε} (h : History.Kind Command.Quiet change) :
    (change.apply b).Retains b := by
  cases change with
  | register r =>
    obtain ⟨c, hquiet, hmakes⟩ := h
    cases c <;> first | exact absurd hmakes id | exact absurd hquiet id
  | clear =>
    obtain ⟨c, hquiet, hmakes⟩ := h
    cases c <;> first | exact absurd hmakes id | exact absurd hquiet id
  | begin | skip =>
    obtain ⟨c, hquiet, hmakes⟩ := h
    cases c <;> exact absurd hmakes id
  | number key =>
    simp only [Change.apply, assignId, after_modifyGet]
    split
    · next hassign => exact ⟨rfl, rfl, rfl, BindingIds.extends_of_assign hassign⟩
    · exact .refl
  | lend t object =>
    obtain ⟨handles, hhandles⟩ := exists_handles_lendObject b t object
    rw [Change.apply, hhandles]
    exact ⟨rfl, rfl, rfl, .refl⟩
  | release | releaseAll | work | setInitializer | finish => exact ⟨rfl, rfl, rfl, .refl⟩

end Retains

/-- A quiet history of a settled bridge retains all of it. -/
theorem History.retains {a b : Bridge ε} (h : History Command.Quiet a b) (hs : a.Settled) :
    b.Retains a :=
  (h.changes_of_settled hs).1.invariant (I := fun d => d.Retains a) .refl
    fun _ _ hkind _ hd => (Retains.apply hkind).trans hd

-- ════════════════════════════════════════════════════════════════════════
-- Numbers that names were resolved to
-- ════════════════════════════════════════════════════════════════════════

variable {b later : Bridge ε} {space member : String} {kind : CallKind} {isStatic : Bool}
  {id : Nat} {key : Key (HostType ε)}

/-- A key that gets a number gets nothing else. -/
theorem exists_assign_of_answer (h : b.answer (assignId key) = .ok id) :
    ∃ ids, b.ids.assign key = .ok (id, ids) ∧ b.after (assignId key) = { b with ids } := by
  simp only [assignId, answer_modifyGet, after_modifyGet] at h ⊢
  cases hassign : b.ids.assign key with
  | ok given =>
    rw [hassign] at h
    obtain rfl := Except.ok.inj h
    exact ⟨given.2, rfl, rfl⟩
  | error e =>
    rw [hassign] at h
    exact absurd h (by simp)

/-- A number that a key was given stands for the key; nothing else changes. -/
theorem of_assignId (h : b.answer (assignId key) = .ok id) :
    (b.after (assignId key)).ids.key? id = some key ∧
      (b.after (assignId key)).registry = b.registry ∧
      (b.after (assignId key)).phase = b.phase := by
  obtain ⟨ids, hassign, hafter⟩ := exists_assign_of_answer h
  rw [hafter]
  exact ⟨BindingIds.key?_of_assign hassign, rfl, rfl⟩

/-- A number that names were resolved to stands for the key to which they lead, on a
    bridge that is settled. -/
theorem exists_key_of_resolveId
    (h : b.answer (resolveId (ensureReady []) space member kind isStatic) = .ok id) :
    ∃ key : Key (HostType ε),
      lookup? (b.after (resolveId (ensureReady []) space member kind isStatic)).registry
          (Request.byName space member kind isStatic) = some key ∧
        (b.after (resolveId (ensureReady []) space member kind isStatic)).ids.key? id = some key ∧
        (b.after (resolveId (ensureReady []) space member kind isStatic)).Settled := by
  have hsettled : (b.after (ensureReady [])).Settled := settled_after_ensureReady b []
  cases hkey : lookup? (b.after (ensureReady [])).registry
      (Request.byName space member kind isStatic) with
  | none =>
    have hanswer : b.answer (resolveId (ensureReady []) space member kind isStatic) =
        .error (.unknownBinding (bindingText space member kind)) := by
      simp [resolveId, hkey]
    rw [hanswer] at h
    exact absurd h (by simp)
  | some key =>
    have hafter : b.after (resolveId (ensureReady []) space member kind isStatic) =
        (b.after (ensureReady [])).after (assignId key) := by
      simp [resolveId, hkey]
    have hanswer : b.answer (resolveId (ensureReady []) space member kind isStatic) =
        (b.after (ensureReady [])).answer (assignId key) := by
      simp [resolveId, hkey]
    rw [hanswer] at h
    obtain ⟨hid, hregistry, hphase⟩ := of_assignId h
    rw [hafter, hregistry]
    exact ⟨key, hkey, hid, hsettled.of_phase_eq hphase⟩

theorem exists_key_of_quiet
    (h : b.answer (resolveId (ensureReady []) space member kind isStatic) = .ok id)
    (hquiet : History Command.Quiet
      (b.after (resolveId (ensureReady []) space member kind isStatic)) later) :
    ∃ key : Key (HostType ε),
      lookup? later.registry (Request.byName space member kind isStatic) = some key ∧
        later.ids.key? id = some key ∧ later.Settled := by
  obtain ⟨key, hkey, hid, hsettled⟩ := exists_key_of_resolveId h
  have hretains : later.Retains _ := hquiet.retains hsettled
  refine ⟨key, ?_, hretains.ids.key? hid, (hquiet.changes_of_settled hsettled).2⟩
  rw [hretains.lookup?]
  exact hkey

-- ════════════════════════════════════════════════════════════════════════
-- Both ways to call agree
-- ════════════════════════════════════════════════════════════════════════

/-- A settled bridge serves a call right away. -/
theorem outcome_call_of_settled (hs : later.Settled) (c : Callee ε) (args : List Slot) :
    later.outcome ((Entry.callee c args).call ensureReady) =
      later.serve ((c.errand later args).service? later) := by
  have hprepared : (Entry.callee c args).prepared ensureReady later = later := by
    unfold Entry.prepared
    cases (Entry.callee c args).errand later with
    | nothing => rfl
    | byName q => exact after_ensureReady_of_settled hs _
    | byId id args => exact after_ensureReady_of_settled hs _
  rw [Entry.outcome_call, Entry.service?, hprepared]
  rfl

theorem serviceById?_of_static (hid : later.ids.key? id = some key)
    (hstatic : key.isStatic = true) (args : List Slot) :
    later.serviceById? id args = later.serviceAt? key none args := by
  rw [serviceById?, hid, Option.bind_some, hstatic]
  rfl

theorem serviceById?_of_instance (hid : later.ids.key? id = some key)
    (hinstance : key.isStatic = false) {handle : Handle} {first : Slot} {ref : ObjectRef}
    (hfirst : first.handle? = some handle) (href : later.handles.resolve? handle = some ref)
    (args : List Slot) :
    later.serviceById? id (first :: args) = later.serviceAt? key (some ref) args := by
  rw [serviceById?, hid, Option.bind_some, hinstance]
  have hsplit : splitTarget? later.handles false (first :: args) = some (some ref, args) := by
    simp [splitTarget?, hfirst, href]
  rw [hsplit]
  rfl

/-- The number of a static member and its names make the same call. -/
theorem outcome_byId_of_static
    (hlookup : lookup? later.registry (Request.byName space member kind true) = some key)
    (hid : later.ids.key? id = some key) (hs : later.Settled) (args : List Slot) :
    later.outcome ((Entry.callee (.byId id) args).call ensureReady) =
      later.outcome ((Entry.callee (.static space member kind) args).call ensureReady) := by
  obtain ⟨owner, rfl, -⟩ := exists_key_of_lookup? hlookup
  rw [outcome_call_of_settled hs, outcome_call_of_settled hs]
  have hbyId := serviceById?_of_static hid rfl args
  have hbyName : later.serviceByName? { Request.byName space member kind true with args } =
      later.serviceAt? ((Request.byName space member kind true).key owner) none args := by
    rw [serviceByName?]
    show (lookup? later.registry (Request.byName space member kind true)).bind _ = _
    rw [hlookup]
    rfl
  exact congrArg later.serve (hbyId.trans hbyName.symm)

/-- The number of an instance member of a type, with a handle of this type, and the
    member's name make the same call. -/
theorem outcome_byId_of_instance {t : HostType ε}
    (hid : later.ids.key? id = some ⟨.hostType t, Key.memberHash (Text.utf8 member), kind, false⟩)
    (hbound : later.registry.contains
      ⟨.hostType t, Key.memberHash (Text.utf8 member), kind, false⟩ = true)
    (hs : later.Settled) {handle : Handle} {entry : HandleEntry (HostType ε) ObjectRef}
    (hentry : later.handles.entry? handle = some entry) (howner : entry.owner = t)
    {first : Slot} (hfirst : first.handle? = some handle) (args : List Slot) :
    later.outcome ((Entry.callee (.byId id) (first :: args)).call ensureReady) =
      later.outcome ((Entry.callee (.onHandle handle member kind) args).call ensureReady) := by
  rw [outcome_call_of_settled hs, outcome_call_of_settled hs]
  have hresolve : later.handles.resolve? handle = some entry.object := by
    rw [HandleTable.resolve?, hentry]
    rfl
  have hbyId := serviceById?_of_instance hid rfl hfirst hresolve args
  have hbyName : later.serviceByName?
      { Request.onObject entry.owner entry.object member kind with args } =
      later.serviceAt? ⟨.hostType t, Key.memberHash (Text.utf8 member), kind, false⟩
        (some entry.object) args := by
    rw [howner, serviceByName?]
    have hlookup : lookup? later.registry
        { Request.onObject t entry.object member kind with args } =
        some ⟨.hostType t, Key.memberHash (Text.utf8 member), kind, false⟩ := if_pos hbound
    rw [hlookup]
    rfl
  have herrand : (Callee.onHandle handle member kind).errand later args =
      .byName { Request.onObject entry.owner entry.object member kind with args } := by
    show Errand.onHandle later handle member kind args = _
    rw [Errand.onHandle, hentry]
  rw [herrand]
  exact congrArg later.serve (hbyId.trans hbyName.symm)

/-- A number that names were resolved to makes the same call as the names, until
    something is registered or the bridge is cleared: for a static member as it stands,
    for an instance member of a type with a handle of this type as the first argument. -/
theorem resolved_calls_agree (b : Bridge ε) (space member : String) (kind : CallKind)
    (isStatic : Bool) {id : Nat} {later : Bridge ε}
    (h : b.answer (resolveId (ensureReady []) space member kind isStatic) = .ok id)
    (hquiet : History Command.Quiet
      (b.after (resolveId (ensureReady []) space member kind isStatic)) later) :
    (isStatic = true → ∀ args,
      later.outcome ((Entry.callee (.byId id) args).call ensureReady) =
        later.outcome ((Entry.callee (.static space member kind) args).call ensureReady)) ∧
    (isStatic = false →
      ∃ t, later.registry.typeFor? (NameHash.ofBytes (Text.utf8 space)) = some t ∧
        ∀ handle entry, later.handles.entry? handle = some entry → entry.owner = t →
          ∀ first, first = .int32 (Int32.ofInt handle.number) ∨
              (∃ hint, first = .object handle hint) → ∀ args,
            later.outcome ((Entry.callee (.byId id) (first :: args)).call ensureReady) =
              later.outcome
                ((Entry.callee (.onHandle handle member kind) args).call ensureReady)) := by
  obtain ⟨key, hkey, hid, hs⟩ := exists_key_of_quiet h hquiet
  refine ⟨?_, ?_⟩
  · rintro rfl args
    exact outcome_byId_of_static hkey hid hs args
  · rintro rfl
    have hname : later.registry.keyByName? (NameHash.ofBytes (Text.utf8 space))
        (Request.byName space member kind false).key false = some key := hkey
    -- No member of a namespace is an instance member, so the name leads to a type.
    obtain ⟨hbound, ⟨⟨hstatic, -⟩, -⟩ | ⟨-, t, ht, rfl⟩⟩ :=
      Registry.keyByName?_cases later.registry hname
    · exact absurd hstatic Bool.false_ne_true
    · refine ⟨t, ht, fun handle entry hentry howner first hfirst args => ?_⟩
      have hhandle : first.handle? = some handle := by
        rcases hfirst with rfl | ⟨hint, rfl⟩
        · exact Slot.handle?_int32 handle
        · rfl
      exact outcome_byId_of_instance hid hbound hs hentry howner hhandle args

/-- The bridge that lends a counter gives a number to the totals of counters and to the
    constant of the same name. Each makes the call that its names make, also after the
    counter has been lent once more. -/
theorem resolved_calls_agree_lending :
    let resolve (isStatic : Bool) : BridgeM Playground (Except BridgeError Nat) :=
      resolveId (ensureReady []) "Counter" "total" .get isStatic
    let later (isStatic : Bool) : Bridge Playground :=
      (Playground.lending.after (resolve isStatic)).after
        (performWith ensureReady [] (.lendAgain Playground.counterType Playground.firstHandle))
    (∀ isStatic, Playground.lending.answer (resolve isStatic) = .ok 1) ∧
      (∀ args, (later true).outcome ((Entry.callee (.byId 1) args).call ensureReady) =
        (later true).outcome
          ((Entry.callee (.static "Counter" "total" .get) args).call ensureReady)) ∧
      ∀ args, (later false).outcome ((Entry.callee (.byId 1)
            (.int32 (Int32.ofInt Playground.firstHandle.number) :: args)).call ensureReady) =
        (later false).outcome ((Entry.callee
          (.onHandle Playground.firstHandle "total" .get) args).call ensureReady) := by
  intro resolve later
  have hresolved (isStatic : Bool) : Playground.lending.answer (resolve isStatic) = .ok 1 := by
    cases isStatic <;> rfl
  have hquiet (isStatic : Bool) :
      History Command.Quiet (Playground.lending.after (resolve isStatic)) (later isStatic) :=
    History.refl.performed trivial []
  refine ⟨hresolved, ?_, ?_⟩
  · exact (resolved_calls_agree Playground.lending "Counter" "total" .get true (hresolved true)
      (hquiet true)).1 rfl
  · obtain ⟨t, ht, hagree⟩ := (resolved_calls_agree Playground.lending "Counter" "total" .get
      false (hresolved false) (hquiet false)).2 rfl
    have htype : (later false).registry.typeFor? (NameHash.ofBytes (Text.utf8 "Counter")) =
        some Playground.counterType := rfl
    obtain rfl := Option.some.inj (ht.symm.trans htype)
    exact hagree Playground.firstHandle ⟨0, Playground.counterType, "Counter"⟩ rfl rfl _
      (Or.inl rfl)

end Bridge

end HostBridge
