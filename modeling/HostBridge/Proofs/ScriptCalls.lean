import HostBridge.Proofs.NativeCalls
import HostBridge.Proofs.StaticCall
import HostBridge.Proofs.Exhaustion
import HostBridge.Playground.Functions

/-!
# Calls of scripts by number and by names

A script may have the names of a member resolved to a number and call it by that from then on. To
convert the arguments of a call runs code of the script, which makes calls, asks for numbers and
gives objects back on its own, so the bridge that makes the call is not the one on which the script
started it. But it sustains that one: names and number still lead to the same key. With a static
member both ways therefore come to the same. With an instance member they do if the object, when
the arguments have been converted, is of the type that the names lead to or is not lent any more.

By names a script gives the arguments in an array, whose items are read one by one, and code that
runs for one of them may rewrite those behind it. So both ways are compared for the values that
the array presents.

## Main definitions

- `Bridge.outcome_byId_of_target` — both ways to call an instance member agree on a bridge
- `Script.Leads` — names and number lead to the same key
- `Script.Precompiled`, `Script.precompiled_calls_agree` — both ways agree for scripts
- `Script.not_precompiled_calls_agree_converting` — where they do not
-/

namespace HostBridge

variable {ε : Type} [Embedding ε]

namespace Bridge

variable {a b d : Bridge ε}

-- ════════════════════════════════════════════════════════════════════════
-- Numbers fit 32 bits
-- ════════════════════════════════════════════════════════════════════════

/-- No bridge has more numbers than there are positive integers of 32 bits. -/
theorem Reachable.size_ids_le (h : b.Reachable) : b.ids.size ≤ 0x7FFFFFFF := by
  refine h.invariant (I := fun d => d.ids.size ≤ 0x7FFFFFFF) ?_ fun d c _ hd => ?_
  · rintro a ⟨config, host, rfl | rfl⟩ <;> exact Nat.zero_le _
  · cases c with
    | number key =>
      rw [Change.apply, after_assignId]
      exact BindingIds.size_afterRequest_le key hd
    | lend t object =>
      obtain ⟨handles, hhandles⟩ := exists_handles_lendObject d t object
      rw [Change.apply, hhandles]
      exact hd
    | clear => exact Nat.zero_le _
    | register r =>
      rw [Change.apply, after_register]
      exact hd
    | _ => exact hd

-- ════════════════════════════════════════════════════════════════════════
-- Instance members, by number and by name
-- ════════════════════════════════════════════════════════════════════════

/-- What a bridge retains of an orderly registry is orderly. -/
theorem Retains.orderly (h : b.Retains a) (ha : Orderly a.registry) : Orderly b.registry where
  fits hfound := by
    rw [Registry.binding?_congr h.bindings] at hfound
    exact ha.fits hfound
  marked howner hbound := by
    rw [h.contains] at hbound
    rw [Registry.isNamespace_congr h.namespaces]
    exact ha.marked howner hbound

/-- The name of an instance member leads to a member of the host type with the name. -/
theorem exists_type_of_lookup? {registry : Registry (HostType ε) (Handler ε)}
    {space member : String} {kind : CallKind} {key : Key (HostType ε)}
    (h : lookup? registry (Request.byName space member kind false) = some key) :
    ∃ t, registry.typeFor? (NameHash.ofBytes (Text.utf8 space)) = some t ∧
      key = ⟨.hostType t, Key.memberHash (Text.utf8 member), kind, false⟩ := by
  have hname : registry.keyByName? (NameHash.ofBytes (Text.utf8 space))
      (Request.byName space member kind false).key false = some key := h
  obtain ⟨-, ⟨⟨hstatic, -⟩, -⟩ | ⟨-, t, ht, rfl⟩⟩ := Registry.keyByName?_cases registry hname
  · exact absurd hstatic Bool.false_ne_true
  · exact ⟨t, ht, rfl⟩

/-- An instance member declines a call without an object. -/
theorem serviceAt?_of_instance (h : Orderly b.registry) {key : Key (HostType ε)}
    (hinstance : key.isStatic = false) (args : List Slot) : b.serviceAt? key none args = none := by
  unfold serviceAt?
  cases hget : b.registry.get? key with
  | none => rfl
  | some handler =>
    obtain ⟨found, hfound, rfl⟩ := Option.map_eq_some_iff.mp hget
    have hfits : found.handler.Fits key := h.fits hfound
    have hdeclines : found.handler.admits b.host.objects none = false := by
      unfold Handler.Fits at hfits
      cases hhandler : found.handler with
      | getter | setter | method => rfl
      | function | assign =>
        rw [hhandler] at hfits
        exact absurd (hinstance.symm.trans hfits) Bool.false_ne_true
    rw [Option.bind_some, if_neg (by simp [hdeclines])]

variable {space member : String} {kind : CallKind} {id : Nat} {t : HostType ε} {slot : Slot}

/-- The number of an instance member and its names make the same call, if what the script gives
    for an object is of the type of the member or is not lent. In the latter case it is a miss. -/
theorem outcome_byId_of_target (hs : d.Settled) (horderly : Orderly d.registry)
    (hid : d.ids.key? id = some ⟨.hostType t, Key.memberHash (Text.utf8 member), kind, false⟩)
    (hlookup : lookup? d.registry (Request.byName space member kind false) =
      some ⟨.hostType t, Key.memberHash (Text.utf8 member), kind, false⟩)
    (hlive : ∀ entry, slot.handle?.bind d.handles.entry? = some entry → entry.owner = t)
    (args : List Slot) :
    d.outcome (call ensureReady (slot :: args) (.byId id)) =
        d.outcome (call ensureReady args (.named space member kind false slot.handle?)) ∧
      (slot.handle?.bind d.handles.entry? = none →
        d.answer (call ensureReady args (.named space member kind false slot.handle?)) = none) := by
  have hnumber := outcome_call_of_settled hs (.byId id) (slot :: args)
  have hnames := outcome_call_of_settled hs (.named space member kind false slot.handle?) args
  cases hentry : slot.handle?.bind d.handles.entry? with
  | some entry =>
    obtain ⟨handle, hhandle, hentry'⟩ := Option.bind_eq_some_iff.mp hentry
    rw [hhandle]
    refine ⟨?_, fun h => nomatch h⟩
    exact outcome_byId_of_instance hid (contains_of_lookup? hlookup) hs hentry'
      (hlive entry hentry) hhandle args
  | none =>
    -- Nothing serves either call.
    have hbyId : d.serviceById? id (slot :: args) = none := by
      have hresolve : slot.handle?.bind d.handles.resolve? = none := by
        cases hhandle : slot.handle? with
        | none => rfl
        | some handle =>
          rw [hhandle, Option.bind_some] at hentry
          rw [Option.bind_some, HandleTable.resolve?, hentry]
          rfl
      rw [serviceById?, hid, Option.bind_some]
      simp [splitTarget?, hresolve]
    have hbyName : ((Callee.named space member kind false slot.handle?).errand d args).service? d =
        none := by
      cases hhandle : slot.handle? with
      | none =>
        show (lookup? d.registry (Request.byName space member kind false)).bind _ = none
        rw [hlookup]
        exact serviceAt?_of_instance horderly rfl args
      | some handle =>
        rw [hhandle, Option.bind_some] at hentry
        show (Errand.onHandle d handle member kind args).service? d = none
        rw [Errand.onHandle_eq_nothing_iff.mpr hentry]
        rfl
    rw [hbyName] at hnames
    have hserved : ((Callee.byId id).errand d (slot :: args)).service? d = none := hbyId
    rw [hserved] at hnumber
    exact ⟨hnumber.trans hnames.symm, fun _ => congrArg Prod.fst hnames⟩

/-- A member that gets no number is not bound, or all numbers are given out. -/
theorem of_answer_resolveId_eq_error {isStatic : Bool}
    (h : (b.answer (resolveId (ensureReady []) space member kind isStatic)).toOption = none) :
    lookup? (b.after (ensureReady [])).registry (Request.byName space member kind isStatic) = none ∧
        b.after (resolveId (ensureReady []) space member kind isStatic) =
          b.after (ensureReady []) ∨
      0x7FFFFFFF ≤ (b.after (resolveId (ensureReady []) space member kind isStatic)).ids.size := by
  have hresolved := outcome_resolveId b (ensureReady []) space member kind isStatic
  cases hkey : (Command.resolveId space member kind isStatic).asked?
      (b.after (ensureReady [])).registry with
  | none =>
    rw [hkey, Option.elim_none] at hresolved
    exact Or.inl ⟨hkey, congrArg Prod.snd hresolved⟩
  | some key =>
    rw [hkey, Option.elim_some] at hresolved
    obtain ⟨hanswer, hafter⟩ := Prod.mk.inj hresolved
    rw [hanswer] at h
    rw [hafter]
    rcases answer_assignId_cases (b.after (ensureReady [])) key with ⟨id, hid⟩ | ⟨hfull, hsize⟩
    · rw [hid] at h
      exact absurd h (Option.some_ne_none id)
    · right
      rw [after_assignId]
      exact Nat.le_trans hsize BindingIds.extends_afterRequest.size_le

end Bridge

namespace Script

open Bridge

variable {inner : Inner ε} {s later d : Script ε} {t m : CodePoints} {k : ScriptValue}
  {space member : String} {kind : CallKind} {isStatic : Bool} {key : Key (HostType ε)} {id : Nat}

/-- What is lent for an object that a script gives, when the arguments have been converted. -/
def target? (s : Script ε) (inner : Inner ε) (this : ScriptValue) (args : List ScriptValue) :
    Option (HandleEntry (HostType ε) ObjectRef) :=
  (s.scope.handle? this).bind (s.after (args.mapM (toSlot inner))).bridge.handles.entry?

/-- What the names of a member led to, they still lead to when the arguments of a call have been
    converted, and the number stands for it. -/
structure Leads (s : Script ε) (space member : String) (kind : CallKind) (isStatic : Bool)
    (id : Nat) (key : Key (HostType ε)) : Prop where
  lookup? : lookup? s.bridge.registry (Request.byName space member kind isStatic) = some key
  key? : s.bridge.ids.key? id = some key
  settled : s.bridge.Settled

theorem Leads.of_sustains {isStatic : Bool} (h : later.Leads space member kind isStatic id key)
    (hd : d.Sustains later) : d.Leads space member kind isStatic id key where
  lookup? := by
    rw [(hd.bridge.retains_of_settled h.settled).lookup?]
    exact h.lookup?
  key? := (hd.bridge.retains_of_settled h.settled).ids.key? h.key?
  settled := hd.bridge.settled h.settled

/-- A static member is called by number and by names to the same effect. -/
theorem outcome_static (hinner : inner.Retaining) (h : later.Leads space member kind true id key)
    (hfits : id ≤ 0x7FFFFFFF) (hspelled : Spelled t m k space member kind) (this : ScriptValue)
    {array : ScriptValue} {args : List ScriptValue} (hargs : later.Presents inner array args) :
    later.outcome (callByNumber inner (.ofNat id) args) =
      later.outcome (callByNames inner t m k true this array) := by
  rw [outcome_callByNumber hfits, outcome_callByNames_of_presents hspelled this hargs]
  refine outcome_bind_congr fun slots _ => outcome_callBridge_congr ?_ _ _
  have hleads := h.of_sustains (retaining_toSlots hinner args later)
  exact outcome_byId_of_static hleads.lookup? hleads.key? hleads.settled slots

/-- So is an instance member, if the object is of its type or not lent when the arguments have been
    converted. -/
theorem outcome_instance (hinner : inner.Retaining) {type : HostType ε}
    (h : later.Leads space member kind false id
      ⟨.hostType type, Key.memberHash (Text.utf8 member), kind, false⟩)
    (horderly : Orderly later.bridge.registry) (hfits : id ≤ 0x7FFFFFFF)
    (hspelled : Spelled t m k space member kind) {this : ScriptValue}
    (hthis : later.scope.refers this = true) {array : ScriptValue} {args : List ScriptValue}
    (hargs : later.Presents inner array args)
    (hlive : ∀ entry, later.target? inner this args = some entry → entry.owner = type) :
    later.outcome (callByNumber inner (.ofNat id) (this :: args)) =
        later.outcome (callByNames inner t m k false this array) ∧
      (later.target? inner this args = none →
        (later.outcome (callByNames inner t m k false this array)).1 = none) := by
  obtain ⟨slot, hslot, hcons⟩ := outcome_mapM_cons hthis
  rw [outcome_callByNumber hfits, outcome_callByNames_of_presents hspelled this hargs, hcons]
  have hd := retaining_toSlots hinner args later
  have hleads := h.of_sustains hd
  have hcalls := outcome_byId_of_target hleads.settled
    ((hd.bridge.retains_of_settled h.settled).orderly horderly) hleads.key? hleads.lookup?
    (by rw [hslot]; exact hlive)
  rw [hslot] at hcalls
  refine ⟨outcome_bind_congr fun slots _ => ?_, fun hnone => outcome_bind_eq_none fun slots _ => ?_⟩
  · exact outcome_callBridge_congr (hcalls slots).1 _ _
  · exact outcome_callBridge_of_miss ((hcalls slots).2 hnone) _

/-- Names that lead to nothing once the bridge is ready still lead to nothing when the arguments
    have been converted. -/
theorem outcome_callByNames_of_unbound (hinner : inner.Retaining)
    (hspelled : Spelled t m k space member kind)
    (hunbound : Bridge.lookup? (s.bridge.after (ensureReady [])).registry
      (Request.byName space member kind true) = none)
    (this array : ScriptValue) :
    (s.outcome (callByNames inner t m k true this array)).1 = none := by
  rw [outcome_callByNames hspelled]
  refine outcome_bind_eq_none fun slots _ => outcome_callBridge_of_miss ?_ _
  let d : Script ε := s.after (convertArgs inner (s.scope.places array))
  have hd := (retaining_convertArgs hinner (s.scope.places array) s).bridge.retains
  have hmissed := outcome_dispatch d.bridge (ensureReady [])
    { Request.byName space member kind true with args := slots }
  have hlookup : Bridge.lookup? (d.bridge.after (ensureReady [])).registry
      { Request.byName space member kind true with args := slots } = none :=
    (hd.lookup? _).trans hunbound
  rw [serviceByName?, hlookup] at hmissed
  exact congrArg Prod.fst hmissed

theorem outcome_callByNames_of_busy (hinner : inner.Retaining)
    (hspelled : Spelled t m k space member kind) (hbusy : s.busy = true)
    (this array : ScriptValue) :
    (s.outcome (callByNames inner t m k isStatic this array)).1 = none := by
  rw [outcome_callByNames hspelled]
  refine outcome_bind_eq_none fun slots _ => ?_
  rw [outcome_callBridge_of_busy ((retaining_convertArgs hinner _ s).busy.trans hbusy)]

/-- A script that gets no number for a static member cannot call it by its names either, neither
    from where it asked nor later, unless all numbers are given out. -/
theorem outcome_callByNames_of_unnumbered (hinner : inner.Retaining) {e : Thrown}
    (h : s.answer (askNumber inner t m k true) = .error e)
    (hquiet : History Command.Quiet (s.after (askNumber inner t m k true)).bridge later.bridge)
    (hbusy : later.busy = s.busy) :
    (∀ start, start = s ∨ start = later → ∀ this array,
      (start.outcome (callByNames inner t m k true this array)).1 = none) ∨
    0x7FFFFFFF ≤ (s.after (askNumber inner t m k true)).bridge.ids.size := by
  by_cases hspelled : ∃ space member kind, Spelled t m k space member kind
  · obtain ⟨space, member, kind, hspelled⟩ := hspelled
    cases hfree : s.busy with
    | true =>
      refine Or.inl fun start hstart => outcome_callByNames_of_busy hinner hspelled ?_
      rcases hstart with rfl | rfl
      · exact hfree
      · exact hbusy.trans hfree
    | false =>
      obtain ⟨hanswer, hafter⟩ := Prod.mk.inj (outcome_askNumber_of_free hspelled hfree)
      replace hafter := congrArg Script.bridge hafter
      rw [h] at hanswer
      rw [hafter] at hquiet ⊢
      rcases of_answer_resolveId_eq_error (Option.map_eq_none_iff.mp hanswer.symm) with
        ⟨hunbound, hready⟩ | hfull
      · have hs := settled_after_ensureReady s.bridge []
        rw [hready] at hquiet
        refine Or.inl fun start hstart => outcome_callByNames_of_unbound hinner hspelled ?_
        rcases hstart with rfl | rfl
        · exact hunbound
        · rw [after_ensureReady_of_settled (hquiet.changes_of_settled hs).2,
            (hquiet.retains hs).lookup?]
          exact hunbound
      · exact Or.inr hfull
  · refine Or.inl fun start _ this array => ?_
    obtain ⟨e, hthrown⟩ : ∃ e, invoke inner [.string t, .string m, k, .bool true, this, array] =
        throw e := invoke_of_not_spelled hspelled true this array
    rw [callByNames, outcome_runNative, nativeBody, hthrown]
    rfl

/-- What a script may count on that asked for the number of a member in the context `s` and makes
    calls in the context `later`. -/
structure Precompiled (inner : Inner ε) (s later : Script ε) (t m : CodePoints) (k : ScriptValue)
    (isStatic : Bool) : Prop where
  /-- An array has its items for arguments, unless a conversion rewrites them before their turn.
      That cannot happen to an array that no other value refers to. -/
  presents : ∀ args, later.Presents inner (.array args) args
  /-- A static member is called by its number and by its names to the same effect. -/
  onType : isStatic = true → ∀ id, s.answer (askNumber inner t m k isStatic) = .ok id →
    ∀ this array args, later.Presents inner array args →
      later.outcome (callByNumber inner id args) =
        later.outcome (callByNames inner t m k isStatic this array)
  /-- So is an instance member of a type on anything that a script may give for an object, unless
      an object of another type is lent for it when the arguments have been converted. If none is
      lent then, there is no value. -/
  onObject : isStatic = false → ∀ id, s.answer (askNumber inner t m k isStatic) = .ok id →
    ∃ space type, t.toString? = some space ∧
      later.bridge.registry.typeFor? (NameHash.ofBytes (Text.utf8 space)) = some type ∧
      ∀ this, later.scope.refers this = true → ∀ array args, later.Presents inner array args →
        (∀ entry, later.target? inner this args = some entry → entry.owner = type) →
          later.outcome (callByNumber inner id (this :: args)) =
              later.outcome (callByNames inner t m k isStatic this array) ∧
            (later.target? inner this args = none →
              (later.outcome (callByNames inner t m k isStatic this array)).1 = none)
  /-- A static member without a number cannot be called by its names either, neither from where the
      script asked nor later, unless all numbers are given out. -/
  unnumbered : isStatic = true → ∀ e, s.answer (askNumber inner t m k isStatic) = .error e →
    later.busy = s.busy →
      (∀ start, start = s ∨ start = later → ∀ this array,
        (start.outcome (callByNames inner t m k isStatic this array)).1 = none) ∨
      0x7FFFFFFF ≤ (s.after (askNumber inner t m k isStatic)).bridge.ids.size

end Script

-- ════════════════════════════════════════════════════════════════════════
-- Scripts of the playground, and one where no number is left
-- ════════════════════════════════════════════════════════════════════════

namespace Playground

open Script

/-- A script on the bridge that lends a counter. -/
def lendingScript : Script Playground :=
  (Script.new {} lending).value

/-- Asks for the number of a property of counters. -/
def askCounter (name : String) (isStatic : Bool) : ScriptM Playground ScriptValue :=
  askNumber engine (CodePoints.ofString "Counter") (CodePoints.ofString name)
    (.ofNat CallKind.get.tag) isStatic

/-- Reads a property of counters by its names. -/
def readCounter (name : String) (isStatic : Bool) (this array : ScriptValue) :
    ScriptM Playground ScriptValue :=
  callByNames engine (CodePoints.ofString "Counter") (CodePoints.ofString name)
    (.ofNat CallKind.get.tag) isStatic this array

/-- The script that has asked for the number of the total, when its host has lent the counter once
    more. -/
def relendingScript (isStatic : Bool) : Script Playground :=
  let asked := lendingScript.after (askCounter "total" isStatic)
  let relent := Bridge.performWith Bridge.ensureReady [] (.lendAgain counterType firstHandle)
  { asked with bridge := asked.bridge.after relent }

/-- Methods of doors and of counters with the same name, and a function that makes counters. -/
def pokes : List (Registration Playground) :=
  [Member.toggle.registration "poke", Member.add.registration "poke",
    .onNamespace "Tools" "make" (.method Function.makeCounter.code)]

/-- A script on a bridge with these, which has two numbers in variables. -/
def pokingScript : Script Playground where
  bridge := pokes.foldl
    (fun b r => b.after (Bridge.performWith Bridge.ensureReady [] (.register r)))
    (.new {} quietHost)
  scope := { globals := initialGlobals ++
    [(CodePoints.ofString "one", .ofNat 1), (CodePoints.ofString "five", .ofNat 5)] }

/-- An object that has a counter made whenever its notation is asked for. -/
def counterMaker : ScriptValue :=
  .object [(CodePoints.ofString "toJSON", some (.function (.call (CodePoints.ofString "__invoke")
    [.string (CodePoints.ofString "Tools"), .string (CodePoints.ofString "make"),
      .global (CodePoints.ofString "one"), .bool true, .null,
      .array [.global (CodePoints.ofString "five")]])))]

/-- Asks for the number of the method of doors. -/
def askPoke : ScriptM Playground ScriptValue :=
  askNumber engine (CodePoints.ofString "Door") (CodePoints.ofString "poke")
    (.ofNat CallKind.method.tag) false

/-- Calls the method of doors by its names. -/
def callPoke (this : ScriptValue) (args : List ScriptValue) : ScriptM Playground ScriptValue :=
  callByNames engine (CodePoints.ofString "Door") (CodePoints.ofString "poke")
    (.ofNat CallKind.method.tag) false this (.array args)

/-- A function that returns the second of two arguments. -/
def second : HostFunction Playground where
  params := [.slot, .slot]
  act := fun (_, x, ()) => return .value .slot x

/-- An object that has the second of the seen values replaced whenever its notation is asked for. -/
def rewriter : ScriptValue :=
  .object [(CodePoints.ofString "toJSON", some (.function (.call (CodePoints.ofString "Reflect.set")
    [.seen, .string (CodePoints.ofString "1"), .global (CodePoints.ofString "five")])))]

/-- A script on a bridge with that function, which has seen the object and a number. -/
def rewritingScript : Script Playground where
  bridge := Bridge.after (.new {} quietHost) (Bridge.performWith Bridge.ensureReady []
    (.register (.onNamespace "Tools" "second" (.method second))))
  scope :=
    { globals := initialGlobals ++ [(CodePoints.ofString "five", .ofNat 5)]
      seen := [rewriter, .ofNat 1] }

/-- Asks for the number of the function. -/
def askSecond : ScriptM Playground ScriptValue :=
  askNumber engine (CodePoints.ofString "Tools") (CodePoints.ofString "second")
    (.ofNat CallKind.method.tag) true

/-- Calls the function by its names. -/
def callSecond (array : ScriptValue) : ScriptM Playground ScriptValue :=
  callByNames engine (CodePoints.ofString "Tools") (CodePoints.ofString "second")
    (.ofNat CallKind.method.tag) true (.ofNat 0) array

end Playground

namespace Serial

open Script

/-- Asks for the number of the constant. -/
def askSize : ScriptM Serial ScriptValue :=
  askNumber engine (CodePoints.ofString "Serial") (CodePoints.ofString "size")
    (.ofNat CallKind.get.tag) true

/-- Reads the constant by its names. -/
def readSize : ScriptM Serial ScriptValue :=
  callByNames engine (CodePoints.ofString "Serial") (CodePoints.ofString "size")
    (.ofNat CallKind.get.tag) true (.ofNat 0) (.array [])

end Serial

namespace Script

open Bridge Playground

/-- A script may be able to call a static member by its names that gets no number. -/
theorem exists_callable_without_number :
    ∃ s : Script Serial, s.bridge.Reachable ∧ (s.answer Serial.askSize).toOption = none ∧
      (s.outcome Serial.readSize).1 = some (.ofNat 7) := by
  have hspelled : Spelled (CodePoints.ofString "Serial") (CodePoints.ofString "size")
      (.ofNat CallKind.get.tag) "Serial" "size" .get := ⟨by rfl, by rfl, by rfl⟩
  obtain ⟨b, hreachable, -, -, hnumber, hcall⟩ := Serial.exists_unnumbered
  let s : Script Serial := (Script.new {} b).value
  refine ⟨s, hreachable, ?_, ?_⟩
  · have hasked : s.outcome Serial.askSize = _ := outcome_askNumber_of_free hspelled rfl
    have hanswer : s.bridge.answer (resolveId (ensureReady []) "Serial" "size" .get true) =
        .error .bindingIdsExhausted := hnumber
    rw [hanswer] at hasked
    exact congrArg Prod.fst hasked
  · have hconverted : s.answer ([].mapM (toSlot engine)) = .ok [] := rfl
    have hsame : s.after ([].mapM (toSlot engine)) = s := rfl
    have hanswer : s.bridge.answer (call ensureReady [] (.named "Serial" "size" .get true none)) =
        some (.int32 7) := hcall
    rw [Serial.readSize, outcome_callByNames_of_presents hspelled _ (presents_array s engine []),
      outcome_bind_of_ok hconverted, hsame, if_pos rfl, outcome_callBridge_of_free rfl, hanswer]
    rfl

end Script

end HostBridge
