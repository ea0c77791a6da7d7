import HostBridge.Proofs.Orderly

/-!
# Instance members and static members are kept apart

The host code of an instance member runs on an object of its type that the call itself
supplies, and never for a static call; the host code of a static member never runs for a
call of an instance member. On a reachable bridge this holds for every way to call.

The order of the registry carries it: a handler that works on objects is bound under an
instance member of their type only. What is left is to see that a service is for what its
call is for, and that a handler accepts objects of its own type only.

## Main definitions

- `Service.Proper` — a service is for what a call is for, and works on its target
- `Bridge.Reachable.proper_or_miss` — so is every service on a reachable bridge
-/

namespace HostBridge

variable {ε : Type} [Embedding ε]

-- ════════════════════════════════════════════════════════════════════════
-- Handlers accept objects of their type only
-- ════════════════════════════════════════════════════════════════════════

/-- The type of the object behind a reference. -/
def Objects.typeOf? {τ : Type} {State : τ → Type} (o : Objects τ State) (ref : ObjectRef) :
    Option τ :=
  (o.get? ref).map (·.type)

section

variable {τ : Type} [DecidableEq τ] {State : τ → Type} {o : Objects τ State} {t : τ}
  {ref : ObjectRef}

theorem Object.type_of_isSome_as? {x : Object τ State} (h : (x.as? t).isSome = true) :
    x.type = t := by
  unfold Object.as? at h
  split at h
  · assumption
  · exact absurd h (by simp)

theorem Objects.typeOf?_of_isSome_read? (h : (o.read? t ref).isSome = true) :
    o.typeOf? ref = some t := by
  unfold read? at h
  obtain ⟨state, hstate⟩ := Option.isSome_iff_exists.mp h
  obtain ⟨x, hx, hstate⟩ := Option.bind_eq_some_iff.mp hstate
  split at hstate
  · exact absurd hstate (by simp)
  · have htype : x.type = t := Object.type_of_isSome_as? (by rw [hstate]; rfl)
    rw [typeOf?, hx, ← htype]
    rfl

theorem Objects.typeOf?_of_isSome_write? (h : (o.write? t ref).isSome = true) :
    o.typeOf? ref = some t := by
  unfold write? at h
  obtain ⟨state, hstate⟩ := Option.isSome_iff_exists.mp h
  obtain ⟨x, hx, hstate⟩ := Option.bind_eq_some_iff.mp hstate
  split at hstate
  · have htype : x.type = t := Object.type_of_isSome_as? (by rw [hstate]; rfl)
    rw [typeOf?, hx, ← htype]
    rfl
  · exact absurd hstate (by simp)

end

/-- A handler that works on objects of a type accepts nothing but such an object. -/
theorem Handler.exists_target_of_admits {handler : Handler ε} {t : HostType ε}
    {objects : Objects (HostType ε) HostType.State} {target : Option ObjectRef}
    (hsubject : handler.subject? = some t) (h : handler.admits objects target = true) :
    ∃ ref, target = some ref ∧ objects.typeOf? ref = some t := by
  cases handler with
  | getter u read =>
    obtain rfl := Option.some.inj hsubject
    obtain ⟨ref, rfl, hread⟩ := (Option.any_eq_true _ _).mp h
    exact ⟨ref, rfl, Objects.typeOf?_of_isSome_read? hread⟩
  | setter u v write =>
    obtain rfl := Option.some.inj hsubject
    obtain ⟨ref, rfl, hwrite⟩ := (Option.any_eq_true _ _).mp h
    exact ⟨ref, rfl, Objects.typeOf?_of_isSome_write? hwrite⟩
  | method u params act =>
    obtain rfl := Option.some.inj hsubject
    obtain ⟨ref, rfl, hwrite⟩ := (Option.any_eq_true _ _).mp h
    exact ⟨ref, rfl, Objects.typeOf?_of_isSome_write? hwrite⟩
  | function params act => exact absurd hsubject (by simp [subject?])
  | assign v write => exact absurd hsubject (by simp [subject?])

-- ════════════════════════════════════════════════════════════════════════
-- A service is for what its call is for
-- ════════════════════════════════════════════════════════════════════════

namespace Entry

variable {ready : Readiness ε} {b : Bridge ε} {s : Service ε}

theorem service?_onHandle {handle : Handle} {member : String} {kind : CallKind}
    {args : List Slot} {d : Bridge ε}
    (h : (Errand.onHandle b handle member kind args).service? d = some s) :
    s.key.isStatic = false ∧ s.target = b.handles.resolve? handle := by
  unfold Errand.onHandle at h
  cases hentry : b.handles.entry? handle with
  | none =>
    simp only [hentry] at h
    exact absurd h (by simp [Errand.service?])
  | some entry =>
    simp only [hentry] at h
    obtain ⟨hkey, htarget, -⟩ := Bridge.of_serviceByName?_eq_some h
    obtain ⟨owner, hkey, -⟩ := Bridge.exists_key_of_lookup? hkey
    refine ⟨congrArg Key.isStatic hkey, htarget.trans ?_⟩
    simp [Request.onObject, HandleTable.resolve?, hentry]

/-- A service is for a static member if and only if its call is, and a call of an
    instance member is served on the target that it supplies. -/
theorem isStatic?_of_service? {e : Entry ε} (h : e.service? ready b = some s) :
    e.isStatic? ready b = some s.key.isStatic ∧
      (s.key.isStatic = false → s.target = e.target? ready b) := by
  -- All forms but calls by number amount to a request with a known static flag.
  have hname {q : Request ε} {d : Bridge ε} (hq : d.serviceByName? q = some s) :
      some q.isStatic = some s.key.isStatic ∧ (s.key.isStatic = false → s.target = q.target) := by
    obtain ⟨hkey, htarget, -⟩ := Bridge.of_serviceByName?_eq_some hq
    obtain ⟨owner, hkey, -⟩ := Bridge.exists_key_of_lookup? hkey
    rw [hkey]
    exact ⟨rfl, fun _ => htarget⟩
  have hhandle {handle : Handle} {member : String} {kind : CallKind} {args : List Slot}
      {d : Bridge ε}
      (hs : (Errand.onHandle b handle member kind args).service? d = some s) :
      some false = some s.key.isStatic ∧
        (s.key.isStatic = false → s.target = b.handles.resolve? handle) := by
    obtain ⟨hstatic, htarget⟩ := service?_onHandle hs
    exact ⟨congrArg some hstatic.symm, fun _ => htarget⟩
  cases e with
  | request q => exact hname h
  | callee c args =>
    cases c with
    | static space member kind => exact hname h
    | onHandle handle member kind => exact hhandle h
    | named space member kind isStatic handle =>
      cases isStatic with
      | true => exact hname h
      | false =>
        cases handle with
        | none => exact hname h
        | some handle => exact hhandle h
    | buffers space owner member kind isStatic handle => exact hname h
    | byId id =>
      obtain ⟨hkey, hsplit, -⟩ := Bridge.of_serviceById?_eq_some h
      refine ⟨?_, fun hinstance => ?_⟩
      · show ((b.after (ready [])).ids.key? id).map (·.isStatic) = some s.key.isStatic
        have hkey' : (b.after (ready [])).ids.key? id = some s.key := hkey
        rw [hkey']
        rfl
      · rw [hinstance] at hsplit
        exact (Bridge.target_of_splitTarget? hsplit).1

end Entry

-- ════════════════════════════════════════════════════════════════════════
-- Services of reachable bridges
-- ════════════════════════════════════════════════════════════════════════

/-- A service is proper for a call: it is bound, it is for a static member exactly if the
    call is, and a handler that works on objects of a type runs on such an object, which
    the call supplies under a live handle if it names its target by one. -/
structure Service.Proper (s : Service ε) (e : Entry ε) (ready : Readiness ε)
    (b : Bridge ε) : Prop where
  bound : (e.prepared ready b).registry.get? s.key = some s.handler
  static_iff : e.isStatic? ready b = some s.key.isStatic
  subject_iff : s.handler.subject? = none ↔ s.key.isStatic = true
  target : ∀ t, s.handler.subject? = some t →
    s.key.owner = .hostType t ∧ ∃ ref, e.target? ready b = some ref ∧ s.target = some ref ∧
      (e.prepared ready b).host.objects.typeOf? ref = some t ∧
      ∀ handle, e.handle? = some handle →
        ∃ entry, (e.resolving ready b).handles.entry? handle = some entry ∧ entry.object = ref

namespace Entry

variable {ready : Readiness ε} {b : Bridge ε} {s : Service ε}

/-- A target that a call names by a handle is lent under it. -/
theorem exists_entry_of_target? {e : Entry ε} {ref : ObjectRef} {handle : Handle}
    (htarget : e.target? ready b = some ref) (hhandle : e.handle? = some handle) :
    ∃ entry, (e.resolving ready b).handles.entry? handle = some entry ∧ entry.object = ref := by
  cases e with
  | request q => exact absurd hhandle (by simp [handle?])
  | callee c args =>
    have hresolve : ((callee c args).resolving ready b).handles.resolve? handle = some ref := by
      have hbind : (c.handle? args).bind
          ((callee c args).resolving ready b).handles.resolve? = some ref := htarget
      rw [show c.handle? args = some handle from hhandle] at hbind
      exact hbind
    exact Option.map_eq_some_iff.mp hresolve

/-- If the registry is orderly, every service is proper for its call. -/
theorem proper_of_service? {e : Entry ε} (horder : Orderly (e.prepared ready b).registry)
    (h : e.service? ready b = some s) : s.Proper e ready b := by
  obtain ⟨hget, hadmits⟩ := bound_of_service? h
  obtain ⟨hstatic, htarget⟩ := isStatic?_of_service? h
  obtain ⟨found, hfound, hhandler⟩ := Option.map_eq_some_iff.mp hget
  have hfits : s.handler.Fits s.key := by
    rw [← hhandler]
    exact horder.fits hfound
  refine ⟨hget, hstatic, ?_, ?_⟩
  · unfold Handler.Fits at hfits
    cases hsubject : s.handler.subject? with
    | none =>
      rw [hsubject] at hfits
      exact iff_of_true rfl hfits
    | some t =>
      rw [hsubject] at hfits
      exact iff_of_false (by simp) (by rw [hfits.2]; exact Bool.false_ne_true)
  · intro t hsubject
    rw [Handler.Fits, hsubject] at hfits
    obtain ⟨ref, href, htype⟩ := Handler.exists_target_of_admits hsubject hadmits
    have hsupplied : e.target? ready b = some ref := (htarget hfits.2).symm.trans href
    exact ⟨hfits.1, ref, hsupplied, href, htype,
      fun handle hhandle => exists_entry_of_target? hsupplied hhandle⟩

end Entry

namespace Bridge

variable {b : Bridge ε}

/-- On a reachable bridge every way to call has a proper service or none, and this
    service is all that runs. A call of an instance member that supplies no target has
    none: it is a miss, whatever its names. -/
theorem Reachable.proper_or_miss (h : Reachable b) (e : Entry ε) :
    b.outcome (e.call ensureReady) =
        (e.prepared ensureReady b).serve (e.service? ensureReady b) ∧
      (∀ s, e.service? ensureReady b = some s → s.Proper e ensureReady b) ∧
      (e.isStatic? ensureReady b = some false → e.target? ensureReady b = none →
        e.service? ensureReady b = none ∧
          b.outcome (e.call ensureReady) = (none, e.prepared ensureReady b)) := by
  have hcall := e.outcome_call ensureReady b
  have hproper (s : Service ε) (hs : e.service? ensureReady b = some s) :
      s.Proper e ensureReady b :=
    Entry.proper_of_service? (h.orderly_prepared e) hs
  refine ⟨hcall, hproper, fun hinstance htarget => ?_⟩
  have hnone : e.service? ensureReady b = none := by
    rw [Option.eq_none_iff_forall_ne_some]
    intro s hs
    have hp := hproper s hs
    -- The service is for an instance member, so its handler works on a supplied object.
    have hkey : s.key.isStatic = false :=
      (Option.some.inj (hp.static_iff.symm.trans hinstance))
    cases hsubject : s.handler.subject? with
    | none => exact Bool.false_ne_true (hkey.symm.trans (hp.subject_iff.mp hsubject))
    | some t =>
      obtain ⟨-, ref, hsupplied, -⟩ := hp.target t hsubject
      exact Option.some_ne_none ref (hsupplied.symm.trans htarget)
  refine ⟨hnone, ?_⟩
  rw [hcall, hnone]
  rfl

/-- The bridge that lends a counter serves a reading of the counter's total by the getter
    of counters. Without a handle the same names are a miss, although a static member has
    them too. -/
theorem proper_or_miss_lending :
    Reachable Playground.lending ∧
      (∃ s, (Entry.callee (.onHandle Playground.firstHandle "total" .get) []).service?
          ensureReady Playground.lending = some s ∧
        s.handler.subject? = some Playground.counterType ∧
        s.Proper (.callee (.onHandle Playground.firstHandle "total" .get) []) ensureReady
          Playground.lending) ∧
      (Entry.callee (.named "Counter" "total" .get false none) []).service?
        ensureReady Playground.lending = none := by
  refine ⟨Playground.reachable_lending, ?_, ?_⟩
  · have hproper := (Reachable.proper_or_miss Playground.reachable_lending
      (.callee (.onHandle Playground.firstHandle "total" .get) [])).2.1
    exact ⟨_, rfl, rfl, hproper _ rfl⟩
  · have hmiss := (Reachable.proper_or_miss Playground.reachable_lending
      (.callee (.named "Counter" "total" .get false none) [])).2.2
    exact (hmiss rfl rfl).1

end Bridge

end HostBridge
