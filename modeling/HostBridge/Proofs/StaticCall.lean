import HostBridge.Proofs.Orderly
import HostBridge.Proofs.Requests

/-!
# Calls of static members

A handler that belongs under a static key works without an object, so it accepts every call,
whatever the arguments are. In an orderly registry the call of a static member is therefore a
hit exactly if its names reach a key. To ask whether a member is bound, and to ask for its number,
is to look for the same key.

## Main definitions

- `Orderly.admits` — no static member declines a call
- `Bridge.answer_assignId_cases` — when a key gets a number
- `Bridge.Reachable.static_hit_iff` — a static call is a hit exactly if the member is bound
-/

namespace HostBridge

variable {ε : Type} [Embedding ε]

/-- A handler that works without an object accepts every target, and none. -/
theorem Handler.admits_of_subject?_eq_none {handler : Handler ε} (h : handler.subject? = none)
    (objects : Objects (HostType ε) HostType.State) (target : Option ObjectRef) :
    handler.admits objects target = true := by
  cases handler with
  | getter | setter | method => exact absurd h (Option.some_ne_none _)
  | function | assign => rfl

/-- No static member declines a call. -/
theorem Orderly.admits {r : Registry (HostType ε) (Handler ε)} (h : Orderly r)
    {key : Key (HostType ε)} {handler : Handler ε} (hget : r.get? key = some handler)
    (hstatic : key.isStatic = true) (objects : Objects (HostType ε) HostType.State)
    (target : Option ObjectRef) : handler.admits objects target = true := by
  obtain ⟨found, hfound, rfl⟩ := Option.map_eq_some_iff.mp hget
  have hfits : found.handler.Fits key := h.fits hfound
  refine Handler.admits_of_subject?_eq_none ?_ objects target
  cases hsubject : found.handler.subject? with
  | none => rfl
  | some t =>
    rw [Handler.Fits, hsubject] at hfits
    exact absurd (hstatic.symm.trans hfits.2) Bool.true_eq_false.mp

namespace Bridge

variable {b : Bridge ε}

/-- A call of a static member is served exactly if its names reach a key. -/
theorem isSome_serviceByName?_of_static (h : Orderly b.registry) {q : Request ε}
    (hstatic : q.isStatic = true) :
    (b.serviceByName? q).isSome = (lookup? b.registry q).isSome := by
  unfold serviceByName?
  cases hkey : lookup? b.registry q with
  | none => rfl
  | some key =>
    obtain ⟨owner, rfl, -⟩ := exists_key_of_lookup? hkey
    obtain ⟨found, hfound⟩ := Option.isSome_iff_exists.mp (contains_of_lookup? hkey)
    have hget : b.registry.get? (q.key owner) = some found.handler := by
      rw [Registry.get?, hfound, Option.map_some]
    have hadmits := h.admits hget hstatic b.host.objects q.target
    simp [serviceAt?, hget, hadmits]

/-- It is a hit exactly if its names reach a key on the bridge that is ready for it. -/
theorem isSome_answer_dispatch_of_static {ready : BridgeM ε Unit}
    (h : Orderly (b.after ready).registry) {q : Request ε} (hstatic : q.isStatic = true) :
    (b.answer (dispatch ready q)).isSome = (lookup? (b.after ready).registry q).isSome := by
  have hanswer : b.answer (dispatch ready q) =
      ((b.after ready).serve ((b.after ready).serviceByName? q)).1 :=
    congrArg Prod.fst (outcome_dispatch b ready q)
  rw [hanswer, ← isSome_serviceByName?_of_static h hstatic]
  cases hservice : (b.after ready).serviceByName? q with
  | none => rfl
  | some s =>
    have hadmits := (of_serviceByName?_eq_some hservice).2.2.2.2
    exact isSome_answer_invoke (b.after ready) s.args hadmits

-- ════════════════════════════════════════════════════════════════════════
-- Asking for a number
-- ════════════════════════════════════════════════════════════════════════

/-- A key gets a number as long as there are numbers left. -/
theorem answer_assignId_cases (b : Bridge ε) (key : Key (HostType ε)) :
    (∃ id, b.answer (assignId key) = .ok id) ∨
      b.answer (assignId key) = .error .bindingIdsExhausted ∧ 0x7FFFFFFF ≤ b.ids.size := by
  simp only [assignId, answer_modifyGet, BindingIds.assign]
  cases b.ids.keys.findIdx? (· = key) with
  | some i => exact Or.inl ⟨i + 1, rfl⟩
  | none =>
    by_cases hroom : b.ids.keys.length + 1 < 0x80000000
    · rw [if_pos hroom]
      exact Or.inl ⟨b.ids.keys.length + 1, rfl⟩
    · rw [if_neg hroom]
      exact Or.inr ⟨rfl, Nat.le_of_lt_succ (Nat.not_lt.mp hroom)⟩

/-- On a ready bridge that comes from a new one, a call of a static member is a hit exactly if
    the member is bound, whatever its arguments are. As long as numbers are left, it gets a number
    exactly if it is bound. When all are given out, a member that is bound may get none, which is
    another error than that of a member that is not bound. -/
theorem Reachable.static_hit_iff (h : b.Reachable) (hready : b.phase = .ready)
    (typeName member : String) (kind : CallKind) :
    let resolved : Except BridgeError Nat :=
      b.answer (resolveId (ensureReady []) typeName member kind true)
    (∀ args, (b.answer (call ensureReady args (.static typeName member kind))).isSome =
        b.hasBinding typeName member kind true) ∧
      (b.ids.size < 0x7FFFFFFF →
        (b.hasBinding typeName member kind true = true ↔ ∃ id, resolved = .ok id)) ∧
      (b.hasBinding typeName member kind true = true ↔
        (∃ id, resolved = .ok id) ∨
          resolved = .error .bindingIdsExhausted ∧ 0x7FFFFFFF ≤ b.ids.size) ∧
      (b.hasBinding typeName member kind true = false ↔
        resolved = .error (.unknownBinding (bindingText typeName member kind))) ∧
      ∀ {key handler}, b.registry.get? key = some handler → key.isStatic = true →
        ∀ codecs handles target args host,
          (handler.run codecs handles target args host).isSome = true := by
  intro resolved
  have hsettled : b.Settled := by
    rw [Settled, hready]
    exact Phase.noConfusion
  have hafter : b.after (ensureReady []) = b := after_ensureReady_of_settled hsettled []
  have hcalled (args : List Slot) :
      (b.answer (call ensureReady args (.static typeName member kind))).isSome =
        b.hasBinding typeName member kind true := by
    have horderly : Orderly (b.after (ensureReady [])).registry := by
      rw [hafter]
      exact h.orderly
    refine (isSome_answer_dispatch_of_static horderly rfl).trans ?_
    rw [hafter]
    rfl
  have hresolved : resolved =
      ((lookup? b.registry (Request.byName typeName member kind true)).elim
        (.error (.unknownBinding (bindingText typeName member kind)), b)
        fun key => b.outcome (assignId key)).1 := by
    have houtcome := outcome_resolveId b (ensureReady []) typeName member kind true
    rw [hafter] at houtcome
    exact congrArg Prod.fst houtcome
  have hruns {key : Key (HostType ε)} {handler : Handler ε}
      (hget : b.registry.get? key = some handler) (hstatic : key.isStatic = true) codecs handles
      target args host : (handler.run codecs handles target args host).isSome = true := by
    rw [Handler.run_isSome]
    exact h.orderly.admits hget hstatic host.objects target
  have hnumbered : b.hasBinding typeName member kind true = true ↔
      (∃ id, resolved = .ok id) ∨
        resolved = .error .bindingIdsExhausted ∧ 0x7FFFFFFF ≤ b.ids.size := by
    rw [hresolved, hasBinding]
    cases hkey : lookup? b.registry (Request.byName typeName member kind true) with
    | none => simp
    | some key =>
      rcases answer_assignId_cases b key with ⟨id, hid⟩ | ⟨hfull, hsize⟩
      · simp [outcome, hid]
      · simp [outcome, hfull, hsize]
  have hunknown : b.hasBinding typeName member kind true = false ↔
      resolved = .error (.unknownBinding (bindingText typeName member kind)) := by
    rw [hresolved, hasBinding]
    cases hkey : lookup? b.registry (Request.byName typeName member kind true) with
    | none => simp
    | some key =>
      rcases answer_assignId_cases b key with ⟨id, hid⟩ | ⟨hfull, -⟩
      · simp [outcome, hid]
      · simp [outcome, hfull]
  refine ⟨hcalled, fun hleft => hnumbered.trans ?_, hnumbered, hunknown, hruns⟩
  exact or_iff_left fun hfull => Nat.not_le.mpr hleft hfull.2

/-- Once the bridge that lends a counter is ready, the constant of the type is called with
    arguments that it has no use for. Counters have no static member of another name. -/
theorem static_hit_iff_lending :
    let b : Bridge Playground := Playground.lending.after (performWith ensureReady [] .ensureReady)
    b.Reachable ∧ b.phase = .ready ∧
      (∀ args, (b.answer (call ensureReady args (.static "Counter" "total" .get))).isSome = true) ∧
      (∀ args, (b.answer (call ensureReady args (.static "Counter" "size" .get))).isSome = false) ∧
      b.answer (resolveId (ensureReady []) "Counter" "total" .get true) = .ok 1 := by
  intro b
  have hb : b.Reachable := by
    obtain ⟨a, ha, hhistory⟩ := Playground.reachable_lending
    exact ⟨a, ha, hhistory.performed trivial []⟩
  have hready : b.phase = .ready := rfl
  have hbound : b.hasBinding "Counter" "total" .get true = true := rfl
  have hunbound : b.hasBinding "Counter" "size" .get true = false := by decide +kernel
  refine ⟨hb, hready, fun args => ?_, fun args => ?_, rfl⟩
  · rw [(hb.static_hit_iff hready "Counter" "total" .get).1, hbound]
  · rw [(Reachable.static_hit_iff hb hready "Counter" "size" .get).1, hunbound]

end Bridge

end HostBridge
