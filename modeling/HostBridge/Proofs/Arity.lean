import HostBridge.Proofs.Entry
import HostBridge.Proofs.History

/-!
# Arguments that a binding has no use for

A binding has a number of parameters. It decodes one argument for each, and an empty slot for
each argument that is missing. So lists of arguments that are *alike* for this number of
parameters make the same call: further arguments do nothing, and a missing one is as good as an
empty slot. Which binding a call reaches, and whether it accepts its target, does not depend on
the arguments at all, but for the handle of the target in a call by number.

## Main definitions

- `Slot.AlikeFor` — lists of arguments that are the same for some number of parameters
- `Handler.arity` — how many parameters a handler has
- `Entry.handler?` — the handler that a call reaches
- `Entry.mapArgs` — the same call with other arguments
- `Suited` — what is bound for reading has no parameters, and what is bound for writing has one
- `Bridge.Reachable.outcome_call_cut_padded` — arguments can be cut off, and empty slots be added,
  down and up to the number of parameters
-/

namespace HostBridge

variable {ε : Type} [Embedding ε]

namespace Slot

/-- Two lists of arguments are the same for `n` parameters, to which a missing argument is an
    empty slot. -/
def AlikeFor (n : Nat) (args' args : List Slot) : Prop :=
  ∀ i < n, args'.getD i .null = args.getD i .null

theorem alikeFor_take (n : Nat) (args : List Slot) : AlikeFor n (args.take n) args := by
  intro i hi
  rw [List.getD_eq_getElem?_getD, List.getD_eq_getElem?_getD, List.getElem?_take_of_lt hi]

theorem alikeFor_rightpad (n : Nat) (args : List Slot) :
    AlikeFor n (args.rightpad n .null) args := by
  intro i hi
  rw [List.rightpad, List.getD_eq_getElem?_getD, List.getD_eq_getElem?_getD]
  by_cases hlen : i < args.length
  · rw [List.getElem?_append_left hlen]
  · rw [List.getElem?_append_right (Nat.le_of_not_lt hlen), List.getElem?_replicate,
      List.getElem?_eq_none (Nat.le_of_not_lt hlen)]
    split <;> rfl

namespace AlikeFor

variable {n : Nat} {args' args : List Slot}

theorem headD_eq (h : AlikeFor (n + 1) args' args) : args'.headD .null = args.headD .null := by
  have hfirst := h 0 (Nat.succ_pos n)
  rwa [List.getD_eq_getElem?_getD, List.getD_eq_getElem?_getD, ← List.head?_eq_getElem?,
    ← List.head?_eq_getElem?, ← List.headD_eq_head?_getD, ← List.headD_eq_head?_getD] at hfirst

protected theorem tail (h : AlikeFor (n + 1) args' args) : AlikeFor n args'.tail args.tail := by
  intro i hi
  have hnext := h (i + 1) (Nat.succ_lt_succ hi)
  rwa [List.getD_eq_getElem?_getD, List.getD_eq_getElem?_getD, ← List.getElem?_tail,
    ← List.getElem?_tail, ← List.getD_eq_getElem?_getD, ← List.getD_eq_getElem?_getD] at hnext

end AlikeFor

end Slot

-- ════════════════════════════════════════════════════════════════════════
-- What a handler reads
-- ════════════════════════════════════════════════════════════════════════

/-- Host code gets one value for each of its parameters. -/
theorem Args.decode_congr (codecs : Codecs ε) (handles : Handles ε) {params : List (ValueType ε)}
    {args' args : List Slot} (h : Slot.AlikeFor params.length args' args) :
    Args.decode codecs handles params args' = Args.decode codecs handles params args := by
  induction params generalizing args' args with
  | nil => rfl
  | cons t params ih =>
    have hrest := ih h.tail
    rw [Args.decode, Args.decode, h.headD_eq, hrest]

/-- How many parameters a handler has. -/
def Handler.arity : Handler ε → Nat
  | getter .. => 0
  | setter .. => 1
  | method _ params _ => params.length
  | function params _ => params.length
  | assign .. => 1

/-- A handler does the same with arguments that are alike for its parameters. -/
theorem Handler.run_congr (codecs : Codecs ε) (handles : Handles ε) (target : Option ObjectRef)
    {args' args : List Slot} (host : Host ε) {handler : Handler ε}
    (h : Slot.AlikeFor handler.arity args' args) :
    handler.run codecs handles target args' host = handler.run codecs handles target args host := by
  cases handler with
  | getter t read => rfl
  | setter t v write =>
    have hfirst : args'.headD .null = args.headD .null := h.headD_eq
    simp only [run, hfirst]
  | method t params act =>
    have hvalues := Args.decode_congr codecs handles h
    simp only [run, hvalues]
  | function params act =>
    have hvalues := Args.decode_congr codecs handles h
    simp only [run, hvalues]
  | assign v write =>
    have hfirst : args'.headD .null = args.headD .null := h.headD_eq
    simp only [run, hfirst]

namespace Bridge

theorem invoke_congr {handler : Handler ε} (target : Option ObjectRef) {args' args : List Slot}
    (h : Slot.AlikeFor handler.arity args' args) :
    invoke handler target args' = invoke handler target args := by
  funext b
  rw [invoke, invoke, Handler.run_congr b.codecs b.handles target b.host h]

theorem serve_serviceAt?_congr {b : Bridge ε} {key : Key (HostType ε)} {handler : Handler ε}
    (hget : b.registry.get? key = some handler) (target : Option ObjectRef)
    {args' args : List Slot} (h : Slot.AlikeFor handler.arity args' args) :
    b.serve (b.serviceAt? key target args') = b.serve (b.serviceAt? key target args) := by
  rw [← outcome_invoke b target args' hget, ← outcome_invoke b target args hget,
    invoke_congr target h]

end Bridge

-- ════════════════════════════════════════════════════════════════════════
-- The handler that a call reaches
-- ════════════════════════════════════════════════════════════════════════

/-- The arguments behind the first slot, which is the handle of a target, replaced. -/
def Slot.mapBehind (f : List Slot → List Slot) : List Slot → List Slot
  | [] => []
  | first :: rest => first :: f rest

namespace Errand

variable {b : Bridge ε} {e : Errand ε} {handler : Handler ε} {f : List Slot → List Slot}

/-- The handler that an errand reaches on a bridge that is ready for it. -/
def handler? (b : Bridge ε) : Errand ε → Option (Handler ε)
  | nothing => none
  | byName q => Bridge.handler? b.registry q
  | byId id _ => (b.ids.key? id).bind b.registry.get?

/-- The same errand with other arguments. In a call by number of an instance member they stand
    behind the handle of the target, which stays. -/
def mapArgs (b : Bridge ε) (f : List Slot → List Slot) : Errand ε → Errand ε
  | nothing => nothing
  | byName q => byName { q with args := f q.args }
  | byId id args =>
    match b.ids.key? id with
    | some ⟨_, _, _, false⟩ => byId id (Slot.mapBehind f args)
    | _ => byId id (f args)

theorem serve_byName_congr {q : Request ε} (h : (byName q).handler? b = some handler)
    {args : List Slot} (halike : Slot.AlikeFor handler.arity args q.args) :
    b.serve ((byName { q with args }).service? b) = b.serve ((byName q).service? b) := by
  obtain ⟨key, hkey, hget⟩ := Option.bind_eq_some_iff.mp h
  have hkey' : Bridge.lookup? b.registry { q with args } = some key := hkey
  rw [service?, service?, Bridge.serviceByName?, Bridge.serviceByName?, hkey', hkey]
  exact Bridge.serve_serviceAt?_congr hget q.target halike

theorem service?_byId {id : Int} {key : Key (HostType ε)} (hkey : b.ids.key? id = some key)
    (args : List Slot) :
    (byId id args).service? b =
      (Bridge.splitTarget? b.handles key.isStatic args).bind fun (target, args) =>
        b.serviceAt? key target args := by
  rw [service?, Bridge.serviceById?, hkey, Option.bind_some]

theorem serve_byId_congr {id : Int} {args : List Slot}
    (h : (byId id args).handler? b = some handler)
    (halike : ∀ args, Slot.AlikeFor handler.arity (f args) args) :
    b.serve (((byId id args).mapArgs b f).service? b) = b.serve ((byId id args).service? b) := by
  obtain ⟨⟨owner, member, kind, isStatic⟩, hkey, hget⟩ := Option.bind_eq_some_iff.mp h
  cases isStatic with
  | true =>
    simp only [mapArgs, hkey, service?_byId hkey]
    exact Bridge.serve_serviceAt?_congr hget none (halike args)
  | false =>
    simp only [mapArgs, hkey, service?_byId hkey]
    cases args with
    | nil => rfl
    | cons first rest =>
      -- The target is the same, and it is live or not whatever stands behind it.
      rw [Slot.mapBehind, Bridge.splitTarget?, Bridge.splitTarget?]
      cases first.handle?.bind b.handles.resolve? with
      | none => rfl
      | some object => exact Bridge.serve_serviceAt?_congr hget (some object) (halike rest)

/-- What serves an errand does the same with arguments that are alike for its handler. -/
theorem serve_mapArgs (h : e.handler? b = some handler)
    (halike : ∀ args, Slot.AlikeFor handler.arity (f args) args) :
    b.serve ((e.mapArgs b f).service? b) = b.serve (e.service? b) := by
  cases e with
  | nothing => rfl
  | byName q => exact serve_byName_congr h (halike q.args)
  | byId id args => exact serve_byId_congr h halike

end Errand

namespace Entry

variable (ready : Readiness ε) (b : Bridge ε)

/-- The handler that a call reaches, whether or not it accepts the target. -/
def handler? (e : Entry ε) : Option (Handler ε) :=
  (e.errand b).handler? (e.prepared ready b)

/-- The same call with other arguments. In a call by number of an instance member they stand
    behind the handle of the target, which stays. -/
def mapArgs (f : List Slot → List Slot) : Entry ε → Entry ε
  | request q => request { q with args := f q.args }
  | callee (.byId id) args =>
    if isStatic? ready b (callee (.byId id) args) = some false then
      callee (.byId id) (Slot.mapBehind f args)
    else callee (.byId id) (f args)
  | callee c args => callee c (f args)

variable {ready b} {f : List Slot → List Slot}

theorem errand_mapArgs (e : Entry ε) :
    (e.mapArgs ready b f).errand b = (e.errand b).mapArgs (e.prepared ready b) f := by
  have hhandle (handle : Handle) (member : String) (kind : CallKind) (args : List Slot)
      (d : Bridge ε) : Errand.onHandle b handle member kind (f args) =
        (Errand.onHandle b handle member kind args).mapArgs d f := by
    unfold Errand.onHandle
    split <;> rfl
  cases e with
  | request q => rfl
  | callee c args =>
    cases c with
    | static | buffers => rfl
    | onHandle handle member kind => exact hhandle handle member kind args _
    | named space member kind isStatic handle =>
      cases isStatic with
      | true => rfl
      | false =>
        cases handle with
        | none => rfl
        | some handle => exact hhandle handle member kind args _
    | byId id =>
      have hprepared : (callee (.byId id) args).prepared ready b = b.after (ready []) := rfl
      have herrand : (callee (.byId id) args : Entry ε).errand b = .byId id args := rfl
      rw [hprepared, herrand, mapArgs, isStatic?, Errand.mapArgs]
      rcases (b.after (ready [])).ids.key? id with _ | ⟨owner, member, kind, _ | _⟩ <;> rfl

theorem prepared_mapArgs (e : Entry ε) :
    (e.mapArgs ready b f).prepared ready b = e.prepared ready b := by
  rw [prepared, errand_mapArgs, prepared]
  cases e.errand b with
  | nothing => rfl
  | byName q => rfl
  | byId id args =>
    rw [Errand.mapArgs]
    split <;> rfl

/-- A call does the same with arguments that are alike for the handler that it reaches. -/
theorem outcome_mapArgs {e : Entry ε} {handler : Handler ε}
    (h : e.handler? ready b = some handler)
    (halike : ∀ args, Slot.AlikeFor handler.arity (f args) args) :
    b.outcome ((e.mapArgs ready b f).call ready) = b.outcome (e.call ready) := by
  rw [outcome_call, outcome_call, prepared_mapArgs, service?, service?, prepared_mapArgs,
    errand_mapArgs]
  exact Errand.serve_mapArgs h halike

end Entry

-- ════════════════════════════════════════════════════════════════════════
-- Arities by the kind of a call
-- ════════════════════════════════════════════════════════════════════════

/-- A handler that reads has no parameters, and one that writes has one. -/
def Handler.Suits (handler : Handler ε) (kind : CallKind) : Prop :=
  (kind = .get → handler.arity = 0) ∧ (kind = .set → handler.arity = 1)

theorem InstanceMember.suits_of_mem {t : HostType ε} {member : InstanceMember ε t}
    {kind : CallKind} {handler : Handler ε} (h : (kind, handler) ∈ member.handlers) :
    handler.Suits kind := by
  cases member <;> simp only [handlers, List.mem_cons, List.not_mem_nil, or_false,
    Prod.mk.injEq] at h
  case property =>
    rcases h with ⟨rfl, rfl⟩ | ⟨rfl, rfl⟩ <;> simp [Handler.Suits, Handler.arity]
  all_goals
    obtain ⟨rfl, rfl⟩ := h
    simp [Handler.Suits, Handler.arity]

theorem StaticMember.suits_of_mem {member : StaticMember ε} {kind : CallKind}
    {handler : Handler ε} (h : (kind, handler) ∈ member.handlers) : handler.Suits kind := by
  cases member <;> simp only [handlers, List.mem_cons, List.not_mem_nil, or_false,
    Prod.mk.injEq] at h
  case property =>
    rcases h with ⟨rfl, rfl⟩ | ⟨rfl, rfl⟩ <;> simp [Handler.Suits, Handler.arity]
  all_goals
    obtain ⟨rfl, rfl⟩ := h
    simp [Handler.Suits, Handler.arity]

theorem Registration.suits_of_mem_placements {r : Registration ε} {p : Placement ε}
    {key : Key (HostType ε)} {found : Binding (Handler ε)} (hp : p ∈ r.placements)
    (hentry : p.entry? = some (key, found)) : found.handler.Suits key.kind := by
  cases r with
  | onObjects t name member =>
    obtain ⟨⟨kind, handler⟩, hmem, rfl⟩ := List.mem_map.mp hp
    obtain ⟨rfl, rfl⟩ := Prod.mk.inj (Option.some.inj hentry)
    exact InstanceMember.suits_of_mem hmem
  | onType t name member | onNamespace space name member =>
    obtain ⟨⟨kind, handler⟩, hmem, rfl⟩ := List.mem_map.mp hp
    obtain ⟨rfl, rfl⟩ := Prod.mk.inj (Option.some.inj hentry)
    exact StaticMember.suits_of_mem hmem
  | typeName t name =>
    obtain rfl := List.mem_singleton.mp hp
    exact absurd hentry (by simp [Placement.entry?])
  | codec | packed | converter => exact absurd hp List.not_mem_nil

/-- Every handler suits the kind of calls that it is bound for. -/
def Suited (r : Registry (HostType ε) (Handler ε)) : Prop :=
  ∀ (key : Key (HostType ε)) (found : Binding (Handler ε)),
    r.binding? key = some found → found.handler.Suits key.kind

theorem Suited.of_bindings_nil {r : Registry (HostType ε) (Handler ε)} (h : r.bindings = []) :
    Suited r := by
  intro key found hfound
  rw [Registry.binding?, h] at hfound
  exact absurd hfound (by simp)

theorem Suited.placeAll {r : Registry (HostType ε) (Handler ε)} {ps : List (Placement ε)}
    (h : Suited r) (hps : ∀ p ∈ ps, ∀ key found, p.entry? = some (key, found) →
      found.handler.Suits key.kind) : Suited (Placement.placeAll r ps) := by
  induction ps generalizing r with
  | nil => exact h
  | cons p ps ih =>
    have hfirst : Suited (p.place r) := by
      intro key found hfound
      rcases Placement.binding?_place_cases p r hfound with hnew | hold
      · exact hps p List.mem_cons_self key found hnew
      · exact h key found hold
    exact ih hfirst fun q hq => hps q (List.mem_cons_of_mem p hq)

namespace Bridge

variable {a b : Bridge ε}

theorem suited_apply (c : Change ε) (h : Suited b.registry) : Suited (c.apply b).registry := by
  rw [registry_apply]
  cases c with
  | register r =>
    exact h.placeAll fun p hp _ _ hentry => Registration.suits_of_mem_placements hp hentry
  | clear => exact Suited.of_bindings_nil rfl
  | begin | finish => exact fun key found hfound => h key found hfound
  | number | lend | release | releaseAll | work | setInitializer | skip => exact h

theorem Changes.suited {P : Change ε → Prop} (h : Changes P a b) (ha : Suited a.registry) :
    Suited b.registry :=
  h.invariant (I := fun d => Suited d.registry) ha fun _ c _ _ hd => suited_apply c hd

theorem Reachable.suited_prepared (h : Reachable b) (e : Entry ε) :
    Suited (e.prepared ensureReady b).registry := by
  have hb : Suited b.registry :=
    h.invariant (I := fun d => Suited d.registry)
      (fun _ hnew => Suited.of_bindings_nil (congrArg Registry.bindings hnew.tables_eq.1))
      fun _ c _ hd => suited_apply c hd
  unfold Entry.prepared
  cases e.errand b with
  | nothing => exact hb
  | byName q => exact (changes_ensureReady b _).suited hb
  | byId id args => exact (changes_ensureReady b _).suited hb

/-- On a bridge that comes from a new one, a call of a binding has the same flag and result, and
    leaves the same host and the same handles, if its arguments are cut to the parameters of the
    binding, and if empty slots are added for parameters without an argument. This holds for every
    binding and every way to reach it, and whether or not the binding accepts its target. What is
    bound for reading has no parameters, and what is bound for writing has one. -/
theorem Reachable.outcome_call_cut_padded (hb : b.Reachable) (e : Entry ε) {handler : Handler ε}
    (h : e.handler? ensureReady b = some handler) :
    let n := handler.arity
    let outcome (f : List Slot → List Slot) : Option Slot × Bridge ε :=
      b.outcome ((e.mapArgs ensureReady b f).call ensureReady)
    outcome (·.take n) = b.outcome (e.call ensureReady) ∧
      outcome (·.rightpad n .null) = b.outcome (e.call ensureReady) ∧
      (∀ f, (∀ args, Slot.AlikeFor n (f args) args) →
        outcome f = b.outcome (e.call ensureReady)) ∧
      ∀ {key found}, (e.prepared ensureReady b).registry.get? key = some found →
        (key.kind = .get → found.arity = 0) ∧ (key.kind = .set → found.arity = 1) := by
  intro n outcome
  have halike (f : List Slot → List Slot) (hf : ∀ args, Slot.AlikeFor n (f args) args) :
      outcome f = b.outcome (e.call ensureReady) :=
    Entry.outcome_mapArgs h hf
  refine ⟨halike _ (Slot.alikeFor_take n), halike _ (Slot.alikeFor_rightpad n), halike, ?_⟩
  intro key found hfound
  obtain ⟨binding, hbinding, rfl⟩ := Option.map_eq_some_iff.mp hfound
  exact hb.suited_prepared e key binding hbinding

/-- A counter takes one number to add: an argument behind it does nothing, and without one it
    adds what is in an empty slot, also in a call by number, where the handle stays in front. -/
theorem outcome_call_cut_padded_add :
    let b : Bridge Playground := Playground.lending.after
      (performWith ensureReady [] (.register (Playground.Member.add.registration "add")))
    let numbered : Bridge Playground := b.after
      (performWith ensureReady [] (.resolveId "Counter" "add" .method false))
    let byHandle (args : List Slot) : Entry Playground :=
      .callee (.onHandle Playground.firstHandle "add" .method) args
    let byId (args : List Slot) : Entry Playground := .callee (.byId 1) (.int32 1 :: args)
    numbered.answer ((byId [.int32 5]).call ensureReady) = some (.int32 5) ∧
      numbered.outcome ((byId [.int32 5]).call ensureReady) =
        numbered.outcome ((byId [.int32 5, .string "spare"]).call ensureReady) ∧
      b.outcome ((byHandle [.null]).call ensureReady) =
        b.outcome ((byHandle []).call ensureReady) := by
  intro b numbered byHandle byId
  have hb : b.Reachable := by
    obtain ⟨a, ha, hhistory⟩ := Playground.reachable_lending
    exact ⟨a, ha, hhistory.performed trivial []⟩
  have hnumbered : numbered.Reachable := by
    obtain ⟨a, ha, hhistory⟩ := hb
    exact ⟨a, ha, hhistory.performed trivial []⟩
  refine ⟨rfl, ?_, ?_⟩
  · exact (hnumbered.outcome_call_cut_padded (byId [.int32 5, .string "spare"]) rfl).1
  · exact (Reachable.outcome_call_cut_padded hb (byHandle []) rfl).2.1

end Bridge

end HostBridge
