import HostBridge.Proofs.Sustaining
import HostBridge.Script.Function

/-!
# What a computation of the script comes to

A computation of the script returns a value or throws, and it leaves a context either way. These
are its laws, one per way to build a computation.

A computation *retains* its context if, wherever it starts, it leaves the bindings and the numbers
of the bridge to what scripts may ask for, and the limits of the context as they are. Besides, it
queues new jobs behind the pending ones only. All ways to build computations keep this, and every
weaker relation of contexts that composes, which is called a link here.

## Main definitions

- `Script.answer`, `Script.after` — what a computation answers, and the context that it leaves
- `Script.outcome` — its value, if it has one, and the context
- `Script.Sustains` — a context follows another one on a bridge that sustains the earlier one
- `Script.Retaining` — computations that lead to such contexts only
- `Script.Link` — a relation of contexts that outlasts whatever a script does
- `Script.Keeps` — computations that keep a link
-/

namespace HostBridge

namespace Script

variable {ε : Type} [Embedding ε] {α β : Type} (s : Script ε)

/-- What a computation answers when it starts from a context. -/
def answer (x : ScriptM ε α) : Except Thrown α :=
  (x s).value.1

/-- The context that a computation leaves when it starts from a context. -/
def after (x : ScriptM ε α) : Script ε :=
  (x s).value.2

/-- What scripts and hosts can tell of a computation but for what it throws: the value that it
    returns, if it returns one, and the context that it leaves. -/
def outcome (x : ScriptM ε α) : Option α × Script ε :=
  ((s.answer x).toOption, s.after x)

@[simp] theorem answer_pure (a : α) : s.answer (pure a) = .ok a := rfl

@[simp] theorem after_pure (a : α) : s.after (pure a) = s := rfl

@[simp] theorem answer_throw (e : Thrown) : s.answer (throw e : ScriptM ε α) = .error e := rfl

@[simp] theorem after_throw (e : Thrown) : s.after (throw e : ScriptM ε α) = s := rfl

@[simp] theorem answer_get : s.answer (get : ScriptM ε (Script ε)) = .ok s := rfl

@[simp] theorem after_get : s.after (get : ScriptM ε (Script ε)) = s := rfl

@[simp] theorem after_modify (f : Script ε → Script ε) :
    s.after (modify f : ScriptM ε Unit) = f s := rfl

@[simp] theorem after_log (e : Event) : s.after (log e) = s := rfl

variable {s} {x : ScriptM ε α} {f : α → ScriptM ε β} {a : α} {e : Thrown}

/-- What a computation does that goes on with the value of another one. -/
theorem value_bind (x : ScriptM ε α) (f : α → ScriptM ε β) :
    ((x >>= f) s).value = match s.answer x with
      | .ok a => (f a (s.after x)).value
      | .error e => (.error e, s.after x) := by
  show (ExceptT.bindCont f (x s).value.1 (x s).value.2).value = _
  unfold answer
  cases (x s).value.1 <;> rfl

theorem answer_bind_of_ok (h : s.answer x = .ok a) :
    s.answer (x >>= f) = (s.after x).answer (f a) := by
  rw [answer, value_bind, h]
  rfl

theorem after_bind_of_ok (h : s.answer x = .ok a) :
    s.after (x >>= f) = (s.after x).after (f a) := by
  rw [after, value_bind, h]
  rfl

theorem answer_bind_of_error (h : s.answer x = .error e) : s.answer (x >>= f) = .error e := by
  rw [answer, value_bind, h]

theorem after_bind_of_error (h : s.answer x = .error e) : s.after (x >>= f) = s.after x := by
  rw [after, value_bind, h]

/-- What a computation does that takes over where another one throws. -/
theorem value_tryCatch (x : ScriptM ε α) (handle : Thrown → ScriptM ε α) :
    (tryCatch x handle s).value = match s.answer x with
      | .ok a => (.ok a, s.after x)
      | .error e => (handle e (s.after x)).value := by
  simp only [answer, after, tryCatch, tryCatchThe, MonadExceptOf.tryCatch, ExceptT.tryCatch,
    ExceptT.mk, bind, StateT.bind, Logged.andThen]
  generalize x s = taken
  rcases taken with ⟨⟨_ | _, _⟩, _⟩ <;> rfl

/-- A context whose host uses the bridge refuses work on the bridge. -/
theorem withBridge_of_busy (code : BridgeM ε α) (h : s.busy = true) :
    (withBridge code s).value =
      (raise .internal "re-entrant host dispatch" s : Logged _).value := by
  unfold withBridge
  rw [value_bind, answer_get]
  show ((if s.busy = true then _ else _ : ScriptM ε α) s).value = _
  rw [if_pos h]

theorem withBridge_of_free (code : BridgeM ε α) (h : s.busy = false) :
    (withBridge code s).value =
      (.ok (s.bridge.answer code), { s with bridge := s.bridge.after code }) := by
  unfold withBridge
  rw [value_bind, answer_get]
  show ((if s.busy = true then _ else _ : ScriptM ε α) s).value = _
  rw [if_neg (by simp [h])]
  rfl

-- ════════════════════════════════════════════════════════════════════════
-- Computations that retain their context
-- ════════════════════════════════════════════════════════════════════════

/-- A context whose bridge sustains that of an earlier one, with the host where it was and with the
    same limits. -/
structure Sustains (later s : Script ε) : Prop where
  bridge : later.bridge.Sustains s.bridge
  busy : later.busy = s.busy
  config : later.config = s.config

theorem Sustains.trans {later last : Script ε} (h : last.Sustains later) (h' : later.Sustains s) :
    last.Sustains s :=
  ⟨h.bridge.trans h'.bridge, h.busy.trans h'.busy, h.config.trans h'.config⟩

/-- A computation that leaves a context which sustains the one where it starts, whether it returns
    a value or throws. -/
def Retaining (x : ScriptM ε α) : Prop :=
  ∀ s : Script ε, (s.after x).Sustains s

/-- A context that sustains an earlier one and has the same jobs pending, with others behind them at
    most. Nothing that a script does leaves any other context. -/
structure Follows (later s : Script ε) : Prop extends Sustains later s where
  jobs : s.jobs <+: later.jobs

/-- Variables and callbacks are none of the bridge's business, nor that of jobs. -/
theorem Follows.of_same {later : Script ε} (hbridge : later.bridge = s.bridge)
    (hbusy : later.busy = s.busy) (hconfig : later.config = s.config)
    (hjobs : later.jobs = s.jobs) : later.Follows s :=
  ⟨⟨hbridge ▸ .refl, hbusy, hconfig⟩, hjobs ▸ List.prefix_rfl⟩

theorem Follows.refl : s.Follows s :=
  .of_same rfl rfl rfl rfl

/-- A relation of later contexts to earlier ones that outlasts whatever a script does: it composes,
    and it holds of every context that follows another one. -/
structure Link (ε : Type) [Embedding ε] where
  holds : Script ε → Script ε → Prop
  trans {last later s : Script ε} : holds last later → holds later s → holds last s
  of_follows {later s : Script ε} : later.Follows s → holds later s

namespace Link

/-- The later context sustains the earlier one. -/
def sustaining : Link ε :=
  ⟨Sustains, Sustains.trans, Follows.toSustains⟩

/-- The jobs that were pending in the earlier context are so in the later one, before all others. -/
def queueing : Link ε :=
  ⟨fun later s => s.jobs <+: later.jobs, fun h h' => h'.trans h, Follows.jobs⟩

end Link

/-- A computation that leaves a context linked to the one where it starts, whether it returns a
    value or throws. -/
def Keeps (link : Link ε) (x : ScriptM ε α) : Prop :=
  ∀ s : Script ε, link.holds (s.after x) s

namespace Keeps

variable {link : Link ε}

@[grind ←]
protected theorem pure (a : α) : Keeps link (pure a : ScriptM ε α) := fun _ =>
  link.of_follows .refl

@[grind ←]
protected theorem throw (e : Thrown) : Keeps link (throw e : ScriptM ε α) := fun _ =>
  link.of_follows .refl

@[grind ←]
protected theorem get : Keeps link (get : ScriptM ε (Script ε)) := fun _ => link.of_follows .refl

@[grind ←]
protected theorem log (e : Event) : Keeps link (log e : ScriptM ε Unit) := fun _ =>
  link.of_follows .refl

protected theorem modify {f : Script ε → Script ε} (h : ∀ s, (f s).Follows s) :
    Keeps link (modify f : ScriptM ε Unit) := fun s => link.of_follows (h s)

@[grind ←]
protected theorem bind {x : ScriptM ε α} {f : α → ScriptM ε β} (hx : Keeps link x)
    (hf : ∀ a, Keeps link (f a)) : Keeps link (x >>= f) := by
  intro s
  cases hanswer : s.answer x with
  | error e =>
    rw [after_bind_of_error hanswer]
    exact hx s
  | ok a =>
    rw [after_bind_of_ok hanswer]
    exact link.trans (hf a (s.after x)) (hx s)

@[grind ←]
protected theorem tryCatch {x : ScriptM ε α} {handle : Thrown → ScriptM ε α} (hx : Keeps link x)
    (hhandle : ∀ e, Keeps link (handle e)) : Keeps link (tryCatch x handle) := by
  intro s
  rw [after, value_tryCatch]
  cases s.answer x with
  | ok a => exact hx s
  | error e => exact link.trans (hhandle e (s.after x)) (hx s)

/-- Work on the bridge, if it sustains every bridge. -/
protected theorem withBridge {code : BridgeM ε α}
    (hcode : ∀ b : Bridge ε, (b.after code).Sustains b) : Keeps link (withBridge code) := by
  intro s
  cases hbusy : s.busy with
  | true =>
    rw [after, withBridge_of_busy code hbusy]
    exact link.of_follows .refl
  | false =>
    rw [after, withBridge_of_free code hbusy]
    exact link.of_follows ⟨⟨hcode s.bridge, rfl, rfl⟩, List.prefix_rfl⟩

@[grind ←]
protected theorem mapM {f : α → ScriptM ε β} (hf : ∀ a, Keeps link (f a)) (l : List α) :
    Keeps link (l.mapM f) := by
  induction l with
  | nil => exact .pure []
  | cons a l ih =>
    rw [List.mapM_cons]
    exact .bind (hf a) fun _ => .bind ih fun _ => .pure _

/-- A loop over a list. -/
@[grind ←]
protected theorem forIn {l : List α} {init : β} {f : α → β → ScriptM ε (ForInStep β)}
    (hf : ∀ a b, Keeps link (f a b)) : Keeps link (forIn l init f) := by
  induction l generalizing init with
  | nil => exact .pure init
  | cons a l ih =>
    rw [List.forIn_cons]
    refine .bind (hf a init) fun step => ?_
    cases step with
    | done b => exact .pure b
    | yield b => exact ih

end Keeps

end Script

end HostBridge
