import HostBridge.Proofs.CodecOverride
import HostBridge.Proofs.Budget
import HostBridge.Proofs.Keeping
import HostBridge.Proofs.Reentry

/-!
# Life of a bridge

A *run* is what a host does with a bridge: public operations and requests of its own, one after
the other. Along every run from a new bridge at most one initializer works, whichever operation
it is that gets the bridge ready first. What the initializer itself does is a run as well, from
a bridge that is initializing, and no initializer is entered in it.

## Main definitions

- `Bridge.Run` — a run, and how many initializers it runs
- `Bridge.Lifecycle` — what holds on a bridge between two uses by the host
- `Bridge.lifecycle_run` — it holds along every run from a new bridge
-/

namespace HostBridge

variable {ε : Type} [Embedding ε]

/-- How far along a phase is. -/
def Phase.rank : Phase → Nat
  | uninitialized => 0
  | initializing => 1
  | ready => 2

namespace Bridge

variable {a b d : Bridge ε} {n m : Nat}

-- ════════════════════════════════════════════════════════════════════════
-- What every change keeps
-- ════════════════════════════════════════════════════════════════════════

/-- Existing codecs stay exactly while an initializer runs. -/
def GuardedCodecs (b : Bridge ε) : Prop :=
  b.codecs.keepExisting = decide (b.phase = .initializing)

theorem guardedCodecs_apply (change : Change ε) (hpossible : change.Possible b)
    (h : b.GuardedCodecs) : (change.apply b).GuardedCodecs := by
  unfold GuardedCodecs
  rw [codecs_apply, phase_apply]
  cases change with
  | register r => exact (Registration.keepExisting_codecsAfter r).trans h
  | begin | finish => rfl
  | skip =>
    have hphase : b.phase = .uninitialized := hpossible
    exact h.trans (by rw [hphase]; rfl)
  | number | lend | release | releaseAll | work | clear | setInitializer => exact h

theorem Reachable.guardedCodecs (h : b.Reachable) : b.GuardedCodecs := by
  refine h.invariant (I := GuardedCodecs) ?_ fun _ c hpossible hd =>
    guardedCodecs_apply c hpossible hd
  intro a hnew
  rw [GuardedCodecs, hnew.tables_eq.2.1, hnew.tables_eq.2.2]
  rfl

/-- No change takes a phase back. -/
theorem rank_phase_apply (change : Change ε) (hpossible : change.Possible b) :
    b.phase.rank ≤ (change.apply b).phase.rank := by
  rw [phase_apply]
  cases change with
  | begin =>
    have hphase : b.phase = .uninitialized := hpossible
    rw [hphase]
    exact Nat.zero_le _
  | finish replies =>
    have hphase : b.phase = .initializing := hpossible
    rw [hphase]
    exact Nat.le_succ 1
  | skip =>
    have hphase : b.phase = .uninitialized := hpossible
    rw [hphase]
    exact Nat.zero_le _
  | register | number | lend | release | releaseAll | work | clear | setInitializer =>
    exact Nat.le_refl _

theorem Changes.rank_phase_le {P : Change ε → Prop} (h : Changes P a b) :
    a.phase.rank ≤ b.phase.rank :=
  h.invariant (I := fun d => a.phase.rank ≤ d.phase.rank) (Nat.le_refl _)
    fun _ c _ hpossible hd => Nat.le_trans hd (rank_phase_apply c hpossible)

theorem Changes.guarded {P : Change ε → Prop} (h : Changes P a b) (ha : a.Guarded)
    (hcodecs : a.GuardedCodecs) : b.Guarded ∧ b.GuardedCodecs :=
  h.invariant (I := fun d => d.Guarded ∧ d.GuardedCodecs) ⟨ha, hcodecs⟩
    fun _ c _ hpossible hd =>
      ⟨guarded_apply c hpossible hd.1, guardedCodecs_apply c hpossible hd.2⟩

-- ════════════════════════════════════════════════════════════════════════
-- Runs
-- ════════════════════════════════════════════════════════════════════════

/-- One bridge comes from another by what a host does with it, and so many initializers have
    run meanwhile. -/
inductive Run (a : Bridge ε) : Nat → Bridge ε → Prop where
  | refl : Run a 0 a
  /-- A public operation, while calls under way keep hold of some objects. -/
  | performed {n : Nat} {b : Bridge ε} (before : Run a n b) (kept : List ObjectRef)
      (c : Command ε) :
      Run a (n + b.installs (performWith ensureReady kept c))
        (b.after (performWith ensureReady kept c))
  /-- A call, which may be a request of the host. -/
  | called {n : Nat} {b : Bridge ε} (before : Run a n b) (e : Entry ε) :
      Run a (n + b.installs (e.call ensureReady)) (b.after (e.call ensureReady))
  /-- The host has worked on its own state. -/
  | worked {n : Nat} {b : Bridge ε} (before : Run a n b) (host : Host ε) : Run a n { b with host }

theorem within_entry (e : Entry ε) : b.Within Phase.due (e.call ensureReady) := by
  cases e with
  | request q => exact within_dispatch (within_ensureReady b _) q
  | callee c args => exact within_call (within_ensureReady b) args c

/-- The phase after a call is that of a bridge that has got ready, or as it was. -/
theorem phase_entry_cases (b : Bridge ε) (e : Entry ε) :
    (b.after (e.call ensureReady)).phase = b.phase.prepared ∨
      (b.after (e.call ensureReady)).phase = b.phase := by
  by_cases hstale : e.Stale b
  · exact Or.inr (by rw [after_call_of_stale ensureReady hstale])
  · exact Or.inl (phase_call (phase_ensureReady b) hstale)

theorem phase_performWith_cases (b : Bridge ε) (kept : List ObjectRef) (c : Command ε) :
    (b.after (performWith ensureReady kept c)).phase = b.phase.prepared ∨
      (b.after (performWith ensureReady kept c)).phase = b.phase := by
  by_cases hready : c.GetsReady b
  · exact Or.inl (phase_performWith_of_getsReady hready kept)
  · exact Or.inr (phase_performWith_of_not_getsReady hready kept)

namespace Run

/-- A run does not run more initializers than are still to run. -/
theorem installs_add_due_le (h : Run a n b) : n + b.phase.due ≤ a.phase.due := by
  induction h with
  | refl => exact Nat.le_of_eq (Nat.zero_add _)
  | @performed n b _ kept c ih =>
    have hstep : b.installs (performWith ensureReady kept c) +
        (b.after (performWith ensureReady kept c)).phase.due ≤ b.phase.due :=
      within_performWith (fun kept d _ => within_ensureReady d kept) kept
    omega
  | @called n b _ e ih =>
    have hstep : b.installs (e.call ensureReady) + (b.after (e.call ensureReady)).phase.due ≤
        b.phase.due := within_entry e
    omega
  | worked _ host ih => exact ih

/-- What getting ready does not change about a phase stays along a run. -/
theorem phase_invariant {I : Phase → Prop} (h : Run a n b) (ha : I a.phase)
    (hprepared : ∀ phase, I phase → I phase.prepared) : I b.phase := by
  induction h with
  | refl => exact ha
  | @performed n b _ kept c ih =>
    rcases phase_performWith_cases b kept c with hphase | hphase
    · rw [hphase]
      exact hprepared _ ih
    · rw [hphase]
      exact ih
  | @called n b _ e ih =>
    rcases phase_entry_cases b e with hphase | hphase
    · rw [hphase]
      exact hprepared _ ih
    · rw [hphase]
      exact ih
  | worked _ host ih => exact ih

theorem changes (h : Run a n b) : Changes (fun _ => True) a b := by
  induction h with
  | refl => exact .refl
  | @performed n b _ kept c ih =>
    exact ih.trans (changes_performWith b (fun kept d _ => changes_ensureReady d kept)
      (fun _ _ => trivial) kept)
  | @called n b _ e ih =>
    exact ih.trans (changes_call b (fun _ => trivial) (fun _ _ => trivial)
      (fun kept => changes_ensureReady b kept) e)
  | worked _ host ih => exact ih.snoc (c := .work host) trivial trivial

/-- Along a run from a settled bridge the phase stays and no initializer runs. -/
theorem of_settled (h : Run a n b) (hs : a.Settled) : n = 0 ∧ b.phase = a.phase := by
  have hinstalls : n + b.phase.due ≤ 0 := hs.due_eq_zero ▸ h.installs_add_due_le
  refine ⟨by omega, h.phase_invariant (I := fun phase => phase = a.phase) rfl ?_⟩
  rintro phase rfl
  exact hs.prepared_eq

theorem settled (h : Run a n b) (hs : a.Settled) : b.Settled :=
  hs.of_phase_eq (h.of_settled hs).2

/-- On a run that nothing can initialize any more, operations do what they would do if getting
    ready did nothing. -/
theorem snoc_of_settled (h : Run a 0 b) (hs : a.Settled) (kept : List ObjectRef) (c : Command ε) :
    Run a 0 (b.after (performWith (fun _ => pure ()) kept c)) := by
  have hnext := h.performed kept c
  rw [(hnext.of_settled hs).1, after_performWith_of_settled (h.settled hs)] at hnext
  exact hnext

end Run

/-- The operations of a list, one after the other, are a run of a settled bridge. -/
theorem run_performAllWith (hs : a.Settled) (h : Run a 0 b) (kept : List ObjectRef)
    (cs : List (Command ε)) : Run a 0 (b.after (performAllWith (fun _ => pure ()) kept cs)) := by
  induction cs generalizing b with
  | nil => exact h
  | cons c cs ih => exact ih (h.snoc_of_settled hs kept c)

-- ════════════════════════════════════════════════════════════════════════
-- The life
-- ════════════════════════════════════════════════════════════════════════

/-- What holds on a bridge between two uses by the host, when so many initializers have run. -/
structure Lifecycle (n : Nat) (b : Bridge ε) : Prop where
  /-- At most one initializer has run, and none before the bridge is initialized. -/
  once : n ≤ 1
  fresh : b.phase = .uninitialized → n = 0
  /-- No initializer is at work, and existing entries do not stay. -/
  phase_ne : b.phase ≠ .initializing
  registry_free : b.registry.keepExisting = false
  codecs_free : b.codecs.keepExisting = false
  /-- To get ready runs the initializer of a bridge that is not initialized, and no other. -/
  entered : ∀ kept, b.installs (ensureReady kept) =
    if b.phase = .uninitialized ∧ b.initializer.isSome then 1 else 0
  /-- Without an initializer only the phase changes, and on a bridge that is ready nothing. -/
  unset : ∀ kept, b.phase = .uninitialized → b.initializer = none →
    b.after (ensureReady kept) = { b with phase := .ready }
  done : b.phase = .ready → ∀ kept, ensureReady kept b = (pure () : BridgeM ε Unit) b
  /-- To run the initializer is to perform its operations once, in their order, on a bridge from
      which it has been taken. That is a run. The replies are all that is added to what it
      leaves. -/
  installed : ∀ i kept, b.phase = .uninitialized → b.initializer = some i →
    let d := b.begun.after (performAllWith (fun _ => pure ()) kept i.commands)
    b.begun.initializer = none ∧ Run b.begun 0 d ∧ ∃ replies,
      b.after (ensureReady kept) = { d.finished with replies := d.replies ++ replies }
  /-- Its operations may get the bridge ready as those of the host do: what they answer, leave and
      log is what it would be if they could not. -/
  reentrant : ∀ kept cs, performAllWith ensureReady kept cs b.begun =
    performAllWith (fun _ => pure ()) kept cs b.begun
  /-- Whatever is done while it is at work, existing entries stay, and neither this initializer
      nor another is entered: to get the bridge ready does nothing. -/
  nested : ∀ {m d}, Run b.begun m d → m = 0 ∧ d.phase = .initializing ∧
    d.registry.keepExisting = true ∧ d.codecs.keepExisting = true ∧
    ∀ kept, ensureReady kept d = (pure () : BridgeM ε Unit) d
  /-- A call, hit or miss, leaves a bridge that is ready, unless it needs a handle that is not
      live. -/
  called : ∀ e : Entry ε, ¬e.Stale b → (b.after (e.call ensureReady)).phase = .ready
  /-- So does a question for a number, whatever the answer. -/
  asked : ∀ kept c, c.GetsReady b → (b.after (performWith ensureReady kept c)).phase = .ready
  /-- Every other operation leaves the phase as it is. -/
  idle : ∀ kept c, ¬c.GetsReady b → (b.after (performWith ensureReady kept c)).phase = b.phase
  /-- A bridge that is ready stays so, and no further initializer runs. -/
  stays : b.phase = .ready → ∀ {m d}, Run b m d → m = 0 ∧ d.phase = .ready
  /-- Also at every moment within an operation, phases only move on. -/
  forward : ∀ {c d : Bridge ε}, History (fun _ => True) b c → History (fun _ => True) c d →
    c.phase.rank ≤ d.phase.rank

/-- What the initializer may do while it works. -/
theorem nested_run (h : Run b.begun m d) : m = 0 ∧ d.phase = .initializing ∧
    d.registry.keepExisting = true ∧ d.codecs.keepExisting = true ∧
    ∀ kept, ensureReady kept d = (pure () : BridgeM ε Unit) d := by
  have hs : b.begun.Settled := Phase.noConfusion
  obtain ⟨hinstalls, hphase⟩ := h.of_settled hs
  have hinitializing : d.phase = .initializing := hphase
  obtain ⟨hregistry, hcodecs⟩ := h.changes.guarded (a := b.begun) rfl rfl
  exact ⟨hinstalls, hinitializing, hregistry.trans (decide_eq_true hinitializing),
    hcodecs.trans (decide_eq_true hinitializing), ensureReady_of_settled (h.settled hs)⟩

/-- Every run of a new bridge, whatever its initializers do, has the life of a bridge. -/
theorem lifecycle_run (ha : a.IsNew) (h : Run a n b) : Lifecycle n b := by
  obtain ⟨hregistry, hcodecs, hphase⟩ := ha.tables_eq
  have hdue : n + b.phase.due ≤ 1 := by
    have hle := h.installs_add_due_le
    rwa [hphase] at hle
  have hne : b.phase ≠ .initializing := by
    refine h.phase_invariant (I := fun phase => phase ≠ .initializing) ?_ ?_
    · rw [hphase]
      exact Phase.noConfusion
    · intro phase hne
      cases phase with
      | initializing => exact absurd rfl hne
      | uninitialized | ready => exact Phase.noConfusion
  have hprepared : b.phase.prepared = .ready := by
    revert hne
    cases b.phase <;> simp [Phase.prepared]
  obtain ⟨hguarded, hguardedCodecs⟩ := h.changes.guarded
    (by rw [Guarded, hregistry, hphase]; rfl) (by rw [GuardedCodecs, hcodecs, hphase]; rfl)
  have hsettled (hready : b.phase = .ready) : b.Settled := by
    unfold Settled
    rw [hready]
    exact Phase.noConfusion
  refine
    { once := by omega
      fresh := fun hfresh => by
        rw [hfresh] at hdue
        exact Nat.le_zero.mp (Nat.le_of_add_le_add_right hdue)
      phase_ne := hne
      registry_free := hguarded.trans (decide_eq_false hne)
      codecs_free := hguardedCodecs.trans (decide_eq_false hne)
      entered := installs_ensureReady b
      unset := fun kept hfresh hnone => after_ensureReady_of_none hfresh hnone kept
      done := fun hready => ensureReady_of_settled (hsettled hready)
      installed := fun i kept hfresh hinit => ?_
      reentrant := performAllWith_of_settled (b := b.begun) Phase.noConfusion
      nested := fun hrun => nested_run hrun
      called := fun e hlive => (phase_call (phase_ensureReady b) hlive).trans hprepared
      asked := fun kept c hready => (phase_performWith_of_getsReady hready kept).trans hprepared
      idle := fun kept c hidle => phase_performWith_of_not_getsReady hidle kept
      stays := fun hready m d hrun => ?_
      forward := fun _ hcd => hcd.changes.rank_phase_le }
  · have hbegun : b.begun.Settled := Phase.noConfusion
    obtain ⟨replies, hinstall⟩ := exists_replies_after_install b.begun kept i
    refine ⟨rfl, run_performAllWith hbegun .refl kept i.commands, replies, ?_⟩
    rw [after_ensureReady_of_some hfresh hinit, hinstall]
    rfl
  · rw [← hready]
    exact hrun.of_settled (hsettled hready)

/-- An initializer registers, makes a call, gets the bridge ready and sets another initializer. A
    call that misses runs it. After that the bridge is ready, with existing entries free to give
    way, and the other initializer never runs. -/
theorem lifecycle_run_reentering :
    let size : Registration Playground :=
      .onNamespace "Tools" "size" (.getter (return Playground.int32 3))
    let cs : List (Command Playground) :=
      [.register size, .call (.static "Tools" "size" .get) [], .ensureReady,
        .setInitializer [.register size]]
    let a : Bridge Playground := new {} Playground.quietHost
    let asked : Bridge Playground := a.after (performWith ensureReady [] (.setInitializer cs))
    let miss : Command Playground := .call (.static "Tools" "weight" .get) []
    let b : Bridge Playground := asked.after (performWith ensureReady [] miss)
    a.IsNew ∧ Run a 1 b ∧ Lifecycle 1 b ∧ b.phase = .ready ∧ b.registry.keepExisting = false ∧
      b.initializer.isSome = true ∧ b.installs (ensureReady []) = 0 := by
  intro size cs a asked miss b
  have ha : a.IsNew := ⟨_, _, Or.inl rfl⟩
  have hcount : 0 + a.installs (performWith ensureReady [] (.setInitializer cs)) +
      asked.installs (performWith ensureReady [] miss) = 1 := by
    decide +kernel
  have hrun : Run a 1 b := by
    rw [← hcount]
    exact (Run.refl.performed [] (.setInitializer cs)).performed [] miss
  have hlife : Lifecycle 1 b := lifecycle_run ha hrun
  have hready : b.phase = .ready := by decide +kernel
  refine ⟨ha, hrun, hlife, hready, hlife.registry_free, by decide +kernel, ?_⟩
  rw [hlife.entered, hready]
  exact if_neg fun h => Phase.noConfusion h.1

end Bridge

end HostBridge
