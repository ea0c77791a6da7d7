import HostBridge.Script.JobQueue

/-!
# Draining a queue of jobs

A tick runs jobs from the front of the queue and stops at the limit, at an empty queue or at the
first job that throws. Jobs may queue others while it runs, so the queue may grow as fast as it is
drained; with a limit a tick ends nevertheless, and without one it goes on only as long as there
are jobs. Whatever jobs do, those that were pending and those that were queued meanwhile are, in
this order, those that ran and those that are pending still. So no job is lost, repeated or
overtaken, in a tick or over a series of ticks.

## Main definitions

- `JobEngine.Runs` — jobs run one after another, each from the front of the queue
- `JobEngine.Ticks` — a tick by its end: the jobs that ran, the jobs queued meanwhile, the answer
- `JobEngine.Series` — a series of ticks, between which the host may do whatever queues jobs
- `JobEngine.mem_tick_iff`, `JobEngine.Series.conserves` — ticks, and what they keep
-/

namespace HostBridge

variable {σ J T : Type}

/-- A job that ran, and what came of it. -/
structure Ran (σ J T : Type) where
  job : J
  turn : Turn σ J (Option T)

namespace Ran

/-- The job threw nothing. -/
def Returned (r : Ran σ J T) : Prop :=
  r.turn.value = none

/-- The jobs that some jobs queued, in the order in which they ran. -/
def queued (ran : List (Ran σ J T)) : List J :=
  ran.flatMap (·.turn.queued)

end Ran

namespace JobEngine

-- ════════════════════════════════════════════════════════════════════════
-- Jobs from the front of the queue
-- ════════════════════════════════════════════════════════════════════════

/-- Jobs run one after another, each from the front of the queue that the one before left. -/
inductive Runs (engine : JobEngine σ J T) :
    JobQueue σ J → List (Ran σ J T) → JobQueue σ J → Prop where
  | nil (q : JobQueue σ J) : Runs engine q [] q
  | cons {q : JobQueue σ J} {job : J} {behind : List J} {ran : List (Ran σ J T)}
      {q' : JobQueue σ J} (hpending : q.pending = job :: behind) :
      Runs engine ((engine.run ⟨q.state, behind⟩ job).queue behind) ran q' →
      Runs engine q (⟨job, engine.run ⟨q.state, behind⟩ job⟩ :: ran) q'

variable {engine : JobEngine σ J T} {limit : Option Nat} {n m : Nat} {q q' : JobQueue σ J}
  {ran : List (Ran σ J T)} {last : Ran σ J T} {added : List J} {answer : Except ScriptError Nat}
  {state : σ} {job : J} {behind : List J}

namespace Runs

/-- The jobs that were pending, followed by those that were queued meanwhile, are those that ran,
    followed by those that are pending still. -/
theorem conserves (h : engine.Runs q ran q') :
    q.pending ++ Ran.queued ran = ran.map (·.job) ++ q'.pending := by
  induction h with
  | nil q => simp [Ran.queued]
  | cons hpending _ ih => simpa [hpending, Ran.queued, Turn.queue] using ih

/-- Before the last job there was a queue with this job at its front. -/
theorem exists_last (h : engine.Runs q (ran ++ [last]) q') :
    ∃ before behind, engine.Runs q ran before ∧ before.pending = last.job :: behind ∧
      last.turn = engine.run ⟨before.state, behind⟩ last.job ∧ q' = last.turn.queue behind := by
  induction ran generalizing q with
  | nil =>
    rw [List.nil_append] at h
    cases h with
    | cons hpending hrest =>
      cases hrest
      exact ⟨q, _, .nil q, hpending, rfl, rfl⟩
  | cons r ran ih =>
    cases h with
    | cons hpending hrest =>
      obtain ⟨before, behind, hruns, hlast⟩ := ih hrest
      exact ⟨before, behind, .cons hpending hruns, hlast⟩

end Runs

-- ════════════════════════════════════════════════════════════════════════
-- Ticks by their ends
-- ════════════════════════════════════════════════════════════════════════

/-- A tick in which `n` jobs have run goes on with some jobs, until the limit is reached, no job is
    left or one throws. Besides the jobs that run and those that are queued until the tick ends,
    this relates its answer and the queue that it leaves. -/
inductive Ticks (engine : JobEngine σ J T) (limit : Option Nat) (n : Nat) (q : JobQueue σ J) :
    List (Ran σ J T) → List J → Except ScriptError Nat → JobQueue σ J → Prop where
  /-- No job throws, and the tick stops where the limit is reached or no job is left. -/
  | stops {ran : List (Ran σ J T)} {q' : JobQueue σ J} (hruns : engine.Runs q ran q')
      (hreturned : ∀ r ∈ ran, r.Returned) (hlimit : ∀ max ∈ limit, n + ran.length ≤ max)
      (hstop : limit = some (n + ran.length) ∨ q'.pending = []) :
      Ticks engine limit n q ran (Ran.queued ran) (.ok (n + ran.length)) q'
  /-- The last job throws, and the tick stops there. To tell what it threw may queue jobs. -/
  | fails {ran : List (Ran σ J T)} {last : Ran σ J T} {thrown : T} {q' : JobQueue σ J}
      (hruns : engine.Runs q (ran ++ [last]) q') (hreturned : ∀ r ∈ ran, r.Returned)
      (hthrown : last.turn.value = some thrown)
      (hlimit : ∀ max ∈ limit, n + (ran ++ [last]).length ≤ max) :
      Ticks engine limit n q (ran ++ [last])
        (Ran.queued (ran ++ [last]) ++ (engine.describe q' thrown).queued)
        (.error (.job (engine.describe q' thrown).value))
        ((engine.describe q' thrown).queue q'.pending)

namespace Ticks

theorem conserves (h : engine.Ticks limit n q ran added answer q') :
    q.pending ++ added = ran.map (·.job) ++ q'.pending := by
  cases h with
  | stops hruns _ _ _ => exact hruns.conserves
  | fails hruns _ _ _ =>
    rw [← List.append_assoc, hruns.conserves, Turn.queue, List.append_assoc]

/-- A tick never runs more jobs than the limit. -/
theorem length_le (h : engine.Ticks limit n q ran added answer q') :
    ∀ max ∈ limit, n + ran.length ≤ max := by
  cases h with
  | stops _ _ hlimit _ => exact hlimit
  | fails _ _ _ hlimit => exact hlimit

/-- The jobs behind one that throws are pending when the tick ends, before all that it queued. -/
theorem behind_of_error {e : ScriptError}
    (h : engine.Ticks limit n q ran added (.error e) q') :
    ∃ done last behind, ran = done ++ [last] ∧
      q.pending ++ Ran.queued done = done.map (·.job) ++ last.job :: behind ∧
      behind <+: q'.pending := by
  generalize hanswer : Except.error e = answer at h
  cases h with
  | stops => nomatch hanswer
  | @fails done last thrown left hruns _ _ _ =>
    obtain ⟨before, behind, hdone, hpending, -, rfl⟩ := hruns.exists_last
    refine ⟨done, last, behind, rfl, hpending ▸ hdone.conserves, ?_⟩
    rw [Turn.queue, Turn.queue, List.append_assoc]
    exact List.prefix_append _ _

/-- A tick whose first job returns goes on as a tick in which one more job has run. -/
theorem cons (hpending : q.pending = job :: behind)
    (hvalue : (engine.run ⟨q.state, behind⟩ job).value = none)
    (h : engine.Ticks limit (n + 1) ((engine.run ⟨q.state, behind⟩ job).queue behind) ran added
      answer q') :
    engine.Ticks limit n q (⟨job, engine.run ⟨q.state, behind⟩ job⟩ :: ran)
      ((engine.run ⟨q.state, behind⟩ job).queued ++ added) answer q' := by
  have hlength (l : List (Ran σ J T)) : n + 1 + l.length = n + (l.length + 1) := by omega
  have hfirst : (Ran.mk job (engine.run ⟨q.state, behind⟩ job)).Returned := hvalue
  cases h with
  | stops hruns hreturned hlimit hstop =>
    rw [hlength] at hlimit hstop ⊢
    exact .stops (.cons hpending hruns) (List.forall_mem_cons.mpr ⟨hfirst, hreturned⟩) hlimit hstop
  | fails hruns hreturned hthrown hlimit =>
    rw [hlength] at hlimit
    rw [← List.append_assoc]
    exact .fails (.cons hpending hruns) (List.forall_mem_cons.mpr ⟨hfirst, hreturned⟩) hthrown
      hlimit

end Ticks

-- ════════════════════════════════════════════════════════════════════════
-- One request after another
-- ════════════════════════════════════════════════════════════════════════

theorem any_le_eq_true_iff : limit.any (· ≤ n) = true ↔ ∃ max ∈ limit, max ≤ n := by
  simp [Option.any_eq_true]

theorem any_le_eq_false (h : ∀ max ∈ limit, n < max) : ¬limit.any (· ≤ n) = true := by
  rw [any_le_eq_true_iff]
  rintro ⟨max, hmax, hle⟩
  exact Nat.not_lt.mpr hle (h max hmax)

theorem tick_of_inl {stop : Except ScriptError Nat × JobQueue σ J}
    (h : engine.round limit (n, q) = .inl stop) : engine.tick limit n q = Part.some stop :=
  Part.eq_some_iff.mpr (PFun.fix_stop (Part.mem_some_iff.mpr h.symm))

theorem tick_of_inr (h : engine.round limit (n, q) = .inr (m, q')) :
    engine.tick limit n q = engine.tick limit m q' :=
  PFun.fix_fwd_eq (Part.mem_some_iff.mpr h.symm)

theorem tick_of_reached (h : limit.any (· ≤ n) = true) :
    engine.tick limit n q = Part.some (.ok n, q) :=
  tick_of_inl (if_pos h)

theorem tick_of_idle (h : q.pending = []) : engine.tick limit n q = Part.some (.ok n, q) := by
  refine tick_of_inl ?_
  rw [round, request, h]
  split <;> rfl

theorem round_of_returned (hlimit : ¬limit.any (· ≤ n) = true)
    (hpending : q.pending = job :: behind)
    (hvalue : (engine.run ⟨q.state, behind⟩ job).value = none) :
    engine.round limit (n, q) =
      .inr (n + 1, (engine.run ⟨q.state, behind⟩ job).queue behind) := by
  rw [round, if_neg hlimit, request, hpending]
  simp only [hvalue]

theorem tick_of_returned (hlimit : ¬limit.any (· ≤ n) = true)
    (hpending : q.pending = job :: behind)
    (hvalue : (engine.run ⟨q.state, behind⟩ job).value = none) :
    engine.tick limit n q =
      engine.tick limit (n + 1) ((engine.run ⟨q.state, behind⟩ job).queue behind) :=
  tick_of_inr (round_of_returned hlimit hpending hvalue)

theorem tick_of_thrown {thrown : T} (hlimit : ¬limit.any (· ≤ n) = true)
    (hpending : q.pending = job :: behind)
    (hvalue : (engine.run ⟨q.state, behind⟩ job).value = some thrown) :
    engine.tick limit n q =
      let left := (engine.run ⟨q.state, behind⟩ job).queue behind
      let told := engine.describe left thrown
      Part.some (.error (.job told.value), told.queue left.pending) := by
  refine tick_of_inl ?_
  rw [round, if_neg hlimit, request, hpending]
  simp only [hvalue]

/-- Jobs that return run as long as the limit is not reached. -/
theorem tick_of_runs (hruns : engine.Runs q ran q') (hreturned : ∀ r ∈ ran, r.Returned)
    (hlimit : ∀ max ∈ limit, n + ran.length ≤ max) :
    engine.tick limit n q = engine.tick limit (n + ran.length) q' := by
  induction hruns generalizing n with
  | nil => rfl
  | cons hpending _ ih =>
    rw [List.forall_mem_cons] at hreturned
    rw [List.length_cons] at hlimit ⊢
    have hroom : ¬limit.any (· ≤ n) = true :=
      any_le_eq_false fun max hmax => by have := hlimit max hmax; omega
    rw [tick_of_returned hroom hpending hreturned.1,
      ih hreturned.2 fun max hmax => by have := hlimit max hmax; omega, Nat.add_assoc,
      Nat.add_comm 1]

/-- What ends a tick is found by the requests. -/
theorem Ticks.tick_eq (h : engine.Ticks limit n q ran added answer q') :
    engine.tick limit n q = Part.some (answer, q') := by
  cases h with
  | stops hruns hreturned hlimit hstop =>
    rw [tick_of_runs hruns hreturned hlimit]
    rcases hstop with rfl | hidle
    · exact tick_of_reached (by simp)
    · exact tick_of_idle hidle
  | @fails done last thrown left hruns hreturned hthrown hlimit =>
    obtain ⟨before, behind, hdone, hpending, hturn, rfl⟩ := hruns.exists_last
    have hroom : ∀ max ∈ limit, n + done.length < max := fun max hmax => by
      have := hlimit max hmax
      rw [List.length_append, List.length_singleton] at this
      omega
    rw [tick_of_runs hdone hreturned fun max hmax => Nat.le_of_lt (hroom max hmax)]
    rw [hturn] at hthrown ⊢
    exact tick_of_thrown (any_le_eq_false hroom) hpending hthrown

/-- What requests find is an end of the tick. -/
theorem exists_ticks (h : (answer, q') ∈ engine.tick limit n q) (hlimit : ∀ max ∈ limit, n ≤ max) :
    ∃ ran added, engine.Ticks limit n q ran added answer q' := by
  -- The induction is on the rounds that the tick goes on.
  refine PFun.fixInduction (C := fun progress => (∀ max ∈ limit, progress.1 ≤ max) →
    ∃ ran added, engine.Ticks limit progress.1 progress.2 ran added answer q') h ?_ hlimit
  rintro ⟨n, q⟩ (hticks : (answer, q') ∈ engine.tick limit n q) ih hlimit
  dsimp only at hlimit ⊢
  by_cases hreached : limit.any (· ≤ n) = true
  · rw [tick_of_reached hreached] at hticks
    cases Part.mem_some_iff.mp hticks
    obtain ⟨max, hmax, hle⟩ := any_le_eq_true_iff.mp hreached
    have hfull : max = n := Nat.le_antisymm hle (hlimit max hmax)
    exact ⟨[], [], .stops (.nil _) nofun hlimit (.inl (hfull ▸ hmax))⟩
  have hroom : ∀ max ∈ limit, n < max := fun max hmax =>
    Nat.not_le.mp fun hle => hreached (any_le_eq_true_iff.mpr ⟨max, hmax, hle⟩)
  cases hpending : q.pending with
  | nil =>
    rw [tick_of_idle hpending] at hticks
    cases Part.mem_some_iff.mp hticks
    exact ⟨[], [], .stops (.nil _) nofun hlimit (.inr hpending)⟩
  | cons job behind =>
    cases hvalue : (engine.run ⟨q.state, behind⟩ job).value with
    | none =>
      have hround := round_of_returned hreached hpending hvalue
      obtain ⟨ran, added, hlater⟩ := ih _ (Part.mem_some_iff.mpr hround.symm) hroom
      exact ⟨_, _, hlater.cons hpending hvalue⟩
    | some thrown =>
      rw [tick_of_thrown hreached hpending hvalue] at hticks
      cases Part.mem_some_iff.mp hticks
      exact ⟨[] ++ [_], _, .fails (.cons hpending (.nil _)) nofun hvalue hroom⟩

/-- A tick is what its end says. -/
theorem mem_tick_iff : (answer, q') ∈ engine.tick limit 0 q ↔
    ∃ ran added, engine.Ticks limit 0 q ran added answer q' :=
  ⟨fun h => exists_ticks h fun _ _ => Nat.zero_le _,
    fun ⟨_, _, h⟩ => Part.eq_some_iff.mp h.tick_eq⟩

-- ════════════════════════════════════════════════════════════════════════
-- Ticks that never end
-- ════════════════════════════════════════════════════════════════════════

/-- While a tick does not end, there is a job, and it returns. -/
theorem exists_runs_of_not_dom (h : ¬(engine.tick limit n q).Dom) (k : Nat) :
    ∃ ran q', engine.Runs q ran q' ∧ ran.length = k ∧ (∀ r ∈ ran, r.Returned) ∧
      ¬(engine.tick limit (n + k) q').Dom := by
  induction k generalizing n q with
  | zero => exact ⟨[], q, .nil q, rfl, nofun, h⟩
  | succ k ih =>
    have hroom : ¬limit.any (· ≤ n) = true := fun hreached => by
      rw [tick_of_reached hreached] at h
      exact h trivial
    cases hpending : q.pending with
    | nil =>
      rw [tick_of_idle hpending] at h
      exact absurd trivial h
    | cons job behind =>
      cases hvalue : (engine.run ⟨q.state, behind⟩ job).value with
      | some thrown =>
        rw [tick_of_thrown hroom hpending hvalue] at h
        exact absurd trivial h
      | none =>
        rw [tick_of_returned hroom hpending hvalue] at h
        obtain ⟨ran, q', hruns, hlength, hreturned, hlater⟩ := ih h
        rw [Nat.add_assoc, Nat.add_comm 1] at hlater
        exact ⟨_, q', .cons hpending hruns, congrArg (· + 1) hlength,
          List.forall_mem_cons.mpr ⟨hvalue, hreturned⟩, hlater⟩

/-- A tick ends unless there is no limit and the queue never drains. -/
theorem endless_of_not_dom (h : ¬(engine.tick limit 0 q).Dom) :
    limit = none ∧
      ∀ k, ∃ ran q', engine.Runs q ran q' ∧ ran.length = k ∧ ∀ r ∈ ran, r.Returned := by
  constructor
  · cases limit with
    | none => rfl
    | some max =>
      obtain ⟨_, q', _, _, _, hlater⟩ := exists_runs_of_not_dom h max
      rw [tick_of_reached (by simp)] at hlater
      exact absurd trivial hlater
  · intro k
    obtain ⟨ran, q', hruns, hlength, hreturned, -⟩ := exists_runs_of_not_dom h k
    exact ⟨ran, q', hruns, hlength, hreturned⟩

-- ════════════════════════════════════════════════════════════════════════
-- Series of ticks
-- ════════════════════════════════════════════════════════════════════════

/-- A series of ticks: the jobs that ran and those that were queued since it started, and the queue
    that it leaves. Between ticks the host may run code, which may queue jobs. -/
inductive Series (engine : JobEngine σ J T) (limit : Option Nat) (q : JobQueue σ J) :
    List (Ran σ J T) → List J → JobQueue σ J → Prop where
  | start : Series engine limit q [] [] q
  | code {ran : List (Ran σ J T)} {added more : List J} {q' : JobQueue σ J} {state : σ} :
      Series engine limit q ran added q' →
      Series engine limit q ran (added ++ more) ⟨state, q'.pending ++ more⟩
  | tick {ran later : List (Ran σ J T)} {added more : List J} {q' q'' : JobQueue σ J}
      {answer : Except ScriptError Nat} : Series engine limit q ran added q' →
      (answer, q'') ∈ engine.tick limit 0 q' →
      engine.Ticks limit 0 q' later more answer q'' →
      Series engine limit q (ran ++ later) (added ++ more) q''

/-- Over a series of ticks no job is lost, repeated or overtaken. -/
theorem Series.conserves (h : engine.Series limit q ran added q') :
    q.pending ++ added = ran.map (·.job) ++ q'.pending := by
  induction h with
  | start => rw [List.append_nil, List.map_nil, List.nil_append]
  | code _ ih => rw [← List.append_assoc, ih, List.append_assoc]
  | tick _ _ hticks ih =>
    rw [← List.append_assoc, ih, List.append_assoc, hticks.conserves, List.map_append,
      List.append_assoc]

end JobEngine

end HostBridge
