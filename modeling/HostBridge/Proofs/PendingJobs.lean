import HostBridge.Proofs.Draining
import HostBridge.Proofs.ExceptionText

/-!
# Ticks of script contexts

A script context is an engine with pending jobs. What a job throws is told to the host, and to make
the text may run functions of the script; these may queue jobs, but only behind those that are
pending. A tick of a context makes requests to this engine. It always ends, as each job queues
finitely many others here, and what holds of ticks of every engine holds of it.

## Main definitions

- `Session.jobEngine` — script contexts as an engine
- `JobEngine.ticks_drain_in_order` — how ticks drain the queue of any engine, script contexts
  included
-/

namespace HostBridge

namespace Script

variable {ε : Type} [Embedding ε] {α β : Type}

-- ════════════════════════════════════════════════════════════════════════
-- What jobs do
-- ════════════════════════════════════════════════════════════════════════

/-- A computation that leaves the pending jobs as they are. -/
def QueuesNothing (x : ScriptM ε α) : Prop :=
  ∀ s : Script ε, (s.after x).jobs = s.jobs

theorem QueuesNothing.bind {x : ScriptM ε α} {f : α → ScriptM ε β} (hx : QueuesNothing x)
    (hf : ∀ a, QueuesNothing (f a)) : QueuesNothing (x >>= f) := by
  intro s
  cases hanswer : s.answer x with
  | error e => rw [after_bind_of_error hanswer, hx]
  | ok a => rw [after_bind_of_ok hanswer, hf, hx]

theorem queuesNothing_framed {code : ScriptM ε α} (h : QueuesNothing code) :
    QueuesNothing (framed code) := by
  intro s
  rw [framed, after, value_tryCatch]
  cases s.answer code with
  | ok a => exact h s
  | error thrown =>
    refine Eq.trans ?_ (h s)
    dsimp only
    split <;> rfl

theorem queuesNothing_found (l : Lookup) :
    QueuesNothing (found l : ScriptM ε ScriptValue) := by
  cases l <;> exact fun _ => rfl

theorem queuesNothing_readGlobal (name : CodePoints) :
    QueuesNothing (readGlobal name : ScriptM ε ScriptValue) := by
  refine .bind (fun _ => rfl) fun s => ?_
  split
  · exact fun _ => rfl
  · exact queuesNothing_found _

theorem queuesNothing_summandNumber (v : ScriptValue) :
    QueuesNothing (summandNumber v : ScriptM ε ScriptNumber) := by
  cases v <;> exact fun _ => rfl

theorem queuesNothing_assignGlobal (name : CodePoints) (v : ScriptValue) :
    QueuesNothing (assignGlobal name v : ScriptM ε Unit) := by
  refine .bind (fun _ => rfl) fun s => ?_
  split <;> exact fun _ => rfl

/-- What a job does queues nothing: it queues jobs only after that. -/
theorem queuesNothing_runEffect (effect : JobEffect) :
    QueuesNothing (framed (Session.runEffect effect) : ScriptM ε Unit) := by
  refine queuesNothing_framed ?_
  cases effect with
  | see v => exact fun _ => rfl
  | throw v => exact fun _ => rfl
  | increment name =>
    refine .bind ?_ fun _ _ => rfl
    refine .bind (queuesNothing_readGlobal name) fun v => ?_
    refine .bind (queuesNothing_summandNumber v) fun n => ?_
    exact .bind (queuesNothing_assignGlobal name _) fun _ _ => rfl

end Script

namespace Session

open Script

variable {ε : Type} [Embedding ε] (s : Script ε)

-- ════════════════════════════════════════════════════════════════════════
-- Script contexts as an engine
-- ════════════════════════════════════════════════════════════════════════

/-- The text of what a job threw. -/
def thrownText : Thrown → SessionM ε String
  | .exception v => exceptionText v
  | .fault f => pure f.message

/-- The context in which these jobs are pending. -/
def context (q : JobQueue (Script ε) Job) : Script ε :=
  { q.state with jobs := q.pending }

/-- Does what a job does. The jobs that it queues come after that, unless it throws. -/
def runJob (q : JobQueue (Script ε) Job) (job : Job) : Turn (Script ε) Job (Option Thrown) :=
  let code : ScriptM ε Unit := framed (runEffect job.effect)
  match q.state.answer code with
  | .ok () => ⟨none, q.state.after code, job.queues⟩
  | .error thrown => ⟨some thrown, q.state.after code, []⟩

/-- Tells what a job threw. The jobs that are queued on the way are those behind the pending
    ones. -/
def tell (q : JobQueue (Script ε) Job) (thrown : Thrown) : Turn (Script ε) Job String :=
  let left := after (context q) (thrownText thrown)
  ⟨answer (context q) (thrownText thrown), left, left.jobs.drop q.pending.length⟩

/-- Script contexts as an engine. -/
def jobEngine : JobEngine (Script ε) Job Thrown :=
  ⟨runJob, tell⟩

/-- To make the text of what a job threw queues jobs behind the pending ones only. -/
theorem jobs_thrownText (thrown : Thrown) : s.jobs <+: (after s (thrownText thrown)).jobs := by
  cases thrown with
  | exception v => exact holds_fullText s .queueing v
  | fault f => exact List.prefix_rfl

/-- No job is forgotten when it is told what one threw. -/
theorem context_tell (q : JobQueue (Script ε) Job) (thrown : Thrown) :
    context ((tell q thrown).queue q.pending) = after (context q) (thrownText thrown) := by
  have hjobs := List.prefix_iff_eq_append.mp (jobs_thrownText (context q) thrown)
  exact congrArg (fun jobs => { after (context q) (thrownText thrown) with jobs }) hjobs

-- ════════════════════════════════════════════════════════════════════════
-- Requests to this engine
-- ════════════════════════════════════════════════════════════════════════

theorem runJob_of_ok {pending : List Job} {job : Job}
    (h : s.answer (framed (runEffect job.effect)) = .ok ()) :
    runJob ⟨s, pending⟩ job =
      ⟨none, s.after (framed (runEffect job.effect)), job.queues⟩ := by
  simp only [runJob, h]

theorem runJob_of_error {pending : List Job} {job : Job} {thrown : Thrown}
    (h : s.answer (framed (runEffect job.effect)) = .error thrown) :
    runJob ⟨s, pending⟩ job = ⟨some thrown, s.after (framed (runEffect job.effect)), []⟩ := by
  simp only [runJob, h]

/-- What a host is told of drained jobs, and the queue that it finds then. -/
def reported (drained : Drained) : Except ScriptError Nat × JobQueue (Script ε) Job :=
  match drained.thrown with
  | none => (.ok drained.ran, ⟨s, drained.pending⟩)
  | some thrown =>
    let told := tell ⟨s, drained.pending⟩ thrown
    (.error (.job told.value), told.queue drained.pending)

/-- Jobs are drained by requests to the engine. -/
theorem tick_jobEngine (limit : Option Nat) (n : Nat) (pending : List Job) :
    jobEngine.tick limit n ⟨s, pending⟩ = Part.some
      (reported (after s (drain limit n pending)) (answer s (drain limit n pending))) := by
  -- The induction is on the number of jobs that come of those pending, as in the draining.
  induction hsize : jobSizes pending using Nat.strongRecOn generalizing s n pending with
  | ind size ih =>
    rw [drain.eq_def]
    by_cases hlimit : limit.any (· ≤ n) = true
    · rw [if_pos hlimit]
      exact JobEngine.tick_of_reached hlimit
    · rw [if_neg hlimit]
      cases pending with
      | nil => exact JobEngine.tick_of_idle rfl
      | cons job rest =>
        simp only [answer_bind, after_bind, answer_attempt, after_attempt]
        cases hanswer : s.answer (framed (runEffect job.effect)) with
        | error thrown =>
          have hturn : jobEngine.run ⟨s, rest⟩ job = _ := runJob_of_error s hanswer
          rw [JobEngine.tick_of_thrown hlimit rfl (congrArg Turn.value hturn), hturn, Turn.queue,
            List.append_nil]
          rfl
        | ok done =>
          have hturn : jobEngine.run ⟨s, rest⟩ job = _ := runJob_of_ok s hanswer
          rw [JobEngine.tick_of_returned hlimit rfl (congrArg Turn.value hturn), hturn]
          refine ih _ ?_ _ _ _ rfl
          cases job
          simp [← hsize, jobSizes, jobSize, jobSizes_append, Job.queues]
          omega

/-- A tick of a context is a tick of the engine: it gives the same answer and leaves the same jobs
    pending. -/
theorem tick_eq : ∃ q, jobEngine.tick s.config.maxJobsPerTick 0 ⟨s, s.jobs⟩ =
    Part.some (answer s tick, q) ∧ after s tick = context q := by
  rw [tick_jobEngine, tick, answer_bind, answer_get, after_get, answer_bind, answer_bind,
    after_bind, after_get, answer_get, after_bind, after_bind, reported]
  cases hthrown : (answer s (drain s.config.maxJobsPerTick 0 s.jobs)).thrown with
  | none => exact ⟨_, rfl, rfl⟩
  | some thrown =>
    let left : JobQueue (Script ε) Job :=
      ⟨after s (drain s.config.maxJobsPerTick 0 s.jobs),
        (answer s (drain s.config.maxJobsPerTick 0 s.jobs)).pending⟩
    cases thrown with
    | exception v => exact ⟨_, rfl, (context_tell left (.exception v)).symm⟩
    | fault f => exact ⟨_, rfl, (context_tell left (.fault f)).symm⟩

end Session

/-- Ticks drain the queue of every engine in order. A tick that answers runs jobs from the front
    until the limit is reached, no job is left or one throws, and what it does until then is all
    that it does. Only without a limit, on a queue with always another job that returns, there is
    no answer. A tick runs no more jobs than the limit; the jobs that were pending, and behind them
    those queued meanwhile, are those that ran, in order, and behind them those pending still. What
    stood behind a job that throws comes first in the next tick. No job is lost over a series of
    ticks either. A script context is such an engine: what a job does queues nothing but the jobs
    that are said to come of it, and the ticks of a context always answer. -/
theorem JobEngine.ticks_drain_in_order {σ J T ε : Type} [Embedding ε] (engine : JobEngine σ J T)
    (limit : Option Nat) (q : JobQueue σ J) :
    (∀ answer q', (answer, q') ∈ engine.tick limit 0 q ↔
      ∃ ran added, engine.Ticks limit 0 q ran added answer q') ∧
    (¬(engine.tick limit 0 q).Dom →
      limit = none ∧ ∀ n, ∃ ran q', engine.Runs q ran q' ∧ ran.length = n ∧
        ∀ r ∈ ran, r.Returned) ∧
    (∀ ran added answer q', engine.Ticks limit 0 q ran added answer q' →
      (∀ max ∈ limit, ran.length ≤ max) ∧
      q.pending ++ added = ran.map (·.job) ++ q'.pending ∧
      ∀ e, answer = .error e → ∃ done last behind, ran = done ++ [last] ∧
        q.pending ++ Ran.queued done = done.map (·.job) ++ last.job :: behind ∧
        behind <+: q'.pending) ∧
    (∀ ran added q', engine.Series limit q ran added q' →
      q.pending ++ added = ran.map (·.job) ++ q'.pending) ∧
    (∀ job : Job, Script.QueuesNothing
      (Script.framed (Session.runEffect job.effect) : ScriptM ε Unit)) ∧
    ∀ s : Script ε, ∃ q', Session.jobEngine.tick s.config.maxJobsPerTick 0 ⟨s, s.jobs⟩ =
        Part.some (Session.answer s Session.tick, q') ∧
      Session.after s Session.tick = Session.context q' := by
  refine ⟨fun answer q' => mem_tick_iff, endless_of_not_dom, ?_,
    fun ran added q' h => h.conserves, fun job => Script.queuesNothing_runEffect job.effect,
    Session.tick_eq⟩
  intro ran added answer q' h
  refine ⟨fun max hmax => ?_, h.conserves, ?_⟩
  · have := h.length_le max hmax
    rwa [Nat.zero_add] at this
  · rintro e rfl
    exact h.behind_of_error

/-- Jobs that count down: each queues the next one, and the last one throws. -/
def JobEngine.countdown : JobEngine Unit Nat Unit where
  run q job :=
    match job with
    | 0 => ⟨some (), q.state, []⟩
    | n + 1 => ⟨none, q.state, [n]⟩
  describe q _ := ⟨"zero", q.state, []⟩

/-- A tick of two countdowns with a limit of two leaves two jobs pending. With a limit of three it
    fails, and it leaves what the second one queued behind the job that threw. -/
theorem JobEngine.ticks_drain_in_order_countdown :
    (.ok 2, ⟨(), [0, 4]⟩) ∈ countdown.tick (some 2) 0 ⟨(), [1, 5]⟩ ∧
      (.error (.job "zero"), ⟨(), [4]⟩) ∈ countdown.tick (some 3) 0 ⟨(), [1, 5]⟩ := by
  let ran : List (Ran Unit Nat Unit) := [⟨1, none, (), [0]⟩, ⟨5, none, (), [4]⟩]
  have hreturned : ∀ r ∈ ran, r.Returned := by simp [ran, Ran.Returned]
  have hends (limit : Option Nat) :=
    (@ticks_drain_in_order Unit Nat Unit Playground _ countdown limit ⟨(), [1, 5]⟩).1
  constructor
  · have hruns : countdown.Runs ⟨(), [1, 5]⟩ ran ⟨(), [0, 4]⟩ := .cons rfl (.cons rfl (.nil _))
    exact (hends (some 2) _ _).mpr ⟨_, _, .stops hruns hreturned (by simp [ran]) (.inl rfl)⟩
  · have hruns : countdown.Runs ⟨(), [1, 5]⟩ (ran ++ [⟨0, some (), (), []⟩]) ⟨(), [4]⟩ :=
      .cons rfl (.cons rfl (.cons rfl (.nil _)))
    exact (hends (some 3) _ _).mpr ⟨_, _, .fails hruns hreturned rfl (by simp [ran])⟩

end HostBridge
