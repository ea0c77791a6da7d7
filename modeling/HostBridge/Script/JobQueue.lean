import Mathlib.Data.PFun
import HostBridge.Script.Error

/-!
# Queues of pending jobs

An engine keeps the jobs that scripts have queued. On request it runs the one at the front of the
queue; what is queued meanwhile goes to the end. A tick makes such requests until the limit is
reached, no job is left or a job throws. What jobs do is up to the engine: they may queue others,
themselves included, and they may throw after that.

## Main definitions

- `Turn` — what code that an engine runs comes to
- `JobQueue` — the state of an engine, with its pending jobs
- `JobEngine` — an engine, by what its jobs do
- `JobEngine.request` — a request to run a pending job
- `JobEngine.round`, `JobEngine.tick` — a tick, round by round
-/

namespace HostBridge

variable {σ J T α : Type}

/-- The state of an engine, with its pending jobs, the next one first. -/
structure JobQueue (σ J : Type) where
  state : σ
  pending : List J

/-- What code that an engine runs comes to: a value, the state that it leaves, and the jobs that it
    queued, the first one first. -/
structure Turn (σ J α : Type) where
  value : α
  state : σ
  queued : List J

/-- The queue that code leaves if these jobs were pending when it started. -/
def Turn.queue (turn : Turn σ J α) (pending : List J) : JobQueue σ J :=
  ⟨turn.state, pending ++ turn.queued⟩

/-- An engine, by what its jobs do. Code finds the state of the engine and the jobs that are
    pending behind it. -/
structure JobEngine (σ J T : Type) where
  /-- What comes of running a job; the value is what it threw, if it threw. -/
  run : JobQueue σ J → J → Turn σ J (Option T)
  /-- What comes of telling what a job threw; the value is the text of it. -/
  describe : JobQueue σ J → T → Turn σ J String

namespace JobEngine

/-- A request to run a pending job. The one at the front of the queue runs; the answer is whether
    there was one, unless it threw. -/
def request (engine : JobEngine σ J T) (q : JobQueue σ J) : Except T Bool × JobQueue σ J :=
  match q.pending with
  | [] => (.ok false, q)
  | job :: behind =>
    let turn := engine.run ⟨q.state, behind⟩ job
    match turn.value with
    | none => (.ok true, turn.queue behind)
    | some thrown => (.error thrown, turn.queue behind)

/-- A round of a tick in which so many jobs have run: with it the tick ends, or it goes on. The
    answer is how many have run when it ends, or the text of what a job threw. -/
def round (engine : JobEngine σ J T) (limit : Option Nat) : Nat × JobQueue σ J →
    (Except ScriptError Nat × JobQueue σ J) ⊕ (Nat × JobQueue σ J)
  | (ran, q) =>
    if limit.any (· ≤ ran) then .inl (.ok ran, q)
    else
      match engine.request q with
      | (.ok true, q') => .inr (ran + 1, q')
      | (.ok false, q') => .inl (.ok ran, q')
      | (.error thrown, q') =>
        let told := engine.describe q' thrown
        .inl (.error (.job told.value), told.queue q'.pending)

/-- A tick in which so many jobs have run, round by round. Without a limit it need not end; then
    there is no answer. -/
def tick (engine : JobEngine σ J T) (limit : Option Nat) (ran : Nat) (q : JobQueue σ J) :
    Part (Except ScriptError Nat × JobQueue σ J) :=
  PFun.fix (fun progress => Part.some (engine.round limit progress)) (ran, q)

end JobEngine

end HostBridge
