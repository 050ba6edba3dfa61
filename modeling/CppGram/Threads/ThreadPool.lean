import CppGram.Core.Machine
import CppGram.Lib.Transition
import Mathlib.Algebra.Order.BigOperators.Group.Finset
import Mathlib.Tactic.Abel

/-!
# The thread pool

`ThreadPool` (C++ `thread_pool.hpp`), as the threads see it: what a worker does under the lock is one
action, and so is each of its steps outside of the lock. A `wait` on a condition variable is an action
that can be taken when its predicate holds. `Watched` adds what happened to the tasks so far;
`Watched.Step` says what each action does, `Good` what all of them keep.
-/

namespace CppGram.Threads
open Transition

/-- Where the thread of a worker is in its loop. -/
inductive Worker (τ : Type) where
  /-- At `cv_.wait`. -/
  | waiting
  /-- In `task()`. -/
  | running (task : τ)
  /-- The task has returned or thrown; `--active_tasks_` is next. -/
  | finished
  /-- `++completed_tasks_` is next. -/
  | counting
  /-- `completion_cv_.notify_all()` is next. -/
  | notifying
  /-- The thread has returned. -/
  | exited
  deriving DecidableEq, Repr

/-- C++ `class ThreadPool` with `n` workers and the first `joined` of them joined. -/
structure ThreadPool (τ : Type) (n : Nat) where
  workers : Fin n → Worker τ := fun _ => .waiting
  tasks : List τ := []
  stop : Bool := false
  activeTasks : Nat := 0
  completedTasks : Nat := 0
  joined : Nat := 0

/-- What a thread does next. -/
inductive Action (τ : Type) (n : Nat) where
  /-- A call of `enqueue`. -/
  | enqueue (task : τ)
  /-- Worker `i` takes a task out of the queue and counts itself active. -/
  | take (i : Fin n)
  /-- Worker `i` finds the pool stopped and the queue empty. -/
  | leave (i : Fin n)
  /-- The task of worker `i` ends; what it throws is swallowed. -/
  | run (i : Fin n) (throws : Bool)
  /-- `--active_tasks_`. -/
  | release (i : Fin n)
  /-- `++completed_tasks_`. -/
  | count (i : Fin n)
  /-- `completion_cv_.notify_all()`. -/
  | notify (i : Fin n)
  /-- The part of `shutdown` under the lock. -/
  | shutdown
  /-- `shutdown` joins the next worker. -/
  | join
  deriving DecidableEq, Repr

/-- The number of workers that `ThreadPool(threads)` starts. -/
def workerCount (threads : Nat) : Nat := if threads = 0 then 1 else threads

lemma workerCount_pos (threads : Nat) : 0 < workerCount threads := by
  rw [workerCount]
  split <;> omega

/-- The worker of a pool that has one. -/
def onlyWorker : Fin 1 := ⟨0, Nat.one_pos⟩

namespace ThreadPool

variable {τ : Type} {n : Nat}

/-- `throw std::runtime_error(...)` of `enqueue`. -/
def stopped : Fault := .runtimeError "ThreadPool::enqueue on stopped ThreadPool"

/-- `ThreadPool::enqueue`. -/
def enqueue (p : ThreadPool τ n) (task : τ) : Except Fault Unit × ThreadPool τ n :=
  if p.stop then (.error stopped, p) else (.ok (), { p with tasks := p.tasks ++ [task] })

/-- Put worker `i` to another place in its loop. -/
def put (p : ThreadPool τ n) (i : Fin n) (w : Worker τ) : ThreadPool τ n :=
  { p with workers := Function.update p.workers i w }

/-- What an action makes of the pool, if it can be taken. -/
def step (p : ThreadPool τ n) : Action τ n → Option (ThreadPool τ n)
  | .enqueue task => some (p.enqueue task).2
  | .take i =>
    match p.workers i, p.tasks with
    | .waiting, task :: tasks =>
      some { p.put i (.running task) with tasks, activeTasks := p.activeTasks + 1 }
    | _, _ => none
  | .leave i =>
    match p.workers i with
    | .waiting => if p.stop ∧ p.tasks.isEmpty then some (p.put i .exited) else none
    | _ => none
  | .run i _ =>
    match p.workers i with
    | .running _ => some (p.put i .finished)
    | _ => none
  | .release i =>
    match p.workers i with
    | .finished => some { p.put i .counting with activeTasks := p.activeTasks - 1 }
    | _ => none
  | .count i =>
    match p.workers i with
    | .counting => some { p.put i .notifying with completedTasks := p.completedTasks + 1 }
    | _ => none
  | .notify i =>
    match p.workers i with
    | .notifying => some (p.put i .waiting)
    | _ => none
  | .shutdown => some { p with stop := true }
  | .join =>
    if inside : p.joined < n then
      match p.workers ⟨p.joined, inside⟩ with
      | .exited => if p.stop then some { p with joined := p.joined + 1 } else none
      | _ => none
    else none

/-- The predicate of `wait_all`. -/
def drained (p : ThreadPool τ n) : Bool := p.tasks.isEmpty ∧ p.activeTasks = 0

end ThreadPool

/-! ## What happened to the tasks -/

/-- The tasks whose `enqueue` returned, those taken out of the queue and those that have ended, each in
    this order. -/
structure Log (τ : Type) where
  accepted : List τ := []
  started : List τ := []
  executed : List τ := []

/-- A pool and what happened to its tasks. -/
structure Watched (τ : Type) (n : Nat) where
  pool : ThreadPool τ n := {}
  log : Log τ := {}

namespace Watched

variable {τ : Type} {n : Nat}

/-- What an action on a pool adds to its log. -/
def record (pool : ThreadPool τ n) (log : Log τ) : Action τ n → Log τ
  | .enqueue task => if pool.stop then log else { log with accepted := log.accepted ++ [task] }
  | .take _ => { log with started := log.started ++ pool.tasks.take 1 }
  | .run i _ =>
    match pool.workers i with
    | .running task => { log with executed := log.executed ++ [task] }
    | _ => log
  | _ => log

/-- A step of the pool, with what happens to the tasks. -/
def step (w : Watched τ n) (a : Action τ n) : Option (Watched τ n) :=
  (w.pool.step a).map fun pool => { pool, log := record w.pool w.log a }

/-- What an action does. -/
inductive Step : Watched τ n → Action τ n → Watched τ n → Prop where
  | enqueue {p log task} :
    p.stop = false →
    Step ⟨p, log⟩ (.enqueue task)
      ⟨{ p with tasks := p.tasks ++ [task] }, { log with accepted := log.accepted ++ [task] }⟩
  | refuse {p log task} :
    p.stop = true →
    Step ⟨p, log⟩ (.enqueue task) ⟨p, log⟩
  | take {p log i task tasks} :
    p.workers i = .waiting →
    p.tasks = task :: tasks →
    Step ⟨p, log⟩ (.take i)
      ⟨{ p.put i (.running task) with tasks, activeTasks := p.activeTasks + 1 },
        { log with started := log.started ++ [task] }⟩
  | leave {p log i} :
    p.workers i = .waiting →
    p.stop = true →
    p.tasks = [] →
    Step ⟨p, log⟩ (.leave i) ⟨p.put i .exited, log⟩
  | run {p log i task throws} :
    p.workers i = .running task →
    Step ⟨p, log⟩ (.run i throws)
      ⟨p.put i .finished, { log with executed := log.executed ++ [task] }⟩
  | release {p log i} :
    p.workers i = .finished →
    Step ⟨p, log⟩ (.release i)
      ⟨{ p.put i .counting with activeTasks := p.activeTasks - 1 }, log⟩
  | count {p log i} :
    p.workers i = .counting →
    Step ⟨p, log⟩ (.count i)
      ⟨{ p.put i .notifying with completedTasks := p.completedTasks + 1 }, log⟩
  | notify {p log i} :
    p.workers i = .notifying →
    Step ⟨p, log⟩ (.notify i) ⟨p.put i .waiting, log⟩
  | shutdown {p log} :
    Step ⟨p, log⟩ .shutdown ⟨{ p with stop := true }, log⟩
  | join {p log} (inside : p.joined < n) :
    p.workers ⟨p.joined, inside⟩ = .exited →
    p.stop = true →
    Step ⟨p, log⟩ .join ⟨{ p with joined := p.joined + 1 }, log⟩

/-- A step is one of the ways to step. -/
lemma step_cases {w w' : Watched τ n} {a : Action τ n} (taken : w.step a = some w') :
    Step w a w' := by
  obtain ⟨pool, moved, rfl⟩ := Option.map_eq_some_iff.mp taken
  obtain ⟨p, log⟩ := w
  cases a with
  | enqueue task =>
    cases moved
    by_cases stop : p.stop = true
    · rw [ThreadPool.enqueue, if_pos stop, record, if_pos stop]
      exact .refuse stop
    · rw [ThreadPool.enqueue, if_neg stop, record, if_neg stop]
      exact .enqueue (Bool.eq_false_iff.mpr stop)
  | take i =>
    simp only [ThreadPool.step] at moved
    split at moved
    · next task tasks free queued =>
      cases moved
      simp only [record, queued, List.take_succ_cons, List.take_zero]
      exact .take free queued
    · cases moved
  | leave i =>
    simp only [ThreadPool.step] at moved
    split at moved
    · next free =>
      split at moved
      · next h =>
        cases moved
        exact .leave free h.1 (List.isEmpty_iff.mp h.2)
      · cases moved
    · cases moved
  | run i throws =>
    simp only [ThreadPool.step] at moved
    split at moved
    · next task busy =>
      cases moved
      simp only [record, busy]
      exact .run busy
    · cases moved
  | release i =>
    simp only [ThreadPool.step] at moved
    split at moved
    · next here =>
      cases moved
      exact .release here
    · cases moved
  | count i =>
    simp only [ThreadPool.step] at moved
    split at moved
    · next here =>
      cases moved
      exact .count here
    · cases moved
  | notify i =>
    simp only [ThreadPool.step] at moved
    split at moved
    · next here =>
      cases moved
      exact .notify here
    · cases moved
  | shutdown =>
    cases moved
    exact .shutdown
  | join =>
    simp only [ThreadPool.step] at moved
    split at moved
    · next inside =>
      split at moved
      · next gone =>
        split at moved
        · next stop =>
          cases moved
          exact .join inside gone stop
        · cases moved
      · cases moved
    · cases moved

end Watched

/-! ## What every action keeps -/

namespace Worker

variable {τ : Type}

/-- The task that a worker has taken and that has not ended. -/
def held : Worker τ → Multiset τ
  | running task => {task}
  | _ => 0

/-- Whether a worker counts as active. -/
def busy : Worker τ → Nat
  | running _ | finished => 1
  | _ => 0

/-- Whether a worker has taken a task that is not counted as completed. -/
def uncounted : Worker τ → Nat
  | running _ | finished | counting => 1
  | _ => 0

end Worker

namespace ThreadPool

variable {τ : Type} {n : Nat} {p : ThreadPool τ n} {i j : Fin n} {x : Worker τ}

@[simp]
lemma put_workers_self : (p.put i x).workers i = x := by
  simp only [put, Function.update_self]

lemma put_workers_ne (other : j ≠ i) : (p.put i x).workers j = p.workers j := by
  simp only [put, Function.update_of_ne other]

/-- A worker that goes on does not make another one leave. -/
lemma exited_of_put (alive : x ≠ .exited) (h : (p.put i x).workers j = .exited) :
    p.workers j = .exited := by
  by_cases same : j = i
  · rw [same, put_workers_self] at h
    exact absurd h alive
  · rwa [put_workers_ne same] at h

/-- Who has left has left, whatever another worker does. -/
lemma put_exited (alive : p.workers i ≠ .exited) (h : p.workers j = .exited) :
    (p.put i x).workers j = .exited := by
  have other : j ≠ i := fun same => alive (same ▸ h)
  rwa [put_workers_ne other]

end ThreadPool

namespace Watched

variable {τ : Type} {n : Nat}

/-- What holds of a pool in use: nothing accepted is lost, doubled or taken out of turn; the counters
    count the workers at the places in the loop that they stand for; and a worker that has left found
    the pool stopped and nothing queued. -/
structure Good (w : Watched τ n) : Prop where
  order : w.log.accepted = w.log.started ++ w.pool.tasks
  held : (w.log.started : Multiset τ) = w.log.executed + ∑ i, (w.pool.workers i).held
  active : w.pool.activeTasks = ∑ i, (w.pool.workers i).busy
  counted : w.log.started.length = w.pool.completedTasks + ∑ i, (w.pool.workers i).uncounted
  left : ∀ i, w.pool.workers i = .exited → w.pool.stop = true ∧ w.pool.tasks = []
  joined : ∀ i : Fin n, i < w.pool.joined → w.pool.workers i = .exited

/-- A new pool is good. -/
lemma good_new : Good ({} : Watched τ n) where
  order := rfl
  held := by simp [Worker.held]
  active := by simp [Worker.busy]
  counted := by simp [Worker.uncounted]
  left _ h := by cases h
  joined _ h := absurd h (Nat.not_lt_zero _)

/-- One worker goes on from `y` to `x`: what the pool gains or loses is what the worker loses or gains
    by it. -/
lemma Good.move {p q : ThreadPool τ n} {log log' : Log τ} {i : Fin n} {x y : Worker τ}
    (good : Good ⟨p, log⟩) (here : p.workers i = y) (alive : y ≠ .exited)
    (moved : q.workers = (p.put i x).workers) (same : q.stop = p.stop ∧ q.joined = p.joined)
    (order : log'.accepted = log'.started ++ q.tasks)
    (held : (log'.started : Multiset τ) + (log.executed + y.held) =
      log.started + (log'.executed + x.held))
    (active : q.activeTasks + y.busy = p.activeTasks + x.busy)
    (counted : log'.started.length + (p.completedTasks + y.uncounted) =
      log.started.length + (q.completedTasks + x.uncounted))
    (emptied : p.tasks = [] → q.tasks = [])
    (leaves : x = .exited → p.stop = true ∧ p.tasks = []) : Good ⟨q, log'⟩ := by
  have total {M : Type} [AddCommMonoid M] (f : Worker τ → M) :
      ∑ j, f (q.workers j) + f y = ∑ j, f (p.workers j) + f x := by
    rw [moved, ← here]
    exact sum_update f p.workers i x
  refine ⟨order, ?_, ?_, ?_, fun j gone => ?_, fun j this => ?_⟩
  · refine add_right_cancel (b := (log.executed : Multiset τ) + y.held) ?_
    have before : (log.started : Multiset τ) = log.executed + ∑ j, (p.workers j).held := good.held
    calc (log'.started : Multiset τ) + (log.executed + y.held)
        = log.executed + ∑ j, (p.workers j).held + (log'.executed + x.held) := by rw [held, before]
      _ = log'.executed + log.executed + (∑ j, (p.workers j).held + x.held) := by abel
      _ = log'.executed + log.executed + (∑ j, (q.workers j).held + y.held) := by
        rw [total Worker.held]
      _ = log'.executed + ∑ j, (q.workers j).held + (log.executed + y.held) := by abel
  · have before : p.activeTasks = ∑ j, (p.workers j).busy := good.active
    have now := total Worker.busy
    change q.activeTasks = ∑ j, (q.workers j).busy
    omega
  · have before : log.started.length = p.completedTasks + ∑ j, (p.workers j).uncounted :=
      good.counted
    have now := total Worker.uncounted
    change log'.started.length = q.completedTasks + ∑ j, (q.workers j).uncounted
    omega
  · change q.workers j = .exited at gone
    change q.stop = true ∧ q.tasks = []
    rw [moved] at gone
    by_cases leaving : x = .exited
    · exact same.1 ▸ (leaves leaving).imp_right emptied
    · exact same.1 ▸ (good.left j (ThreadPool.exited_of_put leaving gone)).imp_right emptied
  · change (j : Nat) < q.joined at this
    change q.workers j = .exited
    rw [moved]
    exact ThreadPool.put_exited (here ▸ alive) (good.joined j (same.2 ▸ this))

/-- A step keeps it good. -/
lemma Good.step {w w' : Watched τ n} {a : Action τ n} (good : Good w) (taken : w.step a = some w') :
    Good w' := by
  cases step_cases taken with
  | refuse _ => exact good
  | @enqueue p log task running =>
    obtain ⟨order, held, active, counted, left, joined⟩ := good
    refine ⟨?_, held, active, counted, fun i gone => ?_, joined⟩
    · exact (congrArg (· ++ [task]) order).trans (List.append_assoc _ _ _)
    · -- a worker has left only once the pool is stopped
      cases running.symm.trans (left i gone).1
  | @take p log i task tasks free queued =>
    refine good.move free nofun rfl ⟨rfl, rfl⟩ ?_ ?_ rfl ?_ (fun empty => ?_) nofun
    · change log.accepted = (log.started ++ [task]) ++ tasks
      rw [List.append_assoc]
      exact good.order.trans (congrArg (log.started ++ ·) queued)
    · change ((log.started ++ [task] : List τ) : Multiset τ) + (log.executed + 0) =
        log.started + (log.executed + {task})
      rw [← Multiset.coe_add, Multiset.coe_singleton]
      abel
    · change (log.started ++ [task]).length + (p.completedTasks + 0) = _ + (p.completedTasks + 1)
      rw [List.length_append, List.length_singleton]
      omega
    · cases queued.symm.trans empty
  | leave free stop empty =>
    exact good.move free nofun rfl ⟨rfl, rfl⟩ good.order rfl rfl rfl id fun _ => ⟨stop, empty⟩
  | @run p log i task throws busy =>
    refine good.move busy nofun rfl ⟨rfl, rfl⟩ good.order ?_ rfl rfl id nofun
    change (log.started : Multiset τ) + (log.executed + {task}) =
      log.started + (((log.executed ++ [task] : List τ) : Multiset τ) + 0)
    rw [← Multiset.coe_add, Multiset.coe_singleton, add_zero]
  | @release p log i here =>
    refine good.move here nofun rfl ⟨rfl, rfl⟩ good.order rfl ?_ rfl id nofun
    -- this worker is one of those counted active
    have counts : p.activeTasks = ∑ j, (p.workers j).busy := good.active
    have one : (p.workers i).busy ≤ ∑ j, (p.workers j).busy :=
      Finset.single_le_sum (f := fun j => (p.workers j).busy) (fun _ _ => Nat.zero_le _)
        (Finset.mem_univ i)
    rw [here, ← counts] at one
    exact Nat.sub_add_cancel one
  | count here =>
    refine good.move here nofun rfl ⟨rfl, rfl⟩ good.order rfl rfl ?_ id nofun
    exact congrArg (_ + ·) (Nat.add_assoc _ 1 0).symm
  | notify here => exact good.move here nofun rfl ⟨rfl, rfl⟩ good.order rfl rfl rfl id nofun
  | shutdown =>
    obtain ⟨order, held, active, counted, left, joined⟩ := good
    exact ⟨order, held, active, counted, fun i gone => ⟨rfl, (left i gone).2⟩, joined⟩
  | @join p log inside gone stop =>
    obtain ⟨order, held, active, counted, left, joined⟩ := good
    refine ⟨order, held, active, counted, left, fun j this => ?_⟩
    rcases Nat.lt_succ_iff_lt_or_eq.mp this with before | last
    · exact joined j before
    · exact (Fin.ext last : j = ⟨p.joined, inside⟩) ▸ gone

/-- What holds of a pool after any actions. -/
lemma good_run {w : Watched τ n} {actions : List (Action τ n)}
    (ran : Transition.run step {} actions = some w) : Good w :=
  run_invariant Good.step good_new ran

end Watched

end CppGram.Threads
