import CppGram.Threads.ThreadPool

/-!
# The tasks of a pool

What becomes of the tasks that are handed to a pool, whatever the threads do: `LosesNothing` in every
state, and `Fair` runs start every task. A run is fair if no worker is held up for ever; a task ends.
-/

namespace CppGram.Threads
open Transition

namespace Worker

variable {τ : Type}

/-- How many steps a worker is from waiting for a task. -/
def stepsLeft : Worker τ → Nat
  | waiting | exited => 0
  | notifying => 1
  | counting => 2
  | finished => 3
  | running _ => 4

end Worker

namespace Action

variable {τ : Type} {n : Nat}

/-- The actions of worker `i`. -/
def IsOf (i : Fin n) : Action τ n → Prop
  | take j | leave j | run j _ | release j | count j | notify j => j = i
  | enqueue _ | shutdown | join => False

end Action

namespace Watched

variable {τ : Type} {n : Nat}

/-- The tasks taken are the first of those accepted, in this order, and the others are queued; a stopped
    pool refuses a task and does not change; and when all workers are joined nothing is queued and the
    tasks accepted have been executed. -/
structure LosesNothing (w : Watched τ n) : Prop where
  order : w.log.accepted = w.log.started ++ w.pool.tasks
  refuses : w.pool.stop = true →
    ∀ task, w.pool.enqueue task = (.error ThreadPool.stopped, w.pool)
  finishes : w.pool.joined = n → w.pool.tasks = [] ∧ w.log.executed.Perm w.log.accepted

/-- A good pool loses no task. -/
lemma Good.losesNothing {w : Watched τ n} (good : Good w) (some_worker : 0 < n) :
    LosesNothing w where
  order := good.order
  refuses stop _ := if_pos stop
  finishes all := by
    have gone (i : Fin n) : w.pool.workers i = .exited :=
      good.joined i (i.isLt.trans_eq all.symm)
    have empty : w.pool.tasks = [] := (good.left ⟨0, some_worker⟩ (gone _)).2
    refine ⟨empty, ?_⟩
    have idle : ∑ i, (w.pool.workers i).held = 0 :=
      Finset.sum_eq_zero fun i _ => by rw [gone i]; rfl
    have order := good.order
    have held := good.held
    rw [empty, List.append_nil] at order
    rw [idle, add_zero] at held
    rw [order]
    exact (Multiset.coe_eq_coe.mp held).symm

/-- A task is accepted and has not been taken. -/
def Pending (k : Nat) (w : Watched τ n) : Prop :=
  Good w ∧ k < w.log.accepted.length ∧ w.log.started.length ≤ k

/-- While a task is pending, a worker that is not busy can take one. -/
lemma Pending.acts {k : Nat} {w : Watched τ n} (pending : Pending k w) (i : Fin n) :
    ∃ a : Action τ n, a.IsOf i ∧ (w.step a).isSome := by
  obtain ⟨good, accepted, started⟩ := pending
  have queued : w.pool.tasks ≠ [] := by
    intro empty
    have order := good.order
    rw [empty, List.append_nil] at order
    rw [order] at accepted
    omega
  cases here : w.pool.workers i with
  | waiting =>
    obtain ⟨task, tasks, first⟩ := List.exists_cons_of_ne_nil queued
    refine ⟨.take i, rfl, ?_⟩
    rw [step, Option.isSome_map, ThreadPool.step, here, first]
    rfl
  | running task =>
    refine ⟨.run i false, rfl, ?_⟩
    rw [step, Option.isSome_map, ThreadPool.step, here]
    rfl
  | finished =>
    refine ⟨.release i, rfl, ?_⟩
    rw [step, Option.isSome_map, ThreadPool.step, here]
    rfl
  | counting =>
    refine ⟨.count i, rfl, ?_⟩
    rw [step, Option.isSome_map, ThreadPool.step, here]
    rfl
  | notifying =>
    refine ⟨.notify i, rfl, ?_⟩
    rw [step, Option.isSome_map, ThreadPool.step, here]
    rfl
  | exited => exact absurd (good.left i here).2 queued

/-- What is left to do until task `k` is taken: five steps of a worker for each task in front. -/
def distance (k : Nat) (i : Fin n) (w : Watched τ n) : Nat :=
  5 * (k + 1 - w.log.started.length) + (w.pool.workers i).stepsLeft

/-- A worker that goes on is nearer to waiting, and the others are where they were. -/
lemma distance_put {k : Nat} {p q : ThreadPool τ n} {log log' : Log τ} {j : Fin n}
    {x y : Worker τ} (here : p.workers j = y) (moved : q.workers = (p.put j x).workers)
    (same : log'.started = log.started) (nearer : x.stepsLeft < y.stepsLeft) (i : Fin n) :
    distance k i ⟨q, log'⟩ ≤ distance k i ⟨p, log⟩ ∧
      (j = i → distance k i ⟨q, log'⟩ < distance k i ⟨p, log⟩) := by
  simp only [distance, moved, same]
  by_cases mine : i = j
  · rw [mine, ThreadPool.put_workers_self, here]
    exact ⟨by omega, fun _ => by omega⟩
  · rw [ThreadPool.put_workers_ne mine]
    exact ⟨le_rfl, fun this => absurd this.symm mine⟩

/-- Every step of a worker brings it nearer to taking a pending task, and no step takes it farther. -/
lemma Pending.waits {k : Nat} {w w' : Watched τ n} {a : Action τ n} (pending : Pending k w)
    (taken : w.step a = some w') (i : Fin n) :
    k < w'.log.started.length ∨
      Pending k w' ∧ distance k i w' ≤ distance k i w ∧
        (a.IsOf i → distance k i w' < distance k i w) := by
  obtain ⟨good, accepted, started⟩ := pending
  by_cases reached : k < w'.log.started.length
  · exact .inl reached
  have good' := good.step taken
  have later : w'.log.started.length ≤ k := Nat.not_lt.mp reached
  cases step_cases taken with
  | @enqueue p log task _ =>
    have longer : k < (log.accepted ++ [task]).length := by
      rw [List.length_append]
      exact Nat.lt_add_right _ accepted
    exact .inr ⟨⟨good', longer, later⟩, le_rfl, False.elim⟩
  | refuse _ | shutdown | join _ _ _ =>
    exact .inr ⟨⟨good', accepted, later⟩, le_rfl, False.elim⟩
  | @take p log j task tasks free queued =>
    refine .inr ⟨⟨good', accepted, later⟩, ?_⟩
    change (log.started ++ [task]).length ≤ k at later
    rw [List.length_append, List.length_singleton] at later
    simp only [distance, List.length_append, List.length_singleton, Action.IsOf]
    by_cases mine : i = j
    · rw [mine, ThreadPool.put_workers_self, free]
      simp only [Worker.stepsLeft]
      exact ⟨by omega, fun _ => by omega⟩
    · rw [ThreadPool.put_workers_ne mine]
      exact ⟨by omega, fun this => absurd this.symm mine⟩
  | leave free stop empty =>
    -- nothing is queued, so no task is pending
    have order := good.order
    rw [empty, List.append_nil] at order
    rw [order] at accepted
    omega
  | run here =>
    exact .inr ⟨⟨good', accepted, later⟩, distance_put here rfl rfl (Nat.lt_succ_self _) i⟩
  | release here =>
    exact .inr ⟨⟨good', accepted, later⟩, distance_put here rfl rfl (Nat.lt_succ_self _) i⟩
  | count here =>
    exact .inr ⟨⟨good', accepted, later⟩, distance_put here rfl rfl (Nat.lt_succ_self _) i⟩
  | notify here =>
    exact .inr ⟨⟨good', accepted, later⟩, distance_put here rfl rfl (Nat.lt_succ_self _) i⟩

/-- In a run in which some worker is not held up for ever, every task that is accepted is taken. -/
lemma eventually_started (E : Execution (step (τ := τ) (n := n)) {}) (i : Fin n)
    (fair : E.FairTo (Action.IsOf i)) {m k : Nat}
    (accepted : k < (E.state m).log.accepted.length) :
    ∃ m' ≥ m, k < (E.state m').log.started.length := by
  have good : Good (E.state m) := E.invariant Good.step good_new m
  by_cases already : k < (E.state m).log.started.length
  · exact ⟨m, le_rfl, already⟩
  · exact E.eventually (R := fun w => k < w.log.started.length) (Q := Pending k) (distance k i) fair
      (fun pending => pending.acts i) (fun pending taken => pending.waits taken i)
      ⟨good, accepted, Nat.not_lt.mp already⟩

/-- Whatever the threads do, a pool loses and doubles nothing; and in a run in which no worker is held
    up for ever, every task that is accepted is taken. -/
theorem tasks_started_once (threads : Nat) :
    (∀ (actions : List (Action τ (workerCount threads))) (w : Watched τ (workerCount threads)),
      Transition.run step {} actions = some w → LosesNothing w) ∧
    ∀ E : Execution (step (τ := τ) (n := workerCount threads)) {},
      (∀ i, E.FairTo (Action.IsOf i)) →
      ∀ m k, k < (E.state m).log.accepted.length →
        ∃ m' ≥ m, k < (E.state m').log.started.length := by
  have some_worker := workerCount_pos threads
  refine ⟨fun actions w ran => (good_run ran).losesNothing some_worker, ?_⟩
  intro E fair m k accepted
  exact eventually_started E ⟨0, some_worker⟩ (fair _) accepted

/-- One worker and one task, which throws. -/
def oneTask : List (Action Nat 1) :=
  [.enqueue 7, .take onlyWorker, .run onlyWorker true, .release onlyWorker, .count onlyWorker,
    .notify onlyWorker]

/-- The pool after these actions. -/
def oneTaskDone : Watched Nat 1 := (Transition.run step {} oneTask).getD {}

/-- The worker has nothing to do then. -/
lemma oneTask_rests (i : Fin 1) (a : Action Nat 1) (mine : a.IsOf i) :
    step oneTaskDone a = none := by
  cases a with
  | enqueue _ | shutdown | join => cases mine
  | take j | leave j | run j _ | release j | count j | notify j =>
    rw [Subsingleton.elim j onlyWorker]
    rfl

/-- The task is executed before the worker is joined, and is taken in a run in which the pool is left
    alone. -/
theorem tasks_started_once_one :
    (∃ w : Watched Nat 1,
      Transition.run step {} (oneTask ++ [.shutdown, .leave onlyWorker, .join]) = some w ∧
      w.pool.joined = 1 ∧ LosesNothing w) ∧
    ∃ E : Execution (step (τ := Nat) (n := 1)) {},
      (∀ i, E.FairTo (Action.IsOf i)) ∧ (E.state 1).log.accepted = [7] ∧
        ∃ m ≥ 1, 0 < (E.state m).log.started.length := by
  have ran : Transition.run step {} oneTask = some oneTaskDone := rfl
  have fair (i : Fin 1) : (Execution.ofRun oneTask ran).FairTo (Action.IsOf i) :=
    Execution.ofRun_fairTo ran (oneTask_rests i)
  exact ⟨⟨_, rfl, rfl,
      (tasks_started_once 1).1 (oneTask ++ [.shutdown, .leave onlyWorker, .join]) _ rfl⟩,
    .ofRun oneTask ran, fair, rfl, (tasks_started_once 1).2 _ fair 1 0 Nat.zero_lt_one⟩

end Watched

end CppGram.Threads
