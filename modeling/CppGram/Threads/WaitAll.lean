import CppGram.Threads.ThreadPool

/-!
# Waiting for the tasks of a pool

`wait_all` returns when nothing is queued and no worker counts as active, and a worker stops counting
as active before it counts its task as completed. `completed_after_waitAll_iff` says in which runs the
caller reads the number of tasks accepted.
-/

namespace CppGram.Threads
open Transition

/-- A thread that calls `wait_all` and then `completed_tasks`, with the number of tasks accepted when
    it calls. -/
inductive Caller where
  | before
  | waiting (accepted : Nat)
  | returned (accepted : Nat)
  | read (accepted value : Nat)
  deriving DecidableEq, Repr

/-- A pool, a caller of `wait_all`, and whether a task was accepted between its calls. -/
structure Waited (τ : Type) (n : Nat) where
  watched : Watched τ n := {}
  caller : Caller := .before
  enqueued : Bool := false

namespace Waited

variable {τ : Type} {n : Nat}

/-- A step of the pool, or of the caller. -/
inductive Action (τ : Type) (n : Nat) where
  | pool (a : Threads.Action τ n)
  /-- `wait_all` is called. -/
  | call
  /-- `wait_all` finds its predicate true and returns. -/
  | wake
  /-- `completed_tasks` is read. -/
  | read
  deriving DecidableEq, Repr

/-- The caller has called `wait_all` and has yet to read. -/
def inCall : Caller → Bool
  | .waiting _ | .returned _ => true
  | .before | .read _ _ => false

/-- One step of the pool, or of the thread that calls `wait_all`. -/
def step (s : Waited τ n) : Action τ n → Option (Waited τ n)
  | .pool a =>
    (s.watched.step a).map fun watched =>
      { s with
        watched
        enqueued := s.enqueued ||
          (inCall s.caller && watched.log.accepted.length ≠ s.watched.log.accepted.length) }
  | .call =>
    match s.caller with
    | .before => some { s with caller := .waiting s.watched.log.accepted.length }
    | _ => none
  | .wake =>
    match s.caller with
    | .waiting accepted =>
      if s.watched.pool.drained then some { s with caller := .returned accepted } else none
    | _ => none
  | .read =>
    match s.caller with
    | .returned accepted =>
      some { s with caller := .read accepted s.watched.pool.completedTasks }
    | _ => none

/-- What an action does. -/
inductive Step : Waited τ n → Action τ n → Waited τ n → Prop where
  | pool {w w' caller enqueued a} :
    w.step a = some w' →
    Step ⟨w, caller, enqueued⟩ (.pool a)
      ⟨w', caller,
        enqueued || (inCall caller && w'.log.accepted.length ≠ w.log.accepted.length)⟩
  | call {w enqueued} :
    Step ⟨w, .before, enqueued⟩ .call ⟨w, .waiting w.log.accepted.length, enqueued⟩
  | wake {w accepted enqueued} :
    w.pool.drained = true →
    Step ⟨w, .waiting accepted, enqueued⟩ .wake ⟨w, .returned accepted, enqueued⟩
  | read {w accepted enqueued} :
    Step ⟨w, .returned accepted, enqueued⟩ .read
      ⟨w, .read accepted w.pool.completedTasks, enqueued⟩

/-- A step is one of the ways to step. -/
lemma step_cases {s s' : Waited τ n} {a : Action τ n} (taken : s.step a = some s') :
    Step s a s' := by
  obtain ⟨w, caller, enqueued⟩ := s
  cases a with
  | pool a =>
    obtain ⟨watched, moved, rfl⟩ := Option.map_eq_some_iff.mp taken
    exact .pool moved
  | call =>
    cases caller with
    | before =>
      cases taken
      exact .call
    | waiting _ | returned _ | read _ _ => cases taken
  | wake =>
    cases caller with
    | waiting accepted =>
      simp only [step] at taken
      split at taken
      · next drained =>
        cases taken
        exact .wake drained
      · cases taken
    | before | returned _ | read _ _ => cases taken
  | read =>
    cases caller with
    | returned accepted =>
      cases taken
      exact .read
    | before | waiting _ | read _ _ => cases taken

/-- What the caller reads is the number of tasks accepted before it called, unless a task was accepted
    in the meantime. -/
def Accounted (s : Waited τ n) : Prop :=
  ∀ accepted value, s.caller = .read accepted value → s.enqueued = false → value = accepted

/-- No worker is between `--active_tasks_` and `++completed_tasks_` when the caller reads, unless a
    task was accepted in the meantime. -/
def Settled (s : Waited τ n) (a : Action τ n) : Prop :=
  a = .read → s.enqueued = false → ∀ i, s.watched.pool.workers i ≠ .counting

/-- What holds while no task is accepted: the number of tasks accepted is the one at the call, and once
    `wait_all` has returned nothing is queued and no worker is active. -/
def Quiet (w : Watched τ n) : Caller → Prop
  | .before | .read _ _ => True
  | .waiting accepted => w.log.accepted.length = accepted
  | .returned accepted => w.log.accepted.length = accepted ∧ w.pool.drained = true

/-- The pool is good, and quiet as long as nothing was enqueued during the call. -/
def Inv (s : Waited τ n) : Prop :=
  Watched.Good s.watched ∧ (s.enqueued = false → Quiet s.watched s.caller)

lemma drained_iff {p : ThreadPool τ n} : p.drained = true ↔ p.tasks = [] ∧ p.activeTasks = 0 := by
  rw [ThreadPool.drained, decide_eq_true_iff, List.isEmpty_iff]

/-- Once nothing is queued and no worker is active, this stays so until a task is accepted. -/
lemma drained_step {w w' : Watched τ n} {a : Threads.Action τ n} (drained : w.pool.drained = true)
    (taken : w.step a = some w') (same : w'.log.accepted.length = w.log.accepted.length) :
    w'.pool.drained = true := by
  obtain ⟨empty, idle⟩ := drained_iff.mp drained
  cases Watched.step_cases taken with
  | enqueue _ =>
    rw [List.length_append] at same
    exact absurd same (Nat.succ_ne_self _)
  | take _ queued => cases queued.symm.trans empty
  | @release p log i _ =>
    refine drained_iff.mpr ⟨empty, ?_⟩
    change p.activeTasks - 1 = 0
    rw [idle]
  | refuse _ | leave _ _ _ | run _ | count _ | notify _ | shutdown | join _ _ _ =>
    exact drained_iff.mpr ⟨empty, idle⟩

/-- Then the tasks accepted are all counted as completed, but for those of the workers that are about
    to count. -/
lemma completed_iff {w : Watched τ n} (good : Watched.Good w) (drained : w.pool.drained = true) :
    w.pool.completedTasks = w.log.accepted.length ↔ ∀ i, w.pool.workers i ≠ .counting := by
  obtain ⟨empty, idle⟩ := drained_iff.mp drained
  have order := good.order
  have active := good.active
  have counted := good.counted
  rw [empty, List.append_nil] at order
  rw [idle, eq_comm, Finset.sum_eq_zero_iff] at active
  rw [order, counted]
  have none_left : w.pool.completedTasks =
      w.pool.completedTasks + ∑ i, (w.pool.workers i).uncounted ↔
        ∑ i, (w.pool.workers i).uncounted = 0 := by omega
  rw [none_left, Finset.sum_eq_zero_iff]
  refine ⟨fun h i here => ?_, fun h i _ => ?_⟩
  · have this := h i (Finset.mem_univ i)
    rw [here] at this
    cases this
  · have not_busy := active i (Finset.mem_univ i)
    cases here : w.pool.workers i with
    | counting => exact absurd here (h i)
    | running _ | finished =>
      rw [here] at not_busy
      cases not_busy
    | waiting | notifying | exited => rfl

/-- A step keeps it so. -/
lemma Inv.step {s s' : Waited τ n} {a : Action τ n} (inv : Inv s) (taken : step s a = some s') :
    Inv s' := by
  obtain ⟨good, quiet⟩ := inv
  cases step_cases taken with
  | @pool w w' caller enqueued a moved =>
    refine ⟨good.step moved, fun still => ?_⟩
    obtain ⟨before, now⟩ := Bool.or_eq_false_iff.mp still
    have quiet : Quiet w caller := quiet before
    cases caller with
    | before | read _ _ => trivial
    | waiting accepted =>
      exact (not_not.mp (of_decide_eq_false now)).trans quiet
    | returned accepted =>
      have same := not_not.mp (of_decide_eq_false now)
      exact ⟨same.trans quiet.1, drained_step quiet.2 moved same⟩
  | call => exact ⟨good, fun _ => rfl⟩
  | wake drained => exact ⟨good, fun still => ⟨quiet still, drained⟩⟩
  | read => exact ⟨good, fun _ => trivial⟩

lemma inv_new : Inv ({} : Waited τ n) := ⟨Watched.good_new, fun _ => trivial⟩

lemma accounted_unread {s : Waited τ n} (unread : ∀ k v, s.caller ≠ .read k v) : Accounted s :=
  fun k v this => absurd this (unread k v)

/-- A step lets the caller's value be right exactly when it was and the step is settled. -/
lemma accounted_step {s s' : Waited τ n} {a : Action τ n} (inv : Inv s)
    (taken : step s a = some s') : Accounted s' ↔ Accounted s ∧ Settled s a := by
  obtain ⟨good, quiet⟩ := inv
  cases step_cases taken with
  | @pool w w' caller enqueued a moved =>
    have settled : Settled ⟨w, caller, enqueued⟩ (.pool a) := nofun
    cases caller with
    | before | waiting _ | returned _ =>
      exact iff_of_true (accounted_unread nofun) ⟨accounted_unread nofun, settled⟩
    | read accepted value =>
      -- what happens after the caller has read does not matter
      simp only [Accounted, inCall, Bool.false_and, Bool.or_false]
      exact ⟨fun h => ⟨h, settled⟩, And.left⟩
  | call | wake _ =>
    exact iff_of_true (accounted_unread nofun) ⟨accounted_unread nofun, nofun⟩
  | @read w accepted enqueued =>
    have exactly (still : enqueued = false) :
        w.pool.completedTasks = accepted ↔ ∀ i, w.pool.workers i ≠ .counting := by
      obtain ⟨same, drained⟩ := quiet still
      rw [← completed_iff good drained, same]
    constructor
    · intro right
      exact ⟨accounted_unread nofun, fun _ still => (exactly still).mp (right _ _ rfl still)⟩
    · rintro ⟨-, settled⟩ k v this still
      cases this
      exact (exactly still).mpr (settled rfl still)

/-- The caller of `wait_all` reads the number of tasks that were accepted before, unless one was
    accepted in the meantime, exactly when no worker is about to count its task at the time. -/
theorem completed_after_waitAll_iff {actions : List (Action τ n)} {s : Waited τ n}
    (ran : Transition.run step {} actions = some s) :
    Accounted s ↔ Meets step Settled {} actions := by
  have whole := run_iff Inv.step accounted_step inv_new ran
  rw [whole]
  exact ⟨And.right, fun h => ⟨accounted_unread nofun, h⟩⟩

/-- One worker counts its task before the caller of `wait_all` reads. -/
def countedFirst : List (Action Nat 1) :=
  [.pool (.enqueue 7), .call, .pool (.take onlyWorker), .pool (.run onlyWorker false),
    .pool (.release onlyWorker), .pool (.count onlyWorker), .wake, .read]

/-- The caller reads before the worker counts its task. -/
def readFirst : List (Action Nat 1) :=
  [.pool (.enqueue 7), .call, .pool (.take onlyWorker), .pool (.run onlyWorker false),
    .pool (.release onlyWorker), .wake, .read, .pool (.count onlyWorker)]

/-- In the first order the caller reads 1, so the condition is met. -/
theorem countedFirst_settled : Meets step Settled {} countedFirst :=
  (completed_after_waitAll_iff rfl).mp fun _ _ this _ => by cases this; rfl

/-- In the second order `wait_all` has returned and no task was accepted since, and the caller reads 0
    with one task accepted. -/
theorem readFirst_misses_task :
    ∃ s, Transition.run step {} readFirst = some s ∧ s.caller = .read 1 0 ∧
      s.enqueued = false ∧ ¬ Accounted s := by
  refine ⟨_, rfl, rfl, rfl, fun right => ?_⟩
  cases right 1 0 rfl rfl

end Waited

end CppGram.Threads
