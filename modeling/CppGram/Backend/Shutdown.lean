import CppGram.Backend.Dispatch

/-!
# Destroying a client

`~ClientImpl` stops the thread pool and only then the dispatcher thread, which may still hand tasks to
the pool. `Teardown` is the system of the two threads, the workers of the pool and the other threads
that push updates and set handlers; what a thread does while it holds a lock for no longer than a
statement is one action, and `thread_pool_mtx_`, which the destructor holds while it joins the workers,
is part of the state. `unstopped_iff` says which runs never enqueue on the stopped pool.
-/

namespace CppGram.Backend
open Threads Transition

variable {μ κ : Type} {n : Nat}

/-! ## The task of an update -/

namespace ClientImpl

/-- With or without a pool, an update that comes to a task is submitted. -/
lemma processUpdate_of_taskOf {c : ClientImpl μ κ} {u : Update μ κ} {task : Task μ κ}
    (comes : c.taskOf u = some task) : c.processUpdate u = c.submit task := by
  cases u with
  | newMessage message =>
    cases message with
    | none => cases comes
    | some msg =>
      simp only [taskOf] at comes
      split at comes
      · next passes =>
        cases comes
        simp only [processUpdate, dispatchMessage, passes, Bool.not_true, Bool.and_false,
          Bool.false_eq_true, if_false]
      · cases comes
  | newCallbackQuery q =>
    simp only [taskOf] at comes
    split at comes
    · next passes =>
      cases comes
      simp only [processUpdate, dispatchCallbackQuery, passes, Bool.not_true, Bool.and_false,
        Bool.false_eq_true, if_false]
    · cases comes
  | _ => cases comes

/-- An update that comes to no task does nothing with the pool. -/
lemma processUpdate_pool {c : ClientImpl μ κ} {u : Update μ κ} (comes : c.taskOf u = none) :
    (c.processUpdate u).handed = none ∧ (c.processUpdate u).client.threadPool = c.threadPool := by
  cases u with
  | authorizationState state =>
    simp only [processUpdate, handleAuthState]
    split
    all_goals first
      | exact ⟨rfl, rfl⟩
      | split <;> exact ⟨rfl, rfl⟩
  | newMessage message =>
    cases message with
    | none => exact ⟨rfl, rfl⟩
    | some msg =>
      simp only [taskOf] at comes
      split at comes
      · cases comes
      · next halted =>
        simp only [processUpdate, dispatchMessage, c.attached, halted, Bool.not_false, Bool.and_self,
          if_true, and_self]
  | newCallbackQuery q =>
    simp only [taskOf] at comes
    split at comes
    · cases comes
    · next halted =>
      simp only [processUpdate, dispatchCallbackQuery, c.attached, halted, Bool.not_false,
        Bool.and_self, if_true, and_self]
  | deleteMessages _ _ isPermanent => cases isPermanent <;> exact ⟨rfl, rfl⟩
  | _ => exact ⟨rfl, rfl⟩

end ClientImpl

/-! ## The threads -/

/-- Where the dispatcher thread is. -/
inductive DispatcherThread (μ κ : Type) where
  /-- At `while (dispatcher_running_)`. -/
  | checking
  /-- At `queue_cv_.wait`. -/
  | waiting
  /-- In `process_update`. -/
  | processing (u : Update μ κ)
  /-- In front of the lock of `thread_pool_mtx_`, with `run_handlers`. -/
  | handing (task : Task μ κ)
  /-- At `thread_pool_->enqueue`. -/
  | enqueueing (task : Task μ κ)
  /-- `dispatcher_loop` has returned. -/
  | exited
  /-- A function of the user has thrown out of `process_update`. -/
  | threw
  /-- `enqueue` has thrown out of `process_update`. -/
  | refused

/-- Where the thread that destroys the client is. -/
inductive DestructorThread where
  /-- In front of `~ClientImpl`. -/
  | away
  /-- It holds `thread_pool_mtx_`. -/
  | locked
  /-- It has set `stop_` and joins the workers. -/
  | joining
  /-- It has given `thread_pool_mtx_` back. -/
  | released
  /-- It has cleared `dispatcher_running_` and joins the dispatcher thread. -/
  | stopping
  | done
  deriving DecidableEq, Repr

/-- A client with a pool of `n` workers and the threads that use it; what other threads set on the client
    is `client`. -/
structure Teardown (μ κ : Type) (n : Nat) where
  client : ClientImpl μ κ := {}
  pool : ThreadPool (Task μ κ) n := {}
  poolLocked : Bool := false
  dispatcherRunning : Bool := true
  updateQueue : List (Update μ κ) := []
  dispatcher : DispatcherThread μ κ := .checking
  destructor : DestructorThread := .away

namespace Teardown

/-- What a thread does next. -/
inductive Action (μ κ : Type) (n : Nat) where
  /-- TDLib brings an update. -/
  | push (u : Update μ κ)
  /-- Handlers, middleware or callbacks are set. -/
  | configure (client : ClientImpl μ κ)
  /-- A worker takes a step. -/
  | worker (a : Threads.Action (Task μ κ) n)
  /-- The dispatcher thread looks at `dispatcher_running_`. -/
  | check
  /-- It takes an update out of the queue, or leaves the loop. -/
  | next
  /-- It processes the update, but for the end that is under `thread_pool_mtx_`. -/
  | dispatch
  /-- It locks `thread_pool_mtx_`. -/
  | lock
  /-- It calls `enqueue` and unlocks. -/
  | enqueue
  /-- `~ClientImpl` locks `thread_pool_mtx_`. -/
  | destroy
  /-- The part of `shutdown` under the lock of the pool. -/
  | shutdown
  /-- `shutdown` joins the next worker. -/
  | join
  /-- `shutdown` returns, and `thread_pool_mtx_` is unlocked. -/
  | unlock
  /-- `dispatcher_running_ = false`. -/
  | stop
  /-- The dispatcher thread is joined. -/
  | finish

/-- The actions of workers. -/
def ofWorker : Threads.Action (Task μ κ) n → Bool
  | .take _ | .leave _ | .run _ _ | .release _ | .count _ | .notify _ => true
  | .enqueue _ | .shutdown | .join => false

/-- What an action makes of the system, if it can be taken. -/
def step (s : Teardown μ κ n) : Action μ κ n → Option (Teardown μ κ n)
  | .push u => some { s with updateQueue := s.updateQueue ++ [u] }
  | .configure client => some { s with client }
  | .worker a => if ofWorker a then (s.pool.step a).map fun pool => { s with pool } else none
  | .check =>
    match s.dispatcher with
    | .checking =>
      some { s with dispatcher := if s.dispatcherRunning then .waiting else .exited }
    | _ => none
  | .next =>
    match s.dispatcher, s.updateQueue with
    | .waiting, u :: updateQueue => some { s with updateQueue, dispatcher := .processing u }
    | .waiting, [] => if s.dispatcherRunning then none else some { s with dispatcher := .exited }
    | _, _ => none
  | .dispatch =>
    match s.dispatcher with
    | .processing u =>
      match s.client.taskOf u with
      | some task => some { s with dispatcher := .handing task }
      | none =>
        match (s.client.processUpdate u).outcome with
        | .ok () => some { s with dispatcher := .checking }
        | .error _ => some { s with dispatcher := .threw }
    | _ => none
  | .lock =>
    match s.dispatcher, s.poolLocked with
    | .handing task, false => some { s with poolLocked := true, dispatcher := .enqueueing task }
    | _, _ => none
  | .enqueue =>
    match s.dispatcher with
    | .enqueueing task =>
      match s.pool.enqueue task with
      | (.ok (), pool) => some { s with pool, poolLocked := false, dispatcher := .checking }
      | (.error _, pool) => some { s with pool, poolLocked := false, dispatcher := .refused }
    | _ => none
  | .destroy =>
    match s.destructor, s.poolLocked with
    | .away, false => some { s with poolLocked := true, destructor := .locked }
    | _, _ => none
  | .shutdown =>
    match s.destructor with
    | .locked => (s.pool.step .shutdown).map fun pool => { s with pool, destructor := .joining }
    | _ => none
  | .join =>
    match s.destructor with
    | .joining => (s.pool.step .join).map fun pool => { s with pool }
    | _ => none
  | .unlock =>
    match s.destructor with
    | .joining =>
      if s.pool.joined = n then some { s with poolLocked := false, destructor := .released } else none
    | _ => none
  | .stop =>
    match s.destructor with
    | .released => some { s with dispatcherRunning := false, destructor := .stopping }
    | _ => none
  | .finish =>
    match s.destructor, s.dispatcher with
    | .stopping, .exited => some { s with destructor := .done }
    | _, _ => none

/-- What an action does. -/
inductive Step : Teardown μ κ n → Action μ κ n → Teardown μ κ n → Prop where
  | push {s u} :
    Step s (.push u) { s with updateQueue := s.updateQueue ++ [u] }
  | configure {s client} :
    Step s (.configure client) { s with client }
  | worker {s a pool} :
    pool.stop = s.pool.stop →
    Step s (.worker a) { s with pool }
  | check {s} :
    s.dispatcher = .checking →
    Step s .check { s with dispatcher := if s.dispatcherRunning then .waiting else .exited }
  | take {s u updateQueue} :
    s.dispatcher = .waiting →
    s.updateQueue = u :: updateQueue →
    Step s .next { s with updateQueue, dispatcher := .processing u }
  | leave {s} :
    s.dispatcher = .waiting →
    s.dispatcherRunning = false →
    Step s .next { s with dispatcher := .exited }
  | carry {s u task} :
    s.dispatcher = .processing u →
    s.client.taskOf u = some task →
    Step s .dispatch { s with dispatcher := .handing task }
  | process {s u} :
    s.dispatcher = .processing u →
    s.client.taskOf u = none →
    Step s .dispatch { s with dispatcher := .checking }
  | throws {s u} :
    s.dispatcher = .processing u →
    s.client.taskOf u = none →
    Step s .dispatch { s with dispatcher := .threw }
  | lock {s task} :
    s.dispatcher = .handing task →
    s.poolLocked = false →
    Step s .lock { s with poolLocked := true, dispatcher := .enqueueing task }
  | enqueue {s task} :
    s.dispatcher = .enqueueing task →
    s.pool.stop = false →
    Step s .enqueue
      { s with
        pool := { s.pool with tasks := s.pool.tasks ++ [task] }
        poolLocked := false
        dispatcher := .checking }
  | refuse {s task} :
    s.dispatcher = .enqueueing task →
    s.pool.stop = true →
    Step s .enqueue { s with poolLocked := false, dispatcher := .refused }
  | destroy {s} :
    s.destructor = .away →
    s.poolLocked = false →
    Step s .destroy { s with poolLocked := true, destructor := .locked }
  | shutdown {s} :
    s.destructor = .locked →
    Step s .shutdown { s with pool := { s.pool with stop := true }, destructor := .joining }
  | join {s pool} :
    s.destructor = .joining →
    pool.stop = s.pool.stop →
    Step s .join { s with pool }
  | unlock {s} :
    s.destructor = .joining →
    Step s .unlock { s with poolLocked := false, destructor := .released }
  | stop {s} :
    s.destructor = .released →
    Step s .stop { s with dispatcherRunning := false, destructor := .stopping }
  | finish {s} :
    s.destructor = .stopping →
    s.dispatcher = .exited →
    Step s .finish { s with destructor := .done }

/-- Neither workers nor a join touch `stop_`. -/
lemma watched_stop_eq {w w' : Watched (Task μ κ) n} {a : Threads.Action (Task μ κ) n}
    (moved : Watched.Step w a w') (kind : ofWorker a = true ∨ a = .join) :
    w'.pool.stop = w.pool.stop := by
  cases moved with
  | enqueue _ => rcases kind with kind | kind <;> cases kind
  | shutdown => rcases kind with kind | kind <;> cases kind
  | _ => rfl

/-- A worker and a join do not stop a pool. -/
lemma stop_eq {p p' : ThreadPool (Task μ κ) n} {a : Threads.Action (Task μ κ) n}
    (taken : p.step a = some p') (kind : ofWorker a = true ∨ a = .join) : p'.stop = p.stop := by
  have watched : Watched.step ⟨p, {}⟩ a = some ⟨p', Watched.record p {} a⟩ := by
    rw [Watched.step, taken]
    rfl
  exact watched_stop_eq (Watched.step_cases watched) kind

/-- A step is one of the ways to step. -/
lemma step_cases {s s' : Teardown μ κ n} {a : Action μ κ n} (taken : s.step a = some s') :
    Step s a s' := by
  cases a with
  | push u =>
    cases taken
    exact .push
  | configure client =>
    cases taken
    exact .configure
  | worker a =>
    simp only [step] at taken
    split at taken
    · next kind =>
      obtain ⟨pool, moved, rfl⟩ := Option.map_eq_some_iff.mp taken
      exact .worker (stop_eq moved (.inl kind))
    · cases taken
  | check =>
    simp only [step] at taken
    split at taken
    · next here =>
      cases taken
      exact .check here
    · cases taken
  | next =>
    simp only [step] at taken
    split at taken
    · next u queue here queued =>
      cases taken
      exact .take here queued
    · next here _ =>
      split at taken
      · cases taken
      · next ended =>
        cases taken
        exact .leave here (Bool.eq_false_iff.mpr ended)
    · cases taken
  | dispatch =>
    simp only [step] at taken
    split at taken
    · next u here =>
      split at taken
      · next task comes =>
        cases taken
        exact .carry here comes
      · next comes =>
        split at taken
        · cases taken
          exact .process here comes
        · cases taken
          exact .throws here comes
    · cases taken
  | lock =>
    simp only [step] at taken
    split at taken
    · next task here free =>
      cases taken
      exact .lock here free
    · cases taken
  | enqueue =>
    simp only [step, ThreadPool.enqueue] at taken
    split at taken
    · next task here =>
      by_cases stop : s.pool.stop = true
      · rw [if_pos stop] at taken
        cases taken
        exact .refuse here stop
      · rw [if_neg stop] at taken
        cases taken
        exact .enqueue here (Bool.eq_false_iff.mpr stop)
    · cases taken
  | destroy =>
    simp only [step] at taken
    split at taken
    · next here free =>
      cases taken
      exact .destroy here free
    · cases taken
  | shutdown =>
    simp only [step] at taken
    split at taken
    · next here =>
      cases taken
      exact .shutdown here
    · cases taken
  | join =>
    simp only [step] at taken
    split at taken
    · next here =>
      obtain ⟨pool, moved, rfl⟩ := Option.map_eq_some_iff.mp taken
      exact .join here (stop_eq moved (.inr rfl))
    · cases taken
  | unlock =>
    simp only [step] at taken
    split at taken
    · next here =>
      split at taken
      · cases taken
        exact .unlock here
      · cases taken
    · cases taken
  | stop =>
    simp only [step] at taken
    split at taken
    · next here =>
      cases taken
      exact .stop here
    · cases taken
  | finish =>
    simp only [step] at taken
    split at taken
    · next here ended =>
      cases taken
      exact .finish here ended
    · cases taken

/-- The client as `process_update` finds it. -/
def whole (s : Teardown μ κ n) : ClientImpl μ κ :=
  { s.client with threadPool := some ⟨n, s.pool⟩ }

/-- The end of an update that comes to a task is what `process_update` does with the whole of it. -/
lemma enqueue_processUpdate {s s' : Teardown μ κ n} {u : Update μ κ} {task : Task μ κ}
    (comes : s.client.taskOf u = some task) (here : s.dispatcher = .enqueueing task)
    (taken : s.step .enqueue = some s') :
    (s.whole.processUpdate u).client.threadPool = some ⟨n, s'.pool⟩ ∧
      ((s.whole.processUpdate u).outcome = .ok () ↔ s'.dispatcher ≠ .refused) := by
  have whole_comes : s.whole.taskOf u = some task := by
    rw [← comes]
    cases u <;> rfl
  rw [ClientImpl.processUpdate_of_taskOf whole_comes]
  cases step_cases taken with
  | enqueue place running =>
    cases here.symm.trans place
    simp only [ClientImpl.submit, whole, ThreadPool.enqueue, running, Bool.false_eq_true, if_false]
    exact ⟨trivial, iff_of_true trivial fun this => by cases this⟩
  | refuse place stop =>
    cases here.symm.trans place
    simp only [ClientImpl.submit, whole, ThreadPool.enqueue, stop, if_true]
    exact ⟨trivial, iff_of_false (fun this => by cases this) (· rfl)⟩

/-! ## Runs -/

/-- A client in use, with updates to be processed. -/
def start (client : ClientImpl μ κ) (updateQueue : List (Update μ κ)) : Teardown μ κ n :=
  { client, updateQueue }

/-- `enqueue` is not called on the stopped pool. -/
def Unstopped (s : Teardown μ κ n) (a : Action μ κ n) : Prop :=
  a = .enqueue → s.pool.stop = false

end Teardown

/-- A task is on its way to the pool. -/
def DispatcherThread.carries : DispatcherThread μ κ → Bool
  | handing _ | enqueueing _ => true
  | _ => false

/-- The dispatcher thread holds `thread_pool_mtx_`. -/
def DispatcherThread.locks : DispatcherThread μ κ → Bool
  | enqueueing _ => true
  | _ => false

/-- `~ClientImpl` holds `thread_pool_mtx_`. -/
def DestructorThread.locks : DestructorThread → Bool
  | locked | joining => true
  | _ => false

/-- `~ClientImpl` has set `stop_`. -/
def DestructorThread.stopped : DestructorThread → Bool
  | away | locked => false
  | _ => true

namespace Teardown

/-- The destructor does not take the lock of the pool while a task is on its way to the pool, and from
    then on no update comes to a task. -/
def Orderly (s : Teardown μ κ n) : Action μ κ n → Prop
  | .destroy => s.dispatcher.carries = false
  | .dispatch =>
    s.destructor ≠ .away → ∀ u, s.dispatcher = .processing u → s.client.taskOf u = none
  | _ => True

/-- `thread_pool_mtx_` is held by one thread at most, and `stop_` is set by `~ClientImpl` only. -/
structure Exclusive (s : Teardown μ κ n) : Prop where
  held : s.poolLocked = (s.dispatcher.locks || s.destructor.locks)
  alone : (s.dispatcher.locks && s.destructor.locks) = false
  stopped : s.pool.stop = s.destructor.stopped

/-- The dispatcher thread goes from one place to another without the lock. -/
lemma Exclusive.move {s : Teardown μ κ n} {updateQueue : List (Update μ κ)}
    {d d' : DispatcherThread μ κ} (good : Exclusive s) (here : s.dispatcher = d)
    (before : d.locks = false) (behind : d'.locks = false) :
    Exclusive { s with updateQueue, dispatcher := d' } := by
  obtain ⟨held, alone, stopped⟩ := good
  rw [here, before] at held
  refine ⟨?_, ?_, stopped⟩
  · change s.poolLocked = (d'.locks || s.destructor.locks)
    rw [held, behind]
  · change (d'.locks && s.destructor.locks) = false
    rw [behind, Bool.false_and]

/-- The lock and the stop of the pool stay with their holders. -/
lemma Exclusive.step {s s' : Teardown μ κ n} {a : Action μ κ n} (good : Exclusive s)
    (taken : s.step a = some s') : Exclusive s' := by
  have ⟨held, alone, stopped⟩ := good
  cases step_cases taken with
  | push | configure => exact ⟨held, alone, stopped⟩
  | worker same | join _ same => exact ⟨held, alone, same.trans stopped⟩
  | check here => exact good.move here rfl (by cases s.dispatcherRunning <;> rfl)
  | take here _ | leave here _ | carry here _ | process here _ | throws here _ =>
    exact good.move here rfl rfl
  | lock here free =>
    -- no one holds the lock
    rw [free, eq_comm, Bool.or_eq_false_iff] at held
    exact ⟨rfl, held.2, stopped⟩
  | enqueue here _ | refuse here _ =>
    rw [here] at alone
    exact ⟨alone.symm, rfl, stopped⟩
  | destroy here free =>
    rw [free, eq_comm, Bool.or_eq_false_iff] at held
    rw [here] at stopped
    exact ⟨(Bool.or_true _).symm, by rw [held.1]; rfl, stopped⟩
  | shutdown here =>
    rw [here] at held alone
    exact ⟨held, alone, rfl⟩
  | unlock here =>
    rw [here] at alone stopped
    have dispatcher : s.dispatcher.locks = false := (Bool.and_true _).symm.trans alone
    exact ⟨by rw [dispatcher]; rfl, by rw [dispatcher]; rfl, stopped⟩
  | stop here =>
    rw [here] at held alone stopped
    exact ⟨held, alone, stopped⟩
  | finish here _ =>
    rw [here] at held alone stopped
    exact ⟨held, alone, stopped⟩

/-- A task is on its way to a pool that is or will be stopped, or has come there. -/
def Doomed (s : Teardown μ κ n) : Prop :=
  s.dispatcher = .refused ∨ s.destructor ≠ .away ∧ s.dispatcher.carries = true

/-- A task is refused exactly where `enqueue` is called on the stopped pool. -/
lemma refused_step {s s' : Teardown μ κ n} {a : Action μ κ n} (taken : s.step a = some s') :
    s'.dispatcher ≠ .refused ↔ s.dispatcher ≠ .refused ∧ Unstopped s a := by
  cases step_cases taken with
  | push | configure | worker _ | destroy _ _ | shutdown _ | join _ _ | unlock _ | stop _
  | finish _ _ => exact (and_iff_left nofun).symm
  | check here =>
    refine iff_of_true ?_ ⟨by rw [here]; nofun, nofun⟩
    change (if s.dispatcherRunning then _ else _) ≠ _
    split <;> nofun
  | take here _ | leave here _ | carry here _ | process here _ | throws here _ | lock here _ =>
    exact iff_of_true nofun ⟨by rw [here]; nofun, nofun⟩
  | enqueue here running => exact iff_of_true nofun ⟨by rw [here]; nofun, fun _ => running⟩
  | refuse here stop =>
    refine iff_of_false (· rfl) fun ⟨_, unstopped⟩ => ?_
    cases stop.symm.trans (unstopped rfl)

/-- Without a task on its way nothing is doomed. -/
lemma sound {s : Teardown μ κ n} {d : DispatcherThread μ κ} (here : s.dispatcher = d)
    (other : d ≠ .refused) (empty : d.carries = false) : ¬ Doomed s := by
  rintro (this | ⟨-, carries⟩)
  · exact other (here.symm.trans this)
  · rw [here, empty] at carries
    cases carries

/-- A step dooms a task exactly if it is out of order. -/
lemma doomed_step {s s' : Teardown μ κ n} {a : Action μ κ n} (good : Exclusive s)
    (taken : s.step a = some s') : ¬ Doomed s' ↔ ¬ Doomed s ∧ Orderly s a := by
  cases step_cases taken with
  | push | configure | worker _ | join _ _ => exact (and_iff_left trivial).symm
  | check here =>
    refine iff_of_true (sound rfl ?_ ?_) ⟨sound here nofun rfl, trivial⟩
    · split <;> nofun
    · split <;> rfl
  | take here _ | leave here _ =>
    exact iff_of_true (sound rfl nofun rfl) ⟨sound here nofun rfl, trivial⟩
  | process here comes | throws here comes =>
    refine iff_of_true (sound rfl nofun rfl) ⟨sound here nofun rfl, fun _ u same => ?_⟩
    cases here.symm.trans same
    exact comes
  | @carry u task here comes =>
    have before : ¬ Doomed s := sound here nofun rfl
    rw [and_iff_right before]
    constructor
    · exact fun after begun => absurd (.inr ⟨begun, rfl⟩) after
    · rintro orderly (this | ⟨begun, -⟩)
      · cases this
      · cases comes.symm.trans (orderly begun u here)
  | lock here _ =>
    rw [and_iff_left (show Orderly s .lock from trivial), Doomed, Doomed, here]
    exact not_congr (or_congr ⟨nofun, nofun⟩ Iff.rfl)
  | enqueue here running =>
    refine iff_of_true (sound rfl nofun rfl) ⟨?_, trivial⟩
    rintro (this | ⟨begun, -⟩)
    · cases here.symm.trans this
    · -- the destructor has neither set `stop_` nor has it the lock
      obtain ⟨-, alone, stopped⟩ := good
      rw [running] at stopped
      rw [here] at alone
      cases place : s.destructor <;> rw [place] at begun alone stopped
      · exact begun rfl
      all_goals cases stopped <;> cases alone
  | refuse here stop =>
    have begun : s.destructor ≠ .away := by
      intro away
      have stopped := good.stopped
      rw [stop, away] at stopped
      cases stopped
    refine iff_of_false (fun this => this (.inl rfl)) fun this => this.1 (.inr ⟨begun, ?_⟩)
    rw [here]
    rfl
  | destroy here _ =>
    change ¬ (s.dispatcher = .refused ∨ DestructorThread.locked ≠ .away ∧ s.dispatcher.carries = true) ↔
      ¬ (s.dispatcher = .refused ∨ s.destructor ≠ .away ∧ s.dispatcher.carries = true) ∧
        s.dispatcher.carries = false
    simp only [here, ne_eq, reduceCtorEq, not_false_eq_true, not_true_eq_false, true_and, false_and,
      or_false, not_or, Bool.not_eq_true]
  | shutdown here | unlock here | stop here | finish here _ =>
    refine Iff.trans ?_ (and_iff_left trivial).symm
    exact not_congr (or_congr Iff.rfl (and_congr_left' ⟨fun _ => by rw [here]; nofun, fun _ => nofun⟩))

/-- In a run in which the destructor takes the lock of the pool while no task is on its way there, and
    from then on no update comes to a task, the stopped pool is never called; and in a run that leaves
    no task on its way this is so in no other case. -/
theorem unstopped_iff {client : ClientImpl μ κ} {updateQueue : List (Update μ κ)}
    {actions : List (Action μ κ n)} {s : Teardown μ κ n}
    (ran : run step (start client updateQueue) actions = some s) :
    (Meets step Orderly (start client updateQueue) actions →
      Meets step Unstopped (start client updateQueue) actions) ∧
    (s.dispatcher.carries = false →
      Meets step Unstopped (start client updateQueue) actions →
        Meets step Orderly (start client updateQueue) actions) := by
  have exclusive : Exclusive (start client updateQueue : Teardown μ κ n) := ⟨rfl, rfl, rfl⟩
  have fresh : (start client updateQueue : Teardown μ κ n).dispatcher ≠ .refused := nofun
  have fine : ¬ Doomed (start client updateQueue : Teardown μ κ n) := sound rfl nofun rfl
  have refused := run_iff (I := fun _ => True) (P := fun s => s.dispatcher ≠ .refused)
    (fun _ _ => trivial) (fun _ => refused_step) trivial ran
  have doomed := run_iff (P := fun s => ¬ Doomed s) Exclusive.step doomed_step exclusive ran
  refine ⟨fun orderly => ?_, fun idle unstopped => ?_⟩
  · exact (refused.mp fun this => doomed.mpr ⟨fine, orderly⟩ (.inl this)).2
  · refine (doomed.mp ?_).2
    rintro (this | ⟨-, carries⟩)
    · exact refused.mpr ⟨fresh, unstopped⟩ this
    · cases idle.symm.trans carries

/-- The destructor comes when the task of a message is in the pool. -/
def behindTask : List (Action Unit Unit 1) :=
  [.check, .next, .dispatch, .lock, .enqueue, .destroy, .shutdown, .worker (.take onlyWorker)]

/-- The destructor comes when the dispatcher thread has a message and no task in the pool. -/
def beforeTask : List (Action Unit Unit 1) :=
  [.check, .next, .dispatch, .destroy, .shutdown, .worker (.leave onlyWorker), .join, .unlock, .lock,
    .enqueue]

/-- The first order meets the condition, so the pool is not stopped when it gets the task. -/
theorem behindTask_unstopped :
    Meets step Unstopped (start {} [.newMessage (some ())]) behindTask := by
  refine (unstopped_iff rfl).1 ?_
  refine (meets_cons rfl).mpr ⟨trivial, ?_⟩
  refine (meets_cons rfl).mpr ⟨trivial, ?_⟩
  -- the destructor has not begun
  refine (meets_cons rfl).mpr ⟨fun begun => absurd rfl begun, ?_⟩
  refine (meets_cons rfl).mpr ⟨trivial, ?_⟩
  refine (meets_cons rfl).mpr ⟨trivial, ?_⟩
  -- the task is in the pool
  refine (meets_cons rfl).mpr ⟨rfl, ?_⟩
  refine (meets_cons rfl).mpr ⟨trivial, ?_⟩
  exact (meets_cons rfl).mpr ⟨trivial, meets_nil _⟩

/-- In the second order the dispatcher thread enqueues on the stopped pool, which throws. -/
theorem beforeTask_stopped :
    ∃ s, run step (start {} [.newMessage (some ())]) beforeTask = some s ∧
      ¬ Meets step Unstopped (start {} [.newMessage (some ())]) beforeTask := by
  refine ⟨_, rfl, fun unstopped => ?_⟩
  cases unstopped (beforeTask.take 9) .enqueue [] rfl _ rfl rfl

end Teardown

end CppGram.Backend
