import CppGram.Backend.Dispatch
import CppGram.Backend.TdLibAdapter

/-!
# From TDLib to the handlers

The way of an update through a client: TDLib brings it to the adapter, whose thread gives it to the
handler that `ClientImpl::init` has set; this puts it in the queue of the dispatcher thread, which takes
it out, processes it, and hands the task that it comes to, if any, to the thread pool, or runs it if
there is no pool. Meanwhile other threads send requests, set handlers, and resize the pool with
`setThreadPoolSize`, which replaces it and destroys the old one under `thread_pool_mtx_`.

`Flow` is where each update and each task is: nothing is lost, doubled or taken out of turn (`flow_run`).
`resized_run` is what a resize leaves: the tasks handed over before it have ended.
-/

namespace CppGram.Backend
open Threads Transition

/-! ## Pools that are replaced -/

/-- A pool with its number of workers and what happened to its tasks. -/
abbrev Pool (τ : Type) := (n : Nat) × Watched τ n

/-- What a worker does next. -/
inductive WorkerStep where
  | take
  | leave
  | run (throws : Bool)
  | release
  | count
  | notify
  deriving DecidableEq, Repr

/-- The step as one of worker `i`. -/
def WorkerStep.of {τ : Type} {n : Nat} (i : Fin n) : WorkerStep → Threads.Action τ n
  | .take => .take i
  | .leave => .leave i
  | .run throws => .run i throws
  | .release => .release i
  | .count => .count i
  | .notify => .notify i

namespace Pool

variable {τ : Type}

/-- `std::make_unique<ThreadPool>(threads)` -/
def new (threads : Nat) : Pool τ := ⟨workerCount threads, {}⟩

/-- A step of a pool of any size. -/
def step (p : Pool τ) (a : Threads.Action τ p.1) : Option (Pool τ) :=
  (p.2.step a).map fun w => ⟨p.1, w⟩

/-- Worker `i` takes a step. -/
def work (p : Pool τ) (i : Nat) (a : WorkerStep) : Option (Pool τ) :=
  if inside : i < p.1 then p.step (a.of ⟨i, inside⟩) else none

/-- The tasks that a pool has accepted and that have not ended. -/
def outstanding (p : Pool τ) : Multiset τ := p.2.pool.tasks + ∑ i, (p.2.pool.workers i).held

/-- The tasks that have ended since a pool was `p`. -/
def ended (p p' : Pool τ) : List τ := p'.2.log.executed.drop p.2.log.executed.length

end Pool

/-! ## The threads -/

/-- Where the dispatcher thread is. -/
inductive Dispatcher (μ κ : Type) where
  /-- In front of the next update. -/
  | waiting
  /-- In `process_update`. -/
  | processing (u : Update μ κ)
  /-- In front of the lock of `thread_pool_mtx_`, with `run_handlers`. -/
  | handing (task : Task μ κ)
  /-- At `if (thread_pool_)`. -/
  | submitting (task : Task μ κ)
  /-- In `run_handlers`, without a pool. -/
  | running (task : Task μ κ)
  /-- An exception has got out of `process_update`. -/
  | threw

/-- Where the thread is that resizes the pool. -/
inductive Resizer where
  | away
  /-- It has locked `thread_pool_mtx_`. -/
  | locked (threads : Nat)
  /-- It joins the workers of the old pool. -/
  | joining
  deriving DecidableEq, Repr

/-- The updates that the dispatcher thread has taken out of its queue; those that it has processed, each
    with the client as it was then; the tasks that it has handed to a pool or begun to run; and the tasks
    that have ended. -/
structure FlowLog (μ κ : Type) where
  taken : List (Update μ κ) := []
  dispatched : List (ClientImpl μ κ × Update μ κ) := []
  handed : List (Task μ κ) := []
  ended : List (Task μ κ) := []

/-- A client with its adapter and its threads; what other threads set on the client is `client`. -/
structure Pipeline (ι φ η ω μ κ : Type) where
  adapter : TdLibAdapter ι φ η ω
  client : ClientImpl μ κ := {}
  updateQueue : List (Update μ κ) := []
  dispatcher : Dispatcher μ κ := .waiting
  /-- `thread_pool_` -/
  pool : Option (Pool (Task μ κ)) := none
  /-- The pool that `setThreadPoolSize` is shutting down. -/
  retired : Option (Pool (Task μ κ)) := none
  resizer : Resizer := .away
  log : FlowLog μ κ := {}

namespace TdLibAdapter

variable {ι φ η ω : Type} [DecidableEq ι]

/-- What an action gives to the handler of updates. -/
def given (s : TdLibAdapter ι φ η ω) : Action ι φ η ω → List ω
  | .call =>
    match s.receiver with
    | .calling h response => if h.owner.isNone then [response.object] else []
    | _ => []
  | _ => []

/-- The response that the loop has and has not given away. -/
def inHand : Receiver φ η ω → List (Response φ η ω)
  | .received response | .calling _ response => [response]
  | .off | .checking | .receiving | .exited => []

/-- The objects that come without a request. -/
def updates (responses : List (Response φ η ω)) : List ω :=
  (responses.filter fun response => response.requestId = 0).map (·.object)

end TdLibAdapter

namespace Pipeline

variable {ι φ η ω μ κ : Type} [DecidableEq ι] (seen : ω → Update μ κ)

/-- What a thread does next. -/
inductive Action (ι φ η ω μ κ : Type) where
  /-- TDLib, the thread of `recv_loop`, or a thread that sends a request. -/
  | adapter (a : TdLibAdapter.Action ι φ η ω)
  /-- Handlers, middleware or callbacks are set. -/
  | configure (client : ClientImpl μ κ)
  /-- The dispatcher thread takes an update out of the queue. -/
  | next
  /-- It processes the update, but for the end that is under `thread_pool_mtx_`. -/
  | dispatch
  /-- It locks `thread_pool_mtx_`. -/
  | lock
  /-- It calls `enqueue` and unlocks, or just unlocks if there is no pool. -/
  | submit
  /-- It has run the handlers itself. -/
  | runHandlers
  /-- A worker of the pool takes a step. -/
  | worker (i : Nat) (a : WorkerStep)
  /-- A worker of the old pool takes a step. -/
  | retiredWorker (i : Nat) (a : WorkerStep)
  /-- `setThreadPoolSize` locks `thread_pool_mtx_`. -/
  | resize (threads : Nat)
  /-- It puts the new pool in place, if there is to be one, and stops the old one. -/
  | install
  /-- It joins the next worker of the old pool. -/
  | join
  /-- It returns. -/
  | unlock

/-- Somebody holds `thread_pool_mtx_`. -/
def poolLocked (s : Pipeline ι φ η ω μ κ) : Bool :=
  match s.dispatcher, s.resizer with
  | .submitting _, _ => true
  | _, .away => false
  | _, _ => true

/-- What an action makes of the system, if it can be taken. -/
def step (s : Pipeline ι φ η ω μ κ) : Action ι φ η ω μ κ → Option (Pipeline ι φ η ω μ κ)
  | .adapter (.setUpdateHandler _) => none
  | .adapter a =>
    (s.adapter.step a).map fun adapter =>
      { s with adapter, updateQueue := s.updateQueue ++ (s.adapter.given a).map seen }
  | .configure client => some { s with client }
  | .next =>
    match s.dispatcher, s.updateQueue with
    | .waiting, u :: updateQueue =>
      some { s with
        updateQueue
        dispatcher := .processing u
        log := { s.log with taken := s.log.taken ++ [u] } }
    | _, _ => none
  | .dispatch =>
    match s.dispatcher with
    | .processing u =>
      let log := { s.log with dispatched := s.log.dispatched ++ [(s.client, u)] }
      match s.client.taskOf u with
      | some task => some { s with log, dispatcher := .handing task }
      | none =>
        match (s.client.processUpdate u).outcome with
        | .ok () => some { s with log, dispatcher := .waiting }
        | .error _ => some { s with log, dispatcher := .threw }
    | _ => none
  | .lock =>
    match s.dispatcher, s.poolLocked with
    | .handing task, false => some { s with dispatcher := .submitting task }
    | _, _ => none
  | .submit =>
    match s.dispatcher, s.pool with
    | .submitting task, none =>
      some { s with
        dispatcher := .running task
        log := { s.log with handed := s.log.handed ++ [task] } }
    | .submitting task, some p =>
      if p.2.pool.stop then some { s with dispatcher := .threw }
      else
        (p.step (.enqueue task)).map fun p =>
          { s with
            pool := some p
            dispatcher := .waiting
            log := { s.log with handed := s.log.handed ++ [task] } }
    | _, _ => none
  | .runHandlers =>
    match s.dispatcher with
    | .running task =>
      let log := { s.log with ended := s.log.ended ++ [task] }
      match task.run.2 with
      | .ok () => some { s with log, dispatcher := .waiting }
      | .error _ => some { s with log, dispatcher := .threw }
    | _ => none
  | .worker i a =>
    match s.pool with
    | some p =>
      (p.work i a).map fun p' =>
        { s with pool := some p', log := { s.log with ended := s.log.ended ++ p.ended p' } }
    | none => none
  | .retiredWorker i a =>
    match s.retired with
    | some p =>
      (p.work i a).map fun p' =>
        { s with retired := some p', log := { s.log with ended := s.log.ended ++ p.ended p' } }
    | none => none
  | .resize threads =>
    match s.resizer, s.poolLocked with
    | .away, false => some { s with resizer := .locked threads }
    | _, _ => none
  | .install =>
    match s.resizer with
    | .locked threads =>
      let pool := if threads = 0 then none else some (Pool.new threads)
      match s.pool with
      | none => some { s with pool, resizer := .away }
      | some old =>
        (old.step .shutdown).map fun old => { s with pool, retired := some old, resizer := .joining }
    | _ => none
  | .join =>
    match s.resizer, s.retired with
    | .joining, some p => (p.step .join).map fun p => { s with retired := some p }
    | _, _ => none
  | .unlock =>
    match s.resizer, s.retired with
    | .joining, some p =>
      if p.2.pool.joined = p.1 then some { s with retired := none, resizer := .away } else none
    | _, _ => none

/-- A client after `init`: the handler of updates is set. -/
def init (getOption : φ) (handler : η) : Pipeline ι φ η ω μ κ where
  adapter := { TdLibAdapter.new getOption with updateHandler := some handler }

end Pipeline

end CppGram.Backend
