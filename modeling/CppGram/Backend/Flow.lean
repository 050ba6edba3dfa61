import CppGram.Backend.Pipeline

/-!
# Where updates and tasks are

What every action of a `Pipeline` keeps. The adapter gives the updates of TDLib away in the order in
which they arrive (`Fed`); the dispatcher thread processes them in this order; and the tasks that they
come to are at one place each, while pools come and go (`Flow`).
-/

namespace CppGram.Backend
open Threads Transition

/-! ## Pools -/

namespace Pool

variable {τ : Type} {p p' : Pool τ}

/-- What a pool has accepted has ended or is outstanding. -/
lemma accounted (good : Watched.Good p.2) :
    (p.2.log.accepted : Multiset τ) = p.2.log.executed + p.outstanding := by
  rw [good.order, ← Multiset.coe_add, good.held, outstanding]
  abel

/-- What has been executed stays executed. -/
lemma executed_prefix {n : Nat} {w w' : Watched τ n} {a : Threads.Action τ n}
    (moved : Watched.Step w a w') : w.log.executed <+: w'.log.executed := by
  cases moved with
  | run busy => exact List.prefix_append _ _
  | _ => exact List.prefix_refl _

/-- Only `enqueue` accepts a task. -/
lemma accepted_eq {n : Nat} {w w' : Watched τ n} {a : Threads.Action τ n}
    (moved : Watched.Step w a w') (kind : ∀ task, a ≠ .enqueue task) :
    w'.log.accepted = w.log.accepted := by
  cases moved with
  | enqueue => exact absurd rfl (kind _)
  | _ => rfl

/-- A shutdown and a join execute nothing. -/
lemma executed_eq {n : Nat} {w w' : Watched τ n} {a : Threads.Action τ n}
    (moved : Watched.Step w a w') (kind : a = .shutdown ∨ a = .join) :
    w'.log.executed = w.log.executed := by
  cases moved with
  | run => rcases kind with kind | kind <;> cases kind
  | _ => rfl

/-- Only `shutdown` stops a pool. -/
lemma stop_eq {n : Nat} {w w' : Watched τ n} {a : Threads.Action τ n}
    (moved : Watched.Step w a w') (kind : a ≠ .shutdown) : w'.pool.stop = w.pool.stop := by
  cases moved with
  | shutdown => exact absurd rfl kind
  | _ => rfl

/-- What a step of a pool that is no `enqueue` does to its tasks: some of them end. -/
lemma step_spec {a : Threads.Action τ p.1} (taken : p.step a = some p')
    (good : Watched.Good p.2) (kind : ∀ task, a ≠ .enqueue task) :
    p'.1 = p.1 ∧ Watched.Good p'.2 ∧ p'.2.log.accepted = p.2.log.accepted ∧
      p.outstanding = p.ended p' + p'.outstanding := by
  obtain ⟨w, moved, rfl⟩ := Option.map_eq_some_iff.mp taken
  have cases := Watched.step_cases moved
  have good' : Watched.Good w := good.step moved
  have same := accepted_eq cases kind
  refine ⟨rfl, good', same, ?_⟩
  obtain ⟨more, executed⟩ := executed_prefix cases
  have before := accounted good
  have now := accounted (p := ⟨p.1, w⟩) good'
  rw [show (⟨p.1, w⟩ : Pool τ).2.log = w.log from rfl] at now
  rw [ended, ← executed, List.drop_left]
  rw [same, before, ← executed, ← Multiset.coe_add, add_assoc] at now
  exact add_left_cancel now

/-- Where no task is run none ends. -/
lemma quiet_spec {a : Threads.Action τ p.1} (taken : p.step a = some p')
    (good : Watched.Good p.2) (kind : a = .shutdown ∨ a = .join) :
    p'.1 = p.1 ∧ Watched.Good p'.2 ∧ p.outstanding = p'.outstanding := by
  have other : ∀ task, a ≠ .enqueue task := by
    rintro task rfl
    rcases kind with kind | kind <;> cases kind
  obtain ⟨size, good', -, less⟩ := step_spec taken good other
  obtain ⟨w, moved, rfl⟩ := Option.map_eq_some_iff.mp taken
  have same := executed_eq (Watched.step_cases moved) kind
  have none : p.ended ⟨p.1, w⟩ = [] := by rw [ended, same, List.drop_length]
  rw [none] at less
  exact ⟨size, good', less.trans (zero_add _)⟩

/-- What a step of a worker ends is what is not outstanding any longer. -/
lemma work_spec {i : Nat} {a : WorkerStep} (taken : p.work i a = some p')
    (good : Watched.Good p.2) :
    p'.1 = p.1 ∧ Watched.Good p'.2 ∧ p'.2.log.accepted = p.2.log.accepted ∧
      p.outstanding = p.ended p' + p'.outstanding ∧ p'.2.pool.stop = p.2.pool.stop := by
  rw [work] at taken
  split at taken
  · next inside =>
    have kind : ∀ task, (a.of ⟨i, inside⟩ : Threads.Action τ p.1) ≠ .enqueue task := by
      intro task same
      cases a <;> cases same
    have running : (a.of ⟨i, inside⟩ : Threads.Action τ p.1) ≠ .shutdown := by
      intro same
      cases a <;> cases same
    obtain ⟨size, good', same, less⟩ := step_spec taken good kind
    obtain ⟨w, moved, rfl⟩ := Option.map_eq_some_iff.mp taken
    exact ⟨size, good', same, less, stop_eq (Watched.step_cases moved) running⟩
  · cases taken

/-- A running pool takes a task. -/
lemma enqueue_spec {task : τ} (taken : p.step (.enqueue task) = some p')
    (good : Watched.Good p.2) (running : p.2.pool.stop = false) :
    p'.1 = p.1 ∧ Watched.Good p'.2 ∧ p'.2.log.accepted = p.2.log.accepted ++ [task] ∧
      p'.outstanding = p.outstanding + {task} ∧ p'.2.pool.stop = false := by
  obtain ⟨n, pool, log⟩ := p
  obtain ⟨w, moved, rfl⟩ := Option.map_eq_some_iff.mp taken
  have good' : Watched.Good w := good.step moved
  cases Watched.step_cases moved with
  | refuse stopped => cases running.symm.trans stopped
  | enqueue =>
    refine ⟨rfl, good', rfl, ?_, running⟩
    simp only [outstanding, ← Multiset.coe_add, Multiset.coe_singleton]
    abel

/-- A pool whose workers have all been joined has nothing left. -/
lemma outstanding_joined (good : Watched.Good p.2) (workers : 0 < p.1)
    (joined : p.2.pool.joined = p.1) : p.outstanding = 0 := by
  have gone : ∀ i : Fin p.1, p.2.pool.workers i = .exited := by
    intro i
    refine good.joined i ?_
    rw [joined]
    exact i.2
  have empty : p.2.pool.tasks = [] := (good.left ⟨0, workers⟩ (gone _)).2
  have held : ∑ i, (p.2.pool.workers i).held = 0 :=
    Finset.sum_eq_zero fun i _ => by rw [gone i]; rfl
  rw [outstanding, empty, held, Multiset.coe_nil, zero_add]

end Pool

/-! ## The adapter -/

namespace TdLibAdapter

variable {ι φ η ω : Type}

/-- The updates that have arrived are those given away, in the same order, and then those on the way. -/
structure Fed (s : TdLibAdapter ι φ η ω) (gone : List ω) : Prop where
  handler : s.updateHandler.isSome
  owners : ∀ id h, s.handlers id = some h → h.owner.isNone = false
  calling : ∀ h response, s.receiver = .calling h response →
    (h.owner.isNone ↔ response.requestId = 0)
  arrived : updates s.log.arrived = gone ++ updates (inHand s.receiver ++ s.queue)

lemma updates_append (a b : List (Response φ η ω)) : updates (a ++ b) = updates a ++ updates b := by
  rw [updates, List.filter_append, List.map_append, updates, updates]

/-- Only a call of the handler gives an update. -/
lemma given_of_ne {s : TdLibAdapter ι φ η ω} {a : Action ι φ η ω} (other : a ≠ .call) :
    s.given a = [] := by
  cases a with
  | call => exact absurd rfl other
  | _ => rfl

/-- A handler in the table belongs to a request. -/
lemma owner_of_register {handlers : UInt64 → Option (OwnedHandler φ η)} {request : Request φ η}
    (owners : ∀ id h, handlers id = some h → h.owner.isNone = false) (id : UInt64)
    (h : OwnedHandler φ η) (found : registerHandler handlers request id = some h) :
    h.owner.isNone = false := by
  cases registered : request.handler with
  | none =>
    simp only [registerHandler, registered] at found
    exact owners id h found
  | some handler =>
    simp only [registerHandler, registered] at found
    by_cases same : id = request.id
    · rw [same, Function.update_self] at found
      cases found
      rfl
    · rw [Function.update_of_ne same] at found
      exact owners id h found

/-- The loop takes a handler out of the table, or the one of updates. -/
lemma find_spec {s : TdLibAdapter ι φ η ω} {response : Response φ η ω}
    {found : Option (OwnedHandler φ η)} {handlers : UInt64 → Option (OwnedHandler φ η)}
    (owners : ∀ id h, s.handlers id = some h → h.owner.isNone = false)
    (looked : s.find response = (found, handlers)) :
    (∀ id h, handlers id = some h → h.owner.isNone = false) ∧
      ∀ h, found = some h → (h.owner.isNone ↔ response.requestId = 0) := by
  rw [find] at looked
  split at looked
  · next update =>
    obtain ⟨rfl, rfl⟩ := Prod.mk.inj looked
    refine ⟨owners, fun h there => ?_⟩
    obtain ⟨handler, -, rfl⟩ := Option.map_eq_some_iff.mp there
    exact ⟨fun _ => update, fun _ => rfl⟩
  · next request =>
    obtain ⟨rfl, rfl⟩ := Prod.mk.inj looked
    refine ⟨fun id h there => ?_, fun h there => ?_⟩
    · by_cases same : id = response.requestId
      · rw [same, Function.update_self] at there
        cases there
      · rw [Function.update_of_ne same] at there
        exact owners id h there
    · rw [owners _ h there]
      exact ⟨fun no => absurd no Bool.false_ne_true, fun yes => absurd yes request⟩

variable [DecidableEq ι]

/-- A step of the adapter keeps what has been given in order. -/
lemma Fed.step {s s' : TdLibAdapter ι φ η ω} {a : Action ι φ η ω} {gone : List ω}
    (fed : Fed s gone) (taken : s.step a = some s') (kind : ∀ h, a ≠ .setUpdateHandler h) :
    Fed s' (gone ++ s.given a) := by
  obtain ⟨handler, owners, calling, arrived⟩ := fed
  by_cases call : a = .call
  · subst call
    cases step_cases taken with
    | @call h response here =>
      have mine := calling h response here
      rw [here] at arrived
      refine ⟨handler, owners, (fun h response same => by cases same), ?_⟩
      simp only [given, here]
      rw [List.append_assoc]
      refine arrived.trans (congrArg (gone ++ ·) ?_)
      change updates ([response] ++ s.queue) = _
      rw [updates_append]
      refine congrArg (· ++ updates s.queue) ?_
      by_cases update : response.requestId = 0
      · rw [if_pos (mine.mpr update)]
        simp [updates, update]
      · rw [if_neg fun yes => update (mine.mp yes)]
        simp [updates, update]
  · rw [given_of_ne call, List.append_nil]
    cases step_cases taken with
    | number _ => exact ⟨handler, owners, calling, arrived⟩
    | register _ => exact ⟨handler, owner_of_register owners, calling, arrived⟩
    | send _ => exact ⟨handler, owners, calling, arrived⟩
    | setUpdateHandler => exact absurd rfl (kind _)
    | started => exact ⟨handler, owners, calling, arrived⟩
    | start here =>
      have empty : inHand s.receiver = [] := by rcases here with h | h <;> rw [h] <;> rfl
      rw [empty] at arrived
      exact ⟨handler, owners, (fun h response same => by cases same), arrived⟩
    | stop => exact ⟨handler, owners, calling, arrived⟩
    | update =>
      refine ⟨handler, owners, calling, ?_⟩
      rw [updates_append, arrived, List.append_assoc, ← updates_append, List.append_assoc]
    | answer =>
      refine ⟨handler, owners, calling, ?_⟩
      rw [updates_append, arrived, List.append_assoc, ← updates_append, List.append_assoc]
    | check here =>
      rw [here] at arrived
      cases looked : s.running with
      | false => exact ⟨handler, owners, (fun h response same => by cases same), arrived⟩
      | true => exact ⟨handler, owners, (fun h response same => by cases same), arrived⟩
    | receive here queued =>
      rw [here, queued] at arrived
      exact ⟨handler, owners, (fun h response same => by cases same), arrived⟩
    | timeout here =>
      rw [here] at arrived
      exact ⟨handler, owners, (fun h response same => by cases same), arrived⟩
    | found here looked =>
      obtain ⟨owners', mine⟩ := find_spec owners looked
      rw [here] at arrived
      refine ⟨handler, owners', fun h response same => ?_, arrived⟩
      cases same
      exact mine _ rfl
    | @missing response handlers here looked =>
      -- the handler of updates is set, so this is a response to a request
      have request : response.requestId ≠ 0 := by
        intro update
        rw [find, if_pos update] at looked
        obtain ⟨none, -⟩ := Prod.mk.inj looked
        rw [Option.map_eq_none_iff] at none
        rw [none] at handler
        cases handler
      rw [here] at arrived
      refine ⟨handler, (find_spec owners looked).1, (fun h response same => by cases same), ?_⟩
      refine arrived.trans (congrArg (gone ++ ·) ?_)
      change updates ([response] ++ s.queue) = updates ([] ++ s.queue)
      rw [updates_append, updates_append]
      simp [updates, request]
    | call => exact absurd rfl call

end TdLibAdapter

/-! ## The whole way -/

namespace Dispatcher

variable {μ κ : Type}

/-- The update that is being processed. -/
def update : Dispatcher μ κ → List (Update μ κ)
  | .processing u => [u]
  | _ => []

/-- The task that is to be handed over. -/
def pending : Dispatcher μ κ → List (Task μ κ)
  | .handing task | .submitting task => [task]
  | _ => []

/-- The task that the thread runs itself. -/
def inline : Dispatcher μ κ → List (Task μ κ)
  | .running task => [task]
  | _ => []

end Dispatcher

namespace Pipeline

variable {ι φ η ω μ κ : Type} {seen : ω → Update μ κ} {s s' : Pipeline ι φ η ω μ κ}

/-- The tasks that a pool, if there is one, has not ended. -/
def outstanding (pool : Option (Pool (Task μ κ))) : Multiset (Task μ κ) :=
  (pool.map Pool.outstanding).getD 0

/-- Where each update and each task is. -/
structure Flow (seen : ω → Update μ κ) (s : Pipeline ι φ η ω μ κ) : Prop where
  /-- The updates of TDLib have been taken by the dispatcher thread, are in its queue, or are on the way
      to it, in the order in which they arrived. -/
  arrived : (TdLibAdapter.updates s.adapter.log.arrived).map seen =
    s.log.taken ++ s.updateQueue ++ (TdLibAdapter.updates
      (TdLibAdapter.inHand s.adapter.receiver ++ s.adapter.queue)).map seen
  /-- Those taken are processed one after the other. -/
  taken : s.log.taken = s.log.dispatched.map Prod.snd ++ s.dispatcher.update
  /-- Each of them is handed over as the task that it comes to, if any, in this order. -/
  tasks : s.log.dispatched.filterMap (fun d => d.1.taskOf d.2) = s.log.handed ++ s.dispatcher.pending
  /-- Each task that was handed over has ended once, or is in one place. -/
  ended : (s.log.handed : Multiset (Task μ κ)) =
    s.log.ended + s.dispatcher.inline + outstanding s.pool + outstanding s.retired
  /-- The pool starts the tasks that were handed over since it is there, in this order, and refuses
      none. -/
  started : ∀ p, s.pool = some p → p.2.pool.stop = false ∧
    ∃ before, s.log.handed = before ++ (p.2.log.started ++ p.2.pool.tasks)

/-- A pool in use. -/
structure InUse (handed : List (Task μ κ)) (p : Pool (Task μ κ)) : Prop where
  good : Watched.Good p.2
  workers : 0 < p.1
  running : p.2.pool.stop = false
  recent : ∃ before, handed = before ++ p.2.log.accepted

/-- What every action keeps. -/
structure Kept (seen : ω → Update μ κ) (s : Pipeline ι φ η ω μ κ) : Prop where
  fed : ∃ gone, TdLibAdapter.Fed s.adapter gone ∧ gone.map seen = s.log.taken ++ s.updateQueue
  taken : s.log.taken = s.log.dispatched.map Prod.snd ++ s.dispatcher.update
  tasks : s.log.dispatched.filterMap (fun d => d.1.taskOf d.2) = s.log.handed ++ s.dispatcher.pending
  ended : (s.log.handed : Multiset (Task μ κ)) =
    s.log.ended + s.dispatcher.inline + outstanding s.pool + outstanding s.retired
  pool : ∀ p, s.pool = some p → InUse s.log.handed p
  retired : ∀ p, s.retired = some p → Watched.Good p.2 ∧ 0 < p.1
  free : s.resizer ≠ .joining → s.retired = none
  /-- Nobody hands a task over while the pool is resized. -/
  exclusive : s.resizer ≠ .away → ∀ task, s.dispatcher ≠ .submitting task
  /-- So a new pool is empty until the old one is gone. -/
  unused : s.resizer = .joining → ∀ p, s.pool = some p → p.2.log.accepted = []

/-- Everything is in its place before the first step. -/
lemma kept_init (getOption : φ) (handler : η) :
    Kept seen (init getOption handler : Pipeline ι φ η ω μ κ) where
  fed := ⟨[], ⟨rfl, (fun _ _ found => by cases found), (fun _ _ same => by cases same), rfl⟩, rfl⟩
  taken := rfl
  tasks := rfl
  ended := rfl
  pool _ same := by cases same
  retired _ same := by cases same
  free _ := rfl
  exclusive _ _ same := by cases same
  unused same := by cases same

/-- While the lock of the pool is free, nobody submits a task. -/
lemma not_submitting_of_unlocked (free : s.poolLocked = false) (task : Task μ κ) :
    s.dispatcher ≠ .submitting task := by
  intro here
  rw [poolLocked, here] at free
  cases free

/-- Only the dispatcher thread moves, and neither updates nor tasks change places in the pools. -/
lemma Kept.dispatcher_step (kept : Kept seen s) {dispatcher : Dispatcher μ κ} {log : FlowLog μ κ}
    {updateQueue : List (Update μ κ)}
    (queued : log.taken ++ updateQueue = s.log.taken ++ s.updateQueue)
    (taken : log.taken = log.dispatched.map Prod.snd ++ dispatcher.update)
    (tasks : log.dispatched.filterMap (fun d => d.1.taskOf d.2) = log.handed ++ dispatcher.pending)
    (handed : log.handed = s.log.handed)
    (ended : (log.ended : Multiset (Task μ κ)) + dispatcher.inline =
      s.log.ended + s.dispatcher.inline)
    (exclusive : s.resizer ≠ .away → ∀ task, dispatcher ≠ .submitting task) :
    Kept seen { s with dispatcher, log, updateQueue } := by
  obtain ⟨gone, fed, pushed⟩ := kept.fed
  refine ⟨⟨gone, fed, pushed.trans queued.symm⟩, taken, tasks, ?_, ?_, kept.retired, kept.free,
    exclusive, kept.unused⟩
  · change (log.handed : Multiset (Task μ κ)) = log.ended + dispatcher.inline + _ + _
    rw [handed, ended]
    exact kept.ended
  · intro p same
    change InUse log.handed p
    rw [handed]
    exact kept.pool p same

/-- A pool in use goes on. -/
lemma InUse.work {handed : List (Task μ κ)} {p p' : Pool (Task μ κ)} {i : Nat} {a : WorkerStep}
    (used : InUse handed p) (taken : p.work i a = some p') : InUse handed p' := by
  obtain ⟨size, good, same, -, stop⟩ := Pool.work_spec taken used.good
  exact ⟨good, size ▸ used.workers, stop.trans used.running, same ▸ used.recent⟩

lemma inUse_new (handed : List (Task μ κ)) (threads : Nat) : InUse handed (Pool.new threads) :=
  ⟨Watched.good_new, workerCount_pos threads, rfl, handed, (List.append_nil _).symm⟩

lemma outstanding_new (threads : Nat) : (Pool.new threads : Pool (Task μ κ)).outstanding = 0 := by
  simp [Pool.outstanding, Pool.new, Worker.held]

/-- What is kept says where each update and each task is. -/
lemma Kept.flow (kept : Kept seen s) : Flow seen s where
  arrived := by
    obtain ⟨gone, fed, pushed⟩ := kept.fed
    rw [fed.arrived, List.map_append, pushed]
  taken := kept.taken
  tasks := kept.tasks
  ended := kept.ended
  started p there := by
    have used := kept.pool p there
    obtain ⟨before, handed⟩ := used.recent
    exact ⟨used.running, before, by rw [handed, used.good.order]⟩

variable [DecidableEq ι]

/-- A step keeps it. -/
lemma kept_step {a : Action ι φ η ω μ κ} (kept : Kept seen s) (taken : s.step seen a = some s') :
    Kept seen s' := by
  cases a with
  | adapter a =>
    have other : ∀ h, a ≠ .setUpdateHandler h := by
      rintro h rfl
      cases taken
    have moved : (s.adapter.step a).map (fun adapter =>
        { s with adapter, updateQueue := s.updateQueue ++ (s.adapter.given a).map seen }) =
          some s' := by
      cases a with
      | setUpdateHandler h => exact absurd rfl (other h)
      | _ => exact taken
    obtain ⟨adapter, step, rfl⟩ := Option.map_eq_some_iff.mp moved
    obtain ⟨gone, fed, pushed⟩ := kept.fed
    refine { kept with fed := ⟨gone ++ s.adapter.given a, fed.step step other, ?_⟩ }
    rw [List.map_append, pushed, List.append_assoc]
  | configure client =>
    cases taken
    exact { kept with }
  | next =>
    simp only [step] at taken
    split at taken
    · next u updateQueue here queued =>
      cases taken
      refine kept.dispatcher_step ?_ ?_ ?_ rfl ?_ fun _ _ same => by cases same
      · rw [queued, List.append_assoc]
        rfl
      · rw [kept.taken, here]
        exact congrArg (· ++ [u]) (List.append_nil _)
      · have tasks := kept.tasks
        rw [here] at tasks
        exact tasks
      · rw [here]
        rfl
    · cases taken
  | dispatch =>
    simp only [step] at taken
    split at taken
    · next u here =>
      have done := kept.taken
      have tasks := kept.tasks
      rw [here] at done tasks
      have inline : (s.log.ended : Multiset (Task μ κ)) + ([] : List (Task μ κ)) =
          s.log.ended + s.dispatcher.inline := by
        rw [here]
        rfl
      have processed : s.log.taken =
          (s.log.dispatched ++ [(s.client, u)]).map Prod.snd ++ [] := by
        rw [List.map_append, List.append_nil]
        exact done
      rw [show (Dispatcher.processing u : Dispatcher μ κ).pending = [] from rfl, List.append_nil] at tasks
      split at taken
      · next task comes =>
        cases taken
        refine kept.dispatcher_step rfl processed ?_ rfl inline fun _ _ same => by
          cases same
        rw [List.filterMap_append, tasks, List.filterMap_cons, comes]
        rfl
      · next comes =>
        have same : (s.log.dispatched ++ [(s.client, u)]).filterMap (fun d => d.1.taskOf d.2) =
            s.log.handed ++ [] := by
          rw [List.filterMap_append, tasks, List.filterMap_cons, comes]
          rfl
        split at taken
        · cases taken
          exact kept.dispatcher_step rfl processed same rfl inline fun _ _ same => by
            cases same
        · cases taken
          exact kept.dispatcher_step rfl processed same rfl inline fun _ _ same => by
            cases same
    · cases taken
  | lock =>
    simp only [step] at taken
    split at taken
    · next task here free =>
      cases taken
      have away : s.resizer = .away := by
        rw [poolLocked, here] at free
        split at free
        · cases free
        · assumption
        · cases free
      refine kept.dispatcher_step rfl ?_ ?_ rfl ?_ fun busy => absurd away busy
      · rw [kept.taken, here]
        rfl
      · rw [kept.tasks, here]
        rfl
      · rw [here]
        rfl
    · cases taken
  | submit =>
    simp only [step] at taken
    split at taken
    · next task here none =>
      cases taken
      have free : s.resizer = .away := by
        by_contra busy
        exact kept.exclusive busy task here
      have tasks := kept.tasks
      rw [here] at tasks
      obtain ⟨gone, fed, pushed⟩ := kept.fed
      refine ⟨⟨gone, fed, pushed⟩, ?_, ?_, ?_, ?_, kept.retired, kept.free,
        fun busy => absurd free busy, kept.unused⟩
      · rw [kept.taken, here]
        rfl
      · exact tasks.trans (List.append_nil _).symm
      · have ended := kept.ended
        rw [here] at ended
        change ((s.log.handed ++ [task] : List (Task μ κ)) : Multiset (Task μ κ)) =
          s.log.ended + ([task] : List (Task μ κ)) + _ + _
        rw [← Multiset.coe_add, ended]
        change s.log.ended + (0 : Multiset (Task μ κ)) + _ + _ + _ = _
        abel
      · intro p same
        cases none.symm.trans same
    · next task p here there =>
      have used := kept.pool p there
      rw [if_neg (by rw [used.running]; exact Bool.false_ne_true)] at taken
      obtain ⟨p', moved, rfl⟩ := Option.map_eq_some_iff.mp taken
      obtain ⟨size, good, accepted, more, running⟩ := Pool.enqueue_spec moved used.good used.running
      have free : s.resizer = .away := by
        by_contra busy
        exact kept.exclusive busy task here
      have tasks := kept.tasks
      rw [here] at tasks
      obtain ⟨gone, fed, pushed⟩ := kept.fed
      refine ⟨⟨gone, fed, pushed⟩, ?_, ?_, ?_, ?_, kept.retired, kept.free,
        fun busy => absurd free busy, fun joining => by cases free.symm.trans joining⟩
      · rw [kept.taken, here]
        rfl
      · exact tasks.trans (List.append_nil _).symm
      · have ended := kept.ended
        rw [here, there] at ended
        change ((s.log.handed ++ [task] : List (Task μ κ)) : Multiset (Task μ κ)) =
          s.log.ended + (0 : Multiset (Task μ κ)) + p'.outstanding + _
        rw [← Multiset.coe_add, ended, more]
        change s.log.ended + (0 : Multiset (Task μ κ)) + p.outstanding + _ + {task} = _
        abel
      · intro q same
        cases same
        obtain ⟨before, handed⟩ := used.recent
        refine ⟨good, size ▸ used.workers, running, before, ?_⟩
        rw [accepted, ← List.append_assoc, ← handed]
    · cases taken
  | runHandlers =>
    simp only [step] at taken
    split at taken
    · next task here =>
      have ended : ((s.log.ended ++ [task] : List (Task μ κ)) : Multiset (Task μ κ)) +
          ([] : List (Task μ κ)) = s.log.ended + s.dispatcher.inline := by
        rw [here, ← Multiset.coe_add]
        exact add_zero _
      have done := kept.taken
      have tasks := kept.tasks
      rw [here] at done tasks
      split at taken
      · cases taken
        exact kept.dispatcher_step rfl done tasks rfl ended fun _ _ same => by cases same
      · cases taken
        exact kept.dispatcher_step rfl done tasks rfl ended fun _ _ same => by cases same
    · cases taken
  | worker i a =>
    simp only [step] at taken
    split at taken
    · next p there =>
      obtain ⟨p', moved, rfl⟩ := Option.map_eq_some_iff.mp taken
      have used := kept.pool p there
      obtain ⟨-, -, accepted, less, -⟩ := Pool.work_spec moved used.good
      have ended := kept.ended
      rw [there] at ended
      refine { kept with
        ended := ?_
        pool := fun q same => by
          cases same
          exact used.work moved
        unused := fun joining q same => by
          cases same
          exact accepted.trans (kept.unused joining p there) }
      change (s.log.handed : Multiset (Task μ κ)) =
        ((s.log.ended ++ p.ended p' : List (Task μ κ)) : Multiset (Task μ κ)) + _ + p'.outstanding + _
      rw [ended, ← Multiset.coe_add]
      change s.log.ended + _ + p.outstanding + _ = _
      rw [less]
      abel
    · cases taken
  | retiredWorker i a =>
    simp only [step] at taken
    split at taken
    · next p there =>
      obtain ⟨p', moved, rfl⟩ := Option.map_eq_some_iff.mp taken
      obtain ⟨good, workers⟩ := kept.retired p there
      obtain ⟨size, good', -, less, -⟩ := Pool.work_spec moved good
      have ended := kept.ended
      rw [there] at ended
      refine { kept with
        ended := ?_
        retired := fun q same => by
          cases same
          exact ⟨good', size ▸ workers⟩
        free := fun busy => by cases there.symm.trans (kept.free busy) }
      change (s.log.handed : Multiset (Task μ κ)) =
        ((s.log.ended ++ p.ended p' : List (Task μ κ)) : Multiset (Task μ κ)) + _ + _ + p'.outstanding
      rw [ended, ← Multiset.coe_add]
      change s.log.ended + _ + _ + p.outstanding = _
      rw [less]
      abel
    · cases taken
  | resize threads =>
    simp only [step] at taken
    split at taken
    · next here free =>
      cases taken
      refine { kept with
        free := fun _ => kept.free (by rw [here]; exact fun same => by cases same)
        exclusive := fun _ => not_submitting_of_unlocked (s := s) free
        unused := fun same => by cases same }
    · cases taken
  | install =>
    simp only [step] at taken
    split at taken
    · next threads here =>
      have idle : s.retired = none := kept.free (by rw [here]; exact fun same => by cases same)
      have exclusive := kept.exclusive (by rw [here]; exact fun same => by cases same)
      have fresh : ∀ p : Pool (Task μ κ), (if threads = 0 then none else some (Pool.new threads)) = some p →
          p = Pool.new threads := by
        intro p same
        split at same
        · cases same
        · exact (Option.some.inj same).symm
      have empty : outstanding (if threads = 0 then none else some (Pool.new threads)) =
          (0 : Multiset (Task μ κ)) := by
        split
        · rfl
        · exact outstanding_new threads
      have ended := kept.ended
      rw [idle] at ended
      split at taken
      · next absent =>
        cases taken
        rw [absent] at ended
        refine { kept with
          ended := ?_
          pool := fun p same => by
            rw [fresh p same]
            exact inUse_new _ threads
          free := fun _ => idle
          exclusive := fun busy => absurd rfl busy
          unused := fun joining => by cases joining }
        change _ = _ + _ + outstanding (if threads = 0 then none else some (Pool.new threads)) + _
        rw [empty, idle]
        exact ended
      · next old there =>
        obtain ⟨old', moved, rfl⟩ := Option.map_eq_some_iff.mp taken
        have used := kept.pool old there
        obtain ⟨size, good, same⟩ := Pool.quiet_spec moved used.good (.inl rfl)
        rw [there] at ended
        refine { kept with
          ended := ?_
          pool := fun p same => by
            rw [fresh p same]
            exact inUse_new _ threads
          retired := fun q same => by
            cases same
            exact ⟨good, size ▸ used.workers⟩
          free := fun busy => absurd rfl busy
          exclusive := fun _ => exclusive
          unused := fun _ p same => by
            rw [fresh p same]
            rfl }
        change _ = _ + _ + outstanding (if threads = 0 then none else some (Pool.new threads)) +
          old'.outstanding
        rw [ended, empty, ← same]
        change _ + _ + old.outstanding + (0 : Multiset (Task μ κ)) = _
        abel
    · cases taken
  | join =>
    simp only [step] at taken
    split at taken
    · next p here there =>
      obtain ⟨p', moved, rfl⟩ := Option.map_eq_some_iff.mp taken
      obtain ⟨good, workers⟩ := kept.retired p there
      obtain ⟨size, good', same⟩ := Pool.quiet_spec moved good (.inr rfl)
      have ended := kept.ended
      rw [there] at ended
      refine { kept with
        ended := ?_
        retired := fun q same => by
          cases same
          exact ⟨good', size ▸ workers⟩
        free := fun busy => absurd here busy }
      change _ = _ + _ + _ + p'.outstanding
      rw [← same]
      exact ended
    · cases taken
  | unlock =>
    simp only [step] at taken
    split at taken
    · next p here there =>
      split at taken
      · next joined =>
        cases taken
        obtain ⟨good, workers⟩ := kept.retired p there
        have ended := kept.ended
        rw [there] at ended
        refine { kept with
          ended := ?_
          retired := fun q same => by cases same
          free := fun _ => rfl
          exclusive := fun busy => absurd rfl busy
          unused := fun joining => by cases joining }
        rw [ended]
        change _ + _ + _ + p.outstanding = _ + _ + _ + 0
        rw [Pool.outstanding_joined good workers joined]
      · cases taken
    · cases taken

/-- Each update of TDLib and each task that it comes to is at one place, in its turn, whatever the
    threads of the client, of the pools and of those who set handlers or resize the pool do. -/
theorem flow_run {getOption : φ} {handler : η} {actions : List (Action ι φ η ω μ κ)}
    (ran : run (step seen) (init getOption handler) actions = some s) : Flow seen s :=
  (run_invariant kept_step (kept_init getOption handler) ran).flow

/-- A client whose pool is replaced while a task of it is waiting. -/
def replaced : List (Action Unit Unit Unit (Update Unit Unit) Unit Unit) :=
  [.resize 1, .install, .adapter .start, .adapter (.update (.newMessage (some ()))), .adapter .check,
    .adapter .receive, .adapter .lookUp, .adapter .call, .next, .dispatch, .lock, .submit, .resize 0,
    .install, .retiredWorker 0 .take, .retiredWorker 0 (.run false), .retiredWorker 0 .release,
    .retiredWorker 0 .count, .retiredWorker 0 .notify, .retiredWorker 0 .leave, .join]

/-- A task is handed to a pool that is then replaced. -/
theorem flow_run_replaced : ∃ s, run (step id) (init () ()) replaced = some s ∧
    s.log.handed.length = 1 ∧ Flow id s := by
  have counted : (run (step id) (init () ()) replaced).map (·.log.handed.length) = some 1 := rfl
  obtain ⟨s, ran, one⟩ := Option.map_eq_some_iff.mp counted
  exact ⟨s, ran, one, flow_run ran⟩

/-- When `setThreadPoolSize` returns after a resize, each task that was handed over so far has ended, but
    for one that the dispatcher thread may be running itself. -/
theorem resized_run {getOption : φ} {handler : η} {actions : List (Action ι φ η ω μ κ)}
    (ran : run (step seen) (init getOption handler) (actions ++ [.unlock]) = some s) :
    (s.log.handed : Multiset (Task μ κ)) = s.log.ended + s.dispatcher.inline := by
  obtain ⟨before, first, last⟩ := run_concat_eq_some.mp ran
  have kept := run_invariant kept_step (kept_init getOption handler) first
  have now := kept_step kept last
  have joining : before.resizer = .joining ∧ s.pool = before.pool ∧ s.retired = none := by
    simp only [step] at last
    split at last
    · next here _ =>
      split at last
      · cases last
        exact ⟨here, rfl, rfl⟩
      · cases last
    · cases last
  obtain ⟨here, pool, retired⟩ := joining
  have empty : outstanding s.pool = (0 : Multiset (Task μ κ)) := by
    cases there : s.pool with
    | none => rfl
    | some p =>
      have used := now.pool p there
      have accounted := Pool.accounted used.good
      rw [kept.unused here p (pool ▸ there)] at accounted
      exact (add_eq_zero.mp accounted.symm).2
  have ended := now.ended
  rw [empty, retired] at ended
  rw [ended]
  change _ + _ + (0 : Multiset (Task μ κ)) + 0 = _
  abel

/-- The same pool is gone when `setThreadPoolSize` returns. -/
theorem resized_run_replaced : ∃ s : Pipeline Unit Unit Unit (Update Unit Unit) Unit Unit,
    run (step id) (init () ()) (replaced ++ [.unlock]) = some s ∧ s.log.handed.length = 1 ∧
      (s.log.handed : Multiset (Task Unit Unit)) = s.log.ended + s.dispatcher.inline := by
  have counted : (run (step id) (init () ()) (replaced ++ [.unlock])).map
      (·.log.handed.length) = some 1 := rfl
  obtain ⟨s, ran, one⟩ := Option.map_eq_some_iff.mp counted
  exact ⟨s, ran, one, resized_run ran⟩

end Pipeline

end CppGram.Backend
