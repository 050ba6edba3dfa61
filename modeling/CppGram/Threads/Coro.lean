import Mathlib.Data.List.Basic
import Mathlib.Data.List.ReduceOption
import Mathlib.Logic.Function.Iterate

/-!
# Coroutine tasks

`coro.hpp` gives the client's asynchronous functions their `Task`: a coroutine that starts suspended,
runs when it is first awaited, hands its result to whoever awaits it and is destroyed with the `Task`
that owns it. `Machine` is the run of such coroutines on the thread that called `sync_wait`, over the
heap of their frames; `denote` is what a body means when an awaited task is a function that is called
once.
-/

namespace CppGram.Threads.Coro

/-- A value, or the text of an exception. -/
abbrev Outcome (V : Type) := Except String V

/-- The body of a coroutine over a program state `σ`. The tasks it owns are its local variables, in the
    order of their declarations. -/
inductive Body (σ V : Type) where
  | coReturn (v : V)
  | throw (e : String)
  /-- An ordinary call, in a block that catches or lets pass what it throws. -/
  | call (f : σ → Outcome V × σ) (k : Outcome V → Body σ V)
  /-- `Task t = child(...);` -/
  | start (child : Body σ V) (k : Body σ V)
  /-- `co_await std::move(t)`, in a block that catches or lets pass what it throws. -/
  | await (i : Nat) (k : Outcome V → Body σ V)
  /-- `t = std::move(u);`, or `t = Task{};` where there is no `u`. -/
  | assign (i : Nat) (source : Option Nat) (k : Body σ V)
  /-- `t.is_ready()` -/
  | isReady (i : Nat) (k : Bool → Body σ V)

/-- `std::runtime_error` of `await_resume` -/
def emptyTask : String := "Attempted to await empty Task"

/-- What `t = std::move(u)` makes of the variables. -/
def moved {α : Type} (empty : α) (ts : List α) (i : Nat) : Option Nat → List α
  | none => ts.set i empty
  | some j => (ts.set i (ts.getD j empty)).set j empty

/-! ## The frames and the machine -/

/-- `std::coroutine_handle`: of a task, or of the runner inside `sync_wait`. -/
inductive Handle where
  | runner
  | task (h : Nat)
  deriving DecidableEq, Repr

/-- Where a frame stands: before the rest of its body, in a `co_await`, or at its final suspension. -/
inductive Code (σ V : Type) where
  | body (b : Body σ V)
  | awaiting (i : Nat) (k : Outcome V → Body σ V)
  | finished

/-- A coroutine frame with its promise. -/
structure Frame (σ V : Type) where
  code : Code σ V
  /-- The handles of the tasks it owns. -/
  tasks : List (Option Nat) := []
  continuation : Option Handle := none
  value : Option V := none
  exception : Option String := none

/-- The frames allocated so far; a destroyed one is `none`. -/
abbrev Heap (σ V : Type) := List (Option (Frame σ V))

variable {σ V : Type}

/-- The frame behind a handle, if it has not been destroyed. -/
def frameAt (heap : Heap σ V) (h : Nat) : Option (Frame σ V) := heap.getD h none

namespace Frame

/-- `handle_.done()` -/
def done (frame : Frame σ V) : Bool :=
  match frame.code with
  | .finished => true
  | .body _ | .awaiting _ _ => false

/-- `return_value` and `unhandled_exception` -/
def settle (frame : Frame σ V) : Outcome V → Frame σ V
  | .ok v => { frame with value := some v }
  | .error e => { frame with exception := some e }

/-- `TaskPromise::result`; without an exception or a value it reads an empty optional. -/
def result (frame : Frame σ V) : Option (Outcome V) :=
  match frame.exception with
  | some e => some (.error e)
  | none => frame.value.map .ok

end Frame

/-- `handle_.destroy()`: a destroyed frame takes the tasks it owns with it. `none` is a second
    destruction. -/
def destroyAll : Nat → Heap σ V → List Nat → Option (Heap σ V)
  | _, heap, [] => some heap
  | 0, _, _ :: _ => none
  | fuel + 1, heap, h :: hs =>
    match frameAt heap h with
    | none => none
    | some frame => destroyAll fuel (heap.set h none) (frame.tasks.reduceOption ++ hs)

/-- A frame is destroyed at most once, so no more of them than there are. -/
def destroy (heap : Heap σ V) (hs : List Nat) : Option (Heap σ V) :=
  destroyAll heap.length heap hs

/-- `Task::is_ready`, and `await_ready` of its awaitable; `none` is a dangling handle. -/
def isReady (heap : Heap σ V) : Option Nat → Option Bool
  | none => some true
  | some h => (frameAt heap h).map Frame.done

/-- `await_resume` -/
def awaitResume (heap : Heap σ V) : Option Nat → Option (Outcome V)
  | none => some (.error emptyTask)
  | some h => (frameAt heap h).bind Frame.result

/-- Who runs: a coroutine, or the caller of `resume`. `undefined` is the use of a destroyed frame. -/
inductive Control where
  | resumed (h : Handle)
  | returned
  | undefined
  deriving DecidableEq, Repr

/-- `await_suspend` of `FinalAwaitable`; without a continuation it is `std::noop_coroutine`. -/
def finalSuspend : Option Handle → Control
  | some h => .resumed h
  | none => .returned

/-- Where the `runner` of `sync_wait` stands. -/
inductive Runner where
  | suspended
  | awaiting
  | finished
  deriving DecidableEq, Repr

/-- The thread inside `sync_wait`. -/
structure Machine (σ V : Type) where
  heap : Heap σ V
  state : σ
  control : Control
  /-- The parameter of `sync_wait`. -/
  task : Option Nat
  runner : Runner := .suspended
  /-- `res` or `exc`. -/
  result : Option (Outcome V) := none
  done : Bool := false

namespace Machine

/-- What the program does is undefined. -/
def fail (m : Machine σ V) : Machine σ V := { m with control := .undefined }

/-- The frame `h` goes on with `b`. -/
def goOn (m : Machine σ V) (h : Nat) (frame : Frame σ V) (b : Body σ V) : Machine σ V :=
  { m with heap := m.heap.set h (some { frame with code := .body b }) }

/-- The end of a body: its tasks are destroyed before its final suspension. -/
def finish (m : Machine σ V) (h : Nat) (frame : Frame σ V) (r : Outcome V) : Machine σ V :=
  match destroy m.heap frame.tasks.reduceOption with
  | none => m.fail
  | some heap =>
    { m with
      heap := heap.set h (some { frame.settle r with code := .finished, tasks := [] })
      control := finalSuspend frame.continuation }

/-- The `co_await` of `h` ends. -/
def endAwait (m : Machine σ V) (h : Nat) (frame : Frame σ V) (i : Nat)
    (k : Outcome V → Body σ V) : Machine σ V :=
  match awaitResume m.heap (frame.tasks.getD i none) with
  | none => m.fail
  | some r => m.goOn h frame (k r)

/-- `await_suspend`: the awaited task runs next, with the awaiting coroutine as its continuation. -/
def awaitSuspend (m : Machine σ V) (awaiting : Handle) (c : Nat) : Machine σ V :=
  match frameAt m.heap c with
  | none => m.fail
  | some child =>
    { m with
      heap := m.heap.set c (some { child with continuation := some awaiting })
      control := .resumed (.task c) }

/-- `operator=(Task&&)`; a task moved to itself stays. -/
def assign (m : Machine σ V) (h : Nat) (frame : Frame σ V) (i : Nat) (source : Option Nat)
    (k : Body σ V) : Machine σ V :=
  if source = some i ∨ frame.tasks.length ≤ i then m.goOn h frame k
  else
    match destroy m.heap (frame.tasks.getD i none).toList with
    | none => m.fail
    | some heap =>
      goOn { m with heap } h { frame with tasks := moved none frame.tasks i source } k

/-- `frame` runs its body up to the next point where it can be seen. -/
def resumeBody (m : Machine σ V) (h : Nat) (frame : Frame σ V) : Body σ V → Machine σ V
  | .coReturn v => m.finish h frame (.ok v)
  | .throw e => m.finish h frame (.error e)
  | .call f k => goOn { m with state := (f m.state).2 } h frame (k (f m.state).1)
  | .start child k =>
    goOn { m with heap := m.heap ++ [some { code := .body child }] } h
      { frame with tasks := frame.tasks ++ [some m.heap.length] } k
  | .await i k =>
    match isReady m.heap (frame.tasks.getD i none), frame.tasks.getD i none with
    | none, _ => m.fail
    | some true, _ => m.endAwait h frame i k
    | some false, none => m.fail
    | some false, some c =>
      awaitSuspend { m with heap := m.heap.set h (some { frame with code := .awaiting i k }) }
        (.task h) c
  | .assign i source k => m.assign h frame i source k
  | .isReady i k =>
    match isReady m.heap (frame.tasks.getD i none) with
    | none => m.fail
    | some r => m.goOn h frame (k r)

/-- The runner's `co_await` ends, and with it the runner, which nobody awaits. -/
def endRunner (m : Machine σ V) : Machine σ V :=
  match awaitResume m.heap m.task with
  | none => m.fail
  | some r => { m with result := some r, done := true, runner := .finished, control := .returned }

/-- The runner of `sync_wait` is resumed: it awaits the task, or has its result. -/
def resumeRunner (m : Machine σ V) : Machine σ V :=
  match m.runner with
  | .suspended =>
    match isReady m.heap m.task, m.task with
    | none, _ => m.fail
    | some true, _ => m.endRunner
    | some false, none => m.fail
    | some false, some c => awaitSuspend { m with runner := .awaiting } .runner c
  | .awaiting => m.endRunner
  | .finished => m.fail

/-- One step: what is resumed goes on to its next suspension. -/
def step (m : Machine σ V) : Machine σ V :=
  match m.control with
  | .resumed .runner => m.resumeRunner
  | .resumed (.task h) =>
    match frameAt m.heap h with
    | none => m.fail
    | some frame =>
      match frame.code with
      | .finished => m.fail
      | .awaiting i k => m.endAwait h frame i k
      | .body b => m.resumeBody h frame b
  | .returned | .undefined => m

/-- `run_task.handle().resume()` over the frames that are there when `sync_wait` is called. -/
def begin (heap : Heap σ V) (task : Option Nat) (s : σ) : Machine σ V :=
  { heap, state := s, control := .resumed .runner, task }

/-- What `sync_wait` gives once `resume` has returned: it waits for `done`, and its parameter is
    destroyed when it returns. -/
def leave (m : Machine σ V) : Option (Outcome V × σ × Heap σ V) :=
  match m.control, m.done with
  | .returned, true => do
    let r ← m.result
    let heap ← destroy m.heap m.task.toList
    return (r, m.state, heap)
  | _, _ => none

end Machine

/-- `sync_wait`, over `fuel` steps of the coroutines. -/
def syncWait (fuel : Nat) (heap : Heap σ V) (task : Option Nat) (s : σ) :
    Option (Outcome V × σ × Heap σ V) :=
  (Machine.step^[fuel] (Machine.begin heap task s)).leave

/-! ## What a body means -/

/-- A task variable as the body sees it: a call that is made when it is first awaited, and then its
    outcome. -/
inductive Local (σ V : Type) where
  | empty
  | lazy (run : σ → Outcome V × σ)
  | done (r : Outcome V)

/-- A task is ready to be awaited unless it has not been started. -/
def Local.isReady : Local σ V → Bool
  | .lazy _ => false
  | .empty | .done _ => true

/-- The outcome of a body and the state it leaves, with its tasks in `ls`. -/
def denote : Body σ V → List (Local σ V) → σ → Outcome V × σ
  | .coReturn v, _, s => (.ok v, s)
  | .throw e, _, s => (.error e, s)
  | .call f k, ls, s => denote (k (f s).1) ls (f s).2
  | .start child k, ls, s => denote k (ls ++ [.lazy (denote child [])]) s
  | .await i k, ls, s =>
    match ls.getD i .empty with
    | .empty => denote (k (.error emptyTask)) ls s
    | .lazy run => denote (k (run s).1) (ls.set i (.done (run s).1)) (run s).2
    | .done r => denote (k r) ls s
  | .assign i source k, ls, s =>
    denote k (if source = some i ∨ ls.length ≤ i then ls else moved .empty ls i source) s
  | .isReady i k, ls, s => denote (k (ls.getD i .empty).isReady) ls s

end CppGram.Threads.Coro
