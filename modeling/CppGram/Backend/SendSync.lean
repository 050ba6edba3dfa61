import CppGram.Backend.Matching

/-!
# Synchronous requests

`TdLibAdapter::send_sync` (C++ `tdlib_adapter.hpp`) sends a request with a handler that fulfils a promise
in the frame of the call, and waits for the promise. The handler has no more than a reference to the
frame: to call it twice, or when the call has returned, would set a promise that has its value already
or is gone. `sync_run` says that this does not happen, that a thread has its requests answered one after
the other, and that each call returns the response to its own request.
-/

namespace CppGram.Backend
open Transition

/-- A handler: that of the `send_sync` call of a thread, or one that was given to `send`. -/
inductive SyncHandler (ι η : Type) where
  | promise (i : ι)
  | other (handler : η)

/-- The frame of a `send_sync` call. -/
structure SyncFrame (ι φ η ω : Type) where
  request : Request φ (SyncHandler ι η)
  value : Option ω := none

/-- The adapter with the threads that are in `send_sync`. -/
structure SendSync (ι φ η ω : Type) where
  adapter : TdLibAdapter ι φ (SyncHandler ι η) ω
  frames : ι → Option (SyncFrame ι φ η ω) := fun _ => none
  /-- The requests of a thread that have come back, each with what the call returned. -/
  returned : ι → List (Request φ (SyncHandler ι η) × ω) := fun _ => []
  /-- A promise has been set that had its value or was gone. -/
  broken : Bool := false

/-- The request was sent by a `send_sync` of the thread. -/
def Request.calledBy {ι φ η : Type} [DecidableEq ι] (i : ι) (request : Request φ (SyncHandler ι η)) :
    Bool :=
  match request.handler with
  | some (.promise j) => j = i
  | _ => false

namespace SendSync

/-- What has been called for a request is something that the adapter has sent. -/
lemma called_mem {ι φ η ω : Type} {adapter : TdLibAdapter ι φ η ω} {request : Request φ η} {h object}
    (good : adapter.Good) (called : (⟨some request, h⟩, object) ∈ adapter.log.called) :
    request ∈ adapter.log.requests := by
  obtain ⟨-, arrived⟩ := good.matched.own request h object called
  apply good.sending.sent
  exact good.receiving.answers request (List.mem_filterMap.mpr ⟨_, arrived, rfl⟩)

variable {ι φ η ω : Type} [DecidableEq ι]

/-- What a thread does next. -/
inductive Action (ι φ η ω : Type) where
  /-- A thread calls `send_sync`: it makes the promise and takes a number. -/
  | sync (i : ι) (fn : φ)
  /-- `future.get()` returns. -/
  | get (i : ι)
  /-- Anything else that the adapter can do. -/
  | adapter (a : TdLibAdapter.Action ι φ (SyncHandler ι η) ω)

/-- Not a promise. -/
def plain : Option (SyncHandler ι η) → Bool
  | some (.promise _) => false
  | _ => true

/-- A thread in `send_sync` calls nothing else, and only `send_sync` makes promises. -/
def allowed (s : SendSync ι φ η ω) : TdLibAdapter.Action ι φ (SyncHandler ι η) ω → Bool
  | .number i _ handler => (s.frames i).isNone && plain handler
  | .setUpdateHandler handler => plain handler
  | _ => true

/-- A handler is called with an object. -/
def fulfil (s : SendSync ι φ η ω) (object : ω) : SyncHandler ι η → SendSync ι φ η ω
  | .other _ => s
  | .promise i =>
    match s.frames i with
    | some { request, value := none } =>
      { s with frames := Function.update s.frames i (some { request, value := some object }) }
    | _ => { s with broken := true }

/-- What the loop has in hand is called. -/
def calling (s : SendSync ι φ η ω) : TdLibAdapter.Action ι φ (SyncHandler ι η) ω →
    Option (SyncHandler ι η × ω)
  | .call =>
    match s.adapter.receiver with
    | .calling h response => some (h.handler, response.object)
    | _ => none
  | _ => none

/-- One step: a call of `send_sync` begins or gets its value, or one of the adapter. -/
def step (s : SendSync ι φ η ω) : Action ι φ η ω → Option (SendSync ι φ η ω)
  | .sync i fn =>
    let handler := some (.promise i)
    let request := ⟨s.adapter.log.requests.length, s.adapter.nextId, fn, handler⟩
    if (s.frames i).isNone then
      (s.adapter.step (.number i fn handler)).map fun adapter =>
        { s with adapter, frames := Function.update s.frames i (some { request }) }
    else none
  | .get i =>
    match s.frames i, s.adapter.senders i with
    | some { request, value := some object }, .idle =>
      some { s with
        frames := Function.update s.frames i none
        returned := Function.update s.returned i (s.returned i ++ [(request, object)]) }
    | _, _ => none
  | .adapter a =>
    if s.allowed a then
      (s.adapter.step a).map fun adapter =>
        match s.calling a with
        | some (handler, object) => { s with adapter }.fulfil object handler
        | none => { s with adapter }
    else none

/-- What a step can do: begin a call of `send_sync`, end one, call what the loop has in hand, or anything
    else that the adapter does. -/
inductive Steps (s : SendSync ι φ η ω) : Action ι φ η ω → SendSync ι φ η ω → Prop where
  | sync {i fn adapter request} :
    s.frames i = none →
    request = ⟨s.adapter.log.requests.length, s.adapter.nextId, fn, some (.promise i)⟩ →
    s.adapter.step (.number i fn (some (.promise i))) = some adapter →
    Steps s (.sync i fn)
      { s with adapter, frames := Function.update s.frames i (some { request }) }
  | get {i request object} :
    s.frames i = some ⟨request, some object⟩ →
    s.adapter.senders i = .idle →
    Steps s (.get i) { s with
      frames := Function.update s.frames i none
      returned := Function.update s.returned i (s.returned i ++ [(request, object)]) }
  | call {h response adapter} :
    s.adapter.receiver = .calling h response →
    s.adapter.step .call = some adapter →
    Steps s (.adapter .call) (fulfil { s with adapter } response.object h.handler)
  | adapter {a adapter} :
    a ≠ .call →
    s.allowed a = true →
    s.adapter.step a = some adapter →
    Steps s (.adapter a) { s with adapter }

/-- A step is one of the ways to step. -/
lemma step_cases {s s' : SendSync ι φ η ω} {a : Action ι φ η ω} (taken : s.step a = some s') :
    Steps s a s' := by
  cases a with
  | sync i fn =>
    simp only [step] at taken
    split at taken
    · next idle =>
      obtain ⟨adapter, stepped, rfl⟩ := Option.map_eq_some_iff.mp taken
      exact .sync (Option.isNone_iff_eq_none.mp idle) rfl stepped
    · cases taken
  | get i =>
    simp only [step] at taken
    split at taken
    · next request object here idle =>
      cases taken
      exact .get here idle
    · cases taken
  | adapter a =>
    simp only [step] at taken
    split at taken
    · next free =>
      obtain ⟨adapter, stepped, rfl⟩ := Option.map_eq_some_iff.mp taken
      cases TdLibAdapter.step_cases stepped with
      | @call h response here =>
        have calls : s.calling .call = some (h.handler, response.object) := by
          rw [calling, here]
        simp only [calls]
        exact .call here stepped
      | _ => exact .adapter nofun free stepped
    · cases taken

/-- What TDLib and the caller promise to the adapter. -/
def Promised (s : SendSync ι φ η ω) : Action ι φ η ω → Prop
  | .sync i fn => s.adapter.Promised (.number i fn (some (.promise i)))
  | .get _ => True
  | .adapter a => s.adapter.Promised a

/-! ## What every step keeps -/

/-- The frames and the log of the adapter fit together. -/
structure Framed (s : SendSync ι φ η ω) : Prop where
  good : s.adapter.Good
  /-- The requests of a thread are those it has got back and the one it waits for, in this order. -/
  order : ∀ i, s.adapter.log.requests.filter (·.calledBy i) =
    (s.returned i).map Prod.fst ++ ((s.frames i).map SyncFrame.request).toList
  /-- A value is that of the one call of the handler. -/
  returned : ∀ i request object, (request, object) ∈ s.returned i →
    (⟨some request, .promise i⟩, object) ∈ s.adapter.log.called
  fulfilled : ∀ i request object, s.frames i = some ⟨request, some object⟩ →
    (⟨some request, .promise i⟩, object) ∈ s.adapter.log.called
  waiting : ∀ i request, s.frames i = some ⟨request, none⟩ →
    ∀ h object, (⟨some request, h⟩, object) ∉ s.adapter.log.called
  updates : plain s.adapter.updateHandler = true
  whole : s.broken = false

/-- What is picked out once comes from one element. -/
lemma eq_of_nodup_filterMap {α β : Type} {f : α → Option β} {l : List α} (once : (l.filterMap f).Nodup)
    {a b : α} (left : a ∈ l) (right : b ∈ l) {x : β} (fa : f a = some x) (fb : f b = some x) :
    a = b := by
  by_contra other
  have apart := List.pairwise_filterMap.mp once
  have : Std.Symm fun a b => ∀ x, f a = some x → ∀ y, f b = some y → x ≠ y :=
    ⟨fun _ _ h y fb x fa e => h x fa y fb e.symm⟩
  exact apart.forall left right other x fa x fb rfl

variable {s s' : SendSync ι φ η ω} {request : Request φ (SyncHandler ι η)}

/-- A request with the promise of a thread was sent by `send_sync` of that thread alone. -/
lemma calledBy_iff {i j : ι} (mine : request.handler = some (.promise i)) :
    request.calledBy j ↔ i = j := by
  rw [Request.calledBy, mine, decide_eq_true_iff]

/-- A request without a promise was sent by no `send_sync`. -/
lemma not_calledBy (other : plain request.handler = true) (j : ι) : ¬ request.calledBy j := by
  rw [Request.calledBy]
  split
  · next i given =>
    rw [given] at other
    cases other
  · exact Bool.false_ne_true

/-- Where a thread is after one thread has gone somewhere else. -/
lemma update_cases {β : Type} {f : ι → β} {i j : ι} {x y : β} (here : Function.update f i x j = y) :
    j = i ∧ x = y ∨ j ≠ i ∧ f j = y := by
  by_cases same : j = i
  · subst same
    rw [Function.update_self] at here
    exact .inl ⟨rfl, here⟩
  · rw [Function.update_of_ne same] at here
    exact .inr ⟨same, here⟩

/-- The adapter does something that is no `send_sync` and calls nothing. -/
lemma Framed.move {adapter : TdLibAdapter ι φ (SyncHandler ι η) ω} (framed : s.Framed)
    (good : adapter.Good) (called : adapter.log.called = s.adapter.log.called)
    (requests : ∀ i, adapter.log.requests.filter (·.calledBy i) =
      s.adapter.log.requests.filter (·.calledBy i))
    (updates : plain adapter.updateHandler = true) : Framed { s with adapter } := by
  refine ⟨good, fun i => (requests i).trans (framed.order i), ?_, ?_, ?_, updates, framed.whole⟩
  · rw [called]
    exact framed.returned
  · rw [called]
    exact framed.fulfilled
  · rw [called]
    exact framed.waiting

/-- A call that begins has a frame of its own. -/
lemma Framed.sync {adapter : TdLibAdapter ι φ (SyncHandler ι η) ω} {i : ι} (framed : s.Framed)
    (good : adapter.Good) (idle : s.frames i = none)
    (called : adapter.log.called = s.adapter.log.called)
    (requests : adapter.log.requests = s.adapter.log.requests ++ [request])
    (updates : adapter.updateHandler = s.adapter.updateHandler)
    (mine : request.handler = some (.promise i)) (new : request ∉ s.adapter.log.requests) :
    Framed { s with adapter, frames := Function.update s.frames i (some { request }) } := by
  refine ⟨good, fun j => ?_, ?_, fun j r object here => ?_, fun j r here h object => ?_, ?_,
    framed.whole⟩
  · simp only [requests, List.filter_append, framed.order j]
    by_cases same : j = i
    · have this : request.calledBy i = true := by
        rw [Request.calledBy, mine]
        exact decide_eq_true rfl
      rw [same, idle, Function.update_self, List.filter_cons_of_pos this]
      exact congrArg (· ++ [request]) (List.append_nil _)
    · have this : ¬ request.calledBy j = true := by
        rw [Request.calledBy, mine]
        exact fun e => same (of_decide_eq_true e).symm
      rw [Function.update_of_ne same, List.filter_cons_of_neg this]
      exact List.append_nil _
  · rw [called]
    exact framed.returned
  · rw [called]
    rcases update_cases here with ⟨-, e⟩ | ⟨-, here⟩
    · cases e
    · exact framed.fulfilled j r object here
  · rw [called]
    rcases update_cases here with ⟨-, e⟩ | ⟨-, here⟩
    · cases e
      exact fun this => new (called_mem framed.good this)
    · exact framed.waiting j r here h object
  · exact (congrArg plain updates).trans framed.updates

/-- A call that returns takes its frame along, and its value to the caller. -/
lemma Framed.get {i : ι} {object : ω} (framed : s.Framed)
    (here : s.frames i = some ⟨request, some object⟩) :
    Framed { s with
      frames := Function.update s.frames i none
      returned := Function.update s.returned i (s.returned i ++ [(request, object)]) } := by
  refine ⟨framed.good, fun j => ?_, fun j r o there => ?_, fun j r o there => ?_,
    fun j r there => ?_, framed.updates, framed.whole⟩
  · by_cases same : j = i
    · subst same
      simp only [Function.update_self, framed.order j, here, List.map_append]
      exact (List.append_nil _).symm
    · simp only [Function.update_of_ne same, framed.order j]
  · dsimp only at there
    by_cases same : j = i
    · subst same
      rw [Function.update_self] at there
      rcases List.mem_append.mp there with old | new
      · exact framed.returned j r o old
      · cases List.mem_singleton.mp new
        exact framed.fulfilled j request object here
    · rw [Function.update_of_ne same] at there
      exact framed.returned j r o there
  · rcases update_cases there with ⟨-, e⟩ | ⟨-, there⟩
    · cases e
    · exact framed.fulfilled j r o there
  · rcases update_cases there with ⟨-, e⟩ | ⟨-, there⟩
    · cases e
    · exact framed.waiting j r there

/-- A handler of `send_sync` is called for the request of its own frame, which is there and has no value
    yet. -/
lemma Framed.frame {adapter : TdLibAdapter ι φ (SyncHandler ι η) ω} {owner response} {i : ι}
    (framed : s.Framed) (good : adapter.Good)
    (here : s.adapter.receiver = .calling ⟨owner, .promise i⟩ response)
    (called : adapter.log.called =
      s.adapter.log.called ++ [(⟨owner, .promise i⟩, response.object)]) :
    ∃ request, owner = some request ∧ s.frames i = some ⟨request, none⟩ := by
  obtain ⟨given, mine⟩ := TdLibAdapter.due_owner (framed.good.receiving.calling _ response here)
  cases owner with
  | none =>
    -- the handler of updates is no promise
    have due := framed.good.receiving.calling _ response here
    rw [given] at due
    obtain ⟨handler, set, e⟩ := Option.map_eq_some_iff.mp due
    cases e
    have := framed.updates
    rw [set] at this
    cases this
  | some request =>
    have registered := mine request rfl
    have sent : request ∈ s.adapter.log.requests := by
      refine framed.good.sending.sent request (framed.good.receiving.lookedUp_sent ?_)
      refine List.mem_filterMap.mpr ⟨response, List.mem_append_right _ ?_, congrArg _ given⟩
      rw [here]
      exact List.mem_cons_self
    have one := good.matched.once
    rw [called, List.filterMap_append] at one
    have fresh (o : ω) : (⟨some request, .promise i⟩, o) ∉ s.adapter.log.called := by
      intro old
      have member : request ∈ s.adapter.log.called.filterMap (·.1.owner) :=
        List.mem_filterMap.mpr ⟨_, old, rfl⟩
      exact List.disjoint_of_nodup_append one member List.mem_cons_self
    have listed : request ∈ s.adapter.log.requests.filter (·.calledBy i) := by
      refine List.mem_filter.mpr ⟨sent, ?_⟩
      rw [Request.calledBy, registered]
      exact decide_eq_true rfl
    rw [framed.order i] at listed
    rcases List.mem_append.mp listed with back | waits
    · obtain ⟨⟨r, o⟩, came, rfl⟩ := List.mem_map.mp back
      exact absurd (framed.returned i r o came) (fresh o)
    · obtain ⟨⟨r, value⟩, there, rfl⟩ := Option.map_eq_some_iff.mp (Option.mem_toList.mp waits)
      cases value with
      | none => exact ⟨_, rfl, there⟩
      | some o => exact absurd (framed.fulfilled i r o there) (fresh o)

/-- The request of a frame is one that was sent by `send_sync` of the thread. -/
lemma Framed.mine {i : ι} {frame} (framed : s.Framed) (here : s.frames i = some frame) :
    frame.request.handler = some (.promise i) := by
  have listed : frame.request ∈ s.adapter.log.requests.filter (·.calledBy i) := by
    rw [framed.order i, here]
    exact List.mem_append_right _ List.mem_cons_self
  have by_it := (List.mem_filter.mp listed).2
  rw [Request.calledBy] at by_it
  split at by_it
  · next j given =>
    rw [given, of_decide_eq_true by_it]
  · cases by_it

/-- The loop calls the handler it has in hand. -/
lemma Framed.call {adapter : TdLibAdapter ι φ (SyncHandler ι η) ω} {h response} (framed : s.Framed)
    (good : adapter.Good) (here : s.adapter.receiver = .calling h response)
    (called : adapter.log.called = s.adapter.log.called ++ [(h, response.object)])
    (requests : adapter.log.requests = s.adapter.log.requests)
    (updates : adapter.updateHandler = s.adapter.updateHandler) :
    (fulfil { s with adapter } response.object h.handler).Framed := by
  have more {c} (old : c ∈ s.adapter.log.called) : c ∈ adapter.log.called := by
    rw [called]
    exact List.mem_append_left _ old
  have set := (congrArg plain updates).trans framed.updates
  obtain ⟨-, registered⟩ := TdLibAdapter.due_owner (framed.good.receiving.calling h response here)
  -- a frame whose handler is not the one that is called still waits
  have waits {j r h' o} (there : s.frames j = some ⟨r, none⟩) (other : h.handler ≠ .promise j) :
      (⟨some r, h'⟩, o) ∉ adapter.log.called := by
    rw [called]
    intro this
    rcases List.mem_append.mp this with old | new
    · exact framed.waiting j r there h' o old
    · cases List.mem_singleton.mp new
      exact other (Option.some.inj ((registered r rfl).symm.trans (framed.mine there)))
  obtain ⟨owner, handler⟩ := h
  cases handler with
  | other handler =>
    exact ⟨good, fun i => (congrArg _ requests).trans (framed.order i),
      fun i r o there => more (framed.returned i r o there),
      fun i r o there => more (framed.fulfilled i r o there),
      fun i r there h o => waits there nofun, set, framed.whole⟩
  | promise i =>
    obtain ⟨request, rfl, frame⟩ := framed.frame good here called
    simp only [fulfil, frame]
    refine ⟨good, fun j => ?_, fun j r o there => more (framed.returned j r o there),
      fun j r o there => ?_, fun j r there h o => ?_, set, framed.whole⟩
    · refine (congrArg _ requests).trans ((framed.order j).trans ?_)
      by_cases same : j = i
      · subst same
        simp only [Function.update_self, frame, Option.map_some]
      · simp only [Function.update_of_ne same]
    · rcases update_cases there with ⟨rfl, e⟩ | ⟨-, there⟩
      · cases e
        rw [called]
        exact List.mem_append_right _ List.mem_cons_self
      · exact more (framed.fulfilled j r o there)
    · rcases update_cases there with ⟨-, e⟩ | ⟨other, there⟩
      · cases e
      · refine waits there fun e => other ?_
        cases e
        rfl

/-- A step keeps the frames in line with the promises. -/
lemma Framed.step {a : Action ι φ η ω} (framed : s.Framed) (promised : s.Promised a)
    (taken : s.step a = some s') : s'.Framed := by
  cases step_cases taken with
  | @sync i fn adapter request idle given stepped =>
    subst given
    have good := framed.good.step (a := .number i fn _) promised stepped
    cases TdLibAdapter.step_cases stepped with
    | number here =>
      refine framed.sync good idle rfl rfl rfl rfl fun old => ?_
      exact framed.good.numbering.fresh old rfl
  | get here idle => exact framed.get here
  | call here stepped =>
    have good := framed.good.step (a := .call) promised stepped
    cases TdLibAdapter.step_cases stepped with
    | call there =>
      cases here.symm.trans there
      exact framed.call good here rfl rfl rfl
  | adapter other free stepped =>
    have good := framed.good.step promised stepped
    cases TdLibAdapter.step_cases stepped with
    | @number i fn handler here =>
      refine framed.move good rfl (fun j => ?_) framed.updates
      obtain ⟨-, plain⟩ := Bool.and_eq_true_iff.mp free
      rw [List.filter_append, List.filter_cons_of_neg (not_calledBy plain j)]
      exact List.append_nil _
    | setUpdateHandler => exact framed.move good rfl (fun _ => rfl) free
    | call => exact absurd rfl other
    | register | send | started | start | stop | update | answer | check | receive | timeout | found
    | missing => exact framed.move good rfl (fun _ => rfl) framed.updates

/-! ## What has gone out -/

/-- The request that a thread waits for, once it has gone out. -/
def posted (s : SendSync ι φ η ω) (i : ι) : Option (Request φ (SyncHandler ι η)) :=
  match s.adapter.senders i with
  | .idle => (s.frames i).map SyncFrame.request
  | _ => none

/-- What `mgr_->send` has got, and what the threads in `send` are about to give it. -/
structure Posted (s : SendSync ι φ η ω) : Prop where
  once : s.adapter.log.sent.Nodup
  /-- The requests of a thread that have gone out are those it has got back and the one it waits for. -/
  order : ∀ i, s.adapter.log.sent.filter (·.calledBy i) =
    (s.returned i).map Prod.fst ++ (s.posted i).toList
  /-- A thread in `send` has the request of its frame, or one without a promise. -/
  inside : ∀ i r, (s.adapter.senders i).request = some r →
    (s.frames i).map SyncFrame.request = some r ∨
      (s.frames i).map SyncFrame.request = none ∧ ∀ j, ¬ r.calledBy j

/-- Nothing goes out, and no thread comes or goes. -/
lemma Posted.stay (posted : s.Posted) (sent : s'.adapter.log.sent = s.adapter.log.sent)
    (senders : s'.adapter.senders = s.adapter.senders) (returned : s'.returned = s.returned)
    (frames : ∀ i, (s'.frames i).map SyncFrame.request = (s.frames i).map SyncFrame.request) :
    s'.Posted := by
  refine ⟨?_, fun i => ?_, fun i r here => ?_⟩
  · rw [sent]
    exact posted.once
  · rw [sent, returned, SendSync.posted, senders, frames i]
    exact posted.order i
  · rw [senders] at here
    rw [frames i]
    exact posted.inside i r here

/-- A thread takes a number. -/
lemma Posted.number {adapter : TdLibAdapter ι φ (SyncHandler ι η) ω} {i : ι} {frames} (posted : s.Posted)
    (idle : s.frames i = none) (sent : adapter.log.sent = s.adapter.log.sent)
    (senders : adapter.senders = Function.update s.adapter.senders i (.numbered request))
    (others : ∀ j, j ≠ i → frames j = s.frames j)
    (inside : (frames i).map SyncFrame.request = some request ∨
      (frames i).map SyncFrame.request = none ∧ ∀ j, ¬ request.calledBy j) :
    Posted { s with adapter, frames } := by
  have before : s.posted i = none := by
    rw [SendSync.posted, idle]
    cases s.adapter.senders i <;> rfl
  refine ⟨?_, fun j => ?_, fun j r here => ?_⟩
  · rw [sent]
    exact posted.once
  · simp only [sent, posted.order j]
    refine congrArg _ (congrArg _ ?_)
    by_cases same : j = i
    · rw [same, before, SendSync.posted]
      simp only [senders, Function.update_self]
    · simp only [SendSync.posted, senders, Function.update_of_ne same, others j same]
  · simp only [senders] at here
    rcases TdLibAdapter.request_update here with ⟨rfl, mine⟩ | ⟨other, old⟩
    · cases mine
      exact inside
    · simp only [others j other]
      exact posted.inside j r old

/-- A thread puts its handler in the table. -/
lemma Posted.register {adapter : TdLibAdapter ι φ (SyncHandler ι η) ω} {i : ι} (posted : s.Posted)
    (here : s.adapter.senders i = .numbered request) (sent : adapter.log.sent = s.adapter.log.sent)
    (senders : adapter.senders = Function.update s.adapter.senders i (.registered request)) :
    Posted { s with adapter } := by
  refine ⟨?_, fun j => ?_, fun j r busy => ?_⟩
  · rw [sent]
    exact posted.once
  · simp only [sent, posted.order j]
    refine congrArg _ (congrArg _ ?_)
    by_cases same : j = i
    · simp only [SendSync.posted, senders, same, here, Function.update_self]
    · simp only [SendSync.posted, senders, Function.update_of_ne same]
  · simp only [senders] at busy
    rcases TdLibAdapter.request_update busy with ⟨rfl, mine⟩ | ⟨-, old⟩
    · cases mine
      exact posted.inside j request (congrArg Sender.request here)
    · exact posted.inside j r old

/-- A thread gives its request to TDLib. -/
lemma Posted.send {adapter : TdLibAdapter ι φ (SyncHandler ι η) ω} {i : ι} (posted : s.Posted)
    (framed : s.Framed) (here : s.adapter.senders i = .registered request)
    (sent : adapter.log.sent = s.adapter.log.sent ++ [request])
    (senders : adapter.senders = Function.update s.adapter.senders i .idle) :
    Posted { s with adapter } := by
  have busy := congrArg Sender.request here
  refine ⟨?_, fun j => ?_, fun j r busy => ?_⟩
  · rw [sent]
    have new := (framed.good.sending.busy i request busy).2
    exact posted.once.append (List.nodup_singleton _) (List.disjoint_singleton.mpr new)
  · simp only [sent, List.filter_append, posted.order j]
    by_cases same : j = i
    · have before : s.posted i = none := by
        rw [SendSync.posted, here]
      have after : SendSync.posted { s with adapter } i = (s.frames i).map SyncFrame.request := by
        simp only [SendSync.posted, senders, Function.update_self]
      simp only [same, before, after]
      rcases posted.inside i request busy with mine | ⟨none, other⟩
      · obtain ⟨frame, there, rfl⟩ := Option.map_eq_some_iff.mp mine
        rw [mine, List.filter_cons_of_pos ((calledBy_iff (framed.mine there)).mpr rfl)]
        exact congrArg (· ++ [frame.request]) (List.append_nil _)
      · rw [none, List.filter_cons_of_neg (other i)]
        exact List.append_nil _
    · have none : ¬ request.calledBy j := by
        rcases posted.inside i request busy with mine | ⟨-, other⟩
        · obtain ⟨frame, there, rfl⟩ := Option.map_eq_some_iff.mp mine
          exact fun by_it => same ((calledBy_iff (framed.mine there)).mp by_it).symm
        · exact other j
      simp only [SendSync.posted, senders, Function.update_of_ne same]
      rw [List.filter_cons_of_neg none]
      exact List.append_nil _
  · simp only [senders] at busy
    rcases TdLibAdapter.request_update busy with ⟨-, mine⟩ | ⟨-, old⟩
    · cases mine
    · exact posted.inside j r old

/-- A call returns. -/
lemma Posted.get {i : ι} {object : ω} (posted : s.Posted) (idle : s.adapter.senders i = .idle)
    (here : s.frames i = some ⟨request, some object⟩) :
    Posted { s with
      frames := Function.update s.frames i none
      returned := Function.update s.returned i (s.returned i ++ [(request, object)]) } := by
  refine ⟨posted.once, fun j => (posted.order j).trans ?_, fun j r busy => ?_⟩
  · by_cases same : j = i
    · subst same
      simp only [SendSync.posted, idle, here, Function.update_self, List.map_append]
      exact (List.append_nil _).symm
    · simp only [SendSync.posted, Function.update_of_ne same]
  · have other : j ≠ i := by
      rintro rfl
      dsimp only at busy
      rw [idle] at busy
      cases busy
    simp only [Function.update_of_ne other]
    exact posted.inside j r busy

/-- To fulfil a promise leaves the requests of the frames as they are. -/
lemma fulfil_request (object : ω) (handler : SyncHandler ι η) (j : ι) :
    ((s.fulfil object handler).frames j).map SyncFrame.request = (s.frames j).map SyncFrame.request := by
  cases handler with
  | other handler => rfl
  | promise i =>
    simp only [fulfil]
    split
    · next request here =>
      by_cases same : j = i
      · simp only [same, Function.update_self, here, Option.map_some]
      · simp only [Function.update_of_ne same]
    · rfl

/-- To fulfil a promise changes nothing but the frames. -/
lemma fulfil_frame (object : ω) (handler : SyncHandler ι η) :
    (s.fulfil object handler).adapter = s.adapter ∧ (s.fulfil object handler).returned = s.returned := by
  cases handler with
  | other handler => exact ⟨rfl, rfl⟩
  | promise i =>
    simp only [fulfil]
    split <;> exact ⟨rfl, rfl⟩

/-- The loop calls the handler it has in hand. -/
lemma Posted.call {adapter : TdLibAdapter ι φ (SyncHandler ι η) ω} (posted : s.Posted)
    (sent : adapter.log.sent = s.adapter.log.sent) (senders : adapter.senders = s.adapter.senders)
    (object : ω) (handler : SyncHandler ι η) :
    (fulfil { s with adapter } object handler).Posted := by
  obtain ⟨same, returned⟩ := fulfil_frame (s := { s with adapter }) object handler
  refine posted.stay ?_ ?_ returned (fulfil_request object handler)
  · rw [same]
    exact sent
  · rw [same]
    exact senders

/-- A step keeps what goes out in the order of the calls, each request once. -/
lemma Posted.step {a : Action ι φ η ω} (posted : s.Posted) (framed : s.Framed)
    (taken : s.step a = some s') : s'.Posted := by
  cases step_cases taken with
  | @sync i fn adapter request idle given stepped =>
    subst given
    cases TdLibAdapter.step_cases stepped with
    | number here =>
      refine posted.number idle rfl rfl (fun j other => Function.update_of_ne other _ _) (.inl ?_)
      rw [Function.update_self]
      rfl
  | get here idle => exact posted.get idle here
  | call here stepped =>
    cases TdLibAdapter.step_cases stepped with
    | call there =>
      refine posted.call ?_ ?_ _ _
      · rfl
      · rfl
  | adapter other free stepped =>
    cases TdLibAdapter.step_cases stepped with
    | @number i fn handler here =>
      obtain ⟨idle, plain⟩ := Bool.and_eq_true_iff.mp free
      have none := Option.isNone_iff_eq_none.mp idle
      exact posted.number none rfl rfl (fun _ _ => rfl) (.inr ⟨congrArg _ none, not_calledBy plain⟩)
    | register here => exact posted.register here rfl rfl
    | send here => exact posted.send framed here rfl rfl
    | call => exact absurd rfl other
    | setUpdateHandler | started | start | stop | update | answer | check | receive | timeout | found
    | missing => exact posted.stay rfl rfl rfl fun _ => rfl

/-- A thread that runs one `send_sync` after the other, beside whatever the others do, has its requests
    numbered and given to TDLib in this order, one at a time and each once; each call returns what TDLib
    has answered to its own request, and does so at the latest when the loop is done with the answer. No
    promise is set twice, or when its frame is gone. -/
theorem sync_run {getOption : φ} {actions : List (Action ι φ η ω)}
    (promised : Meets step Promised { adapter := TdLibAdapter.new getOption } actions)
    (ran : run step { adapter := TdLibAdapter.new getOption } actions = some s) :
    s.broken = false ∧ s.adapter.log.sent.Nodup ∧ ∀ i,
      s.adapter.log.requests.filter (·.calledBy i) =
        (s.returned i).map Prod.fst ++ ((s.frames i).map SyncFrame.request).toList ∧
      s.adapter.log.sent.filter (·.calledBy i) =
        (s.returned i).map Prod.fst ++ (s.posted i).toList ∧
      (∀ request object, (request, object) ∈ s.returned i →
        ⟨some request, object⟩ ∈ s.adapter.log.arrived) ∧
      ∀ frame, s.frames i = some frame → ∀ object,
        ⟨some frame.request, object⟩ ∈ s.adapter.log.processed → frame.value = some object := by
  have start : Framed ({ adapter := TdLibAdapter.new getOption } : SendSync ι φ η ω) :=
    ⟨TdLibAdapter.good_new getOption, fun _ => rfl, nofun, nofun, nofun, rfl, rfl⟩
  have none : Posted ({ adapter := TdLibAdapter.new getOption } : SendSync ι φ η ω) :=
    ⟨List.nodup_singleton _, fun _ => rfl, nofun⟩
  obtain ⟨framed, posted⟩ := run_invariant_under (I := fun s => s.Framed ∧ s.Posted)
    (fun good promised taken => ⟨good.1.step promised taken, good.2.step good.1 taken⟩) ⟨start, none⟩
    promised ran
  have matched := framed.good.matched
  refine ⟨framed.whole, posted.once, fun i => ⟨framed.order i, posted.order i,
    fun request object there => ?_, fun frame here object processed => ?_⟩⟩
  · exact (matched.own request _ object (framed.returned i request object there)).2
  · have called := matched.called frame.request _ object processed (framed.mine here)
    obtain ⟨request, value⟩ := frame
    cases value with
    | none => exact absurd called (framed.waiting i request here _ _)
    | some value =>
      -- TDLib has answered the request once
      have also := framed.fulfilled i request value here
      cases eq_of_nodup_filterMap matched.once also called rfl rfl
      rfl

/-- A call that TDLib answers while an update is in the queue. -/
theorem sync_run_returned : ∃ s : SendSync Unit String Nat String,
    s.returned () = [(⟨1, 2, "getMe", some (.promise ())⟩, "user")] ∧ s.broken = false ∧
      s.adapter.log.sent.Nodup := by
  let actions : List (Action Unit String Nat String) := [.adapter (.setUpdateHandler (some (.other 0))),
    .adapter .start, .sync () "getMe", .adapter (.register ()), .adapter (.send ()),
    .adapter (.update "updateUser"), .adapter (.answer ⟨1, 2, "getMe", some (.promise ())⟩ "user"),
    .adapter .check, .adapter .receive, .adapter .lookUp, .adapter .call, .adapter .check,
    .adapter .receive, .adapter .lookUp, .adapter .call, .get ()]
  have promised : Meets step Promised { adapter := TdLibAdapter.new "getOption" } actions := by
    refine (meets_cons rfl).mpr ⟨trivial, ?_⟩
    refine (meets_cons rfl).mpr ⟨rfl, ?_⟩
    refine (meets_cons rfl).mpr ⟨(by decide : 1 + 1 < 2 ^ 64 - 1), ?_⟩
    refine (meets_cons rfl).mpr ⟨trivial, (meets_cons rfl).mpr ⟨trivial, ?_⟩⟩
    refine (meets_cons rfl).mpr ⟨trivial, ?_⟩
    refine (meets_cons rfl).mpr ⟨⟨?_, ?_⟩, ?_⟩
    · exact List.mem_cons_of_mem _ List.mem_cons_self
    · rintro response arrived
      cases List.mem_singleton.mp arrived
      exact Option.some_ne_none _ ∘ Eq.symm
    refine (meets_cons rfl).mpr ⟨trivial, (meets_cons rfl).mpr ⟨trivial, ?_⟩⟩
    refine (meets_cons rfl).mpr ⟨trivial, (meets_cons rfl).mpr ⟨trivial, ?_⟩⟩
    refine (meets_cons rfl).mpr ⟨trivial, (meets_cons rfl).mpr ⟨trivial, ?_⟩⟩
    refine (meets_cons rfl).mpr ⟨trivial, (meets_cons rfl).mpr ⟨trivial, ?_⟩⟩
    exact (meets_cons rfl).mpr ⟨trivial, meets_nil _⟩
  obtain ⟨whole, once, -⟩ := sync_run promised rfl
  exact ⟨_, rfl, whole, once⟩

end SendSync

end CppGram.Backend
