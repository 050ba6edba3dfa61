import CppGram.Lib.Transition
import Mathlib.Data.List.Nodup
import Mathlib.Logic.Function.Basic

/-!
# Requests and their responses

`TdLibAdapter` (C++ `tdlib_adapter.hpp`) as its threads see it: any number of threads that call `send`
(`send_sync` is a `send` whose handler fulfils a promise), the thread of `recv_loop`, and TDLib, which
brings responses and updates. What happens under `handlers_mtx_` is one action, and so is each step
outside of it. A handler carries the request it was registered for, so that the log can tell handlers
apart that are copies of one function.

`Promised` is what TDLib and `ClientImpl::init` promise, and `Matched` what is asked of the adapter for
it; `Step` says what each action does.
-/

namespace CppGram.Backend
open Transition

/-- A call of `send`, with the number of calls before it. -/
structure Request (φ η : Type) where
  number : Nat
  id : UInt64
  fn : φ
  handler : Option η
  deriving DecidableEq

/-- A handler and the request it was registered for, or none if it is the handler of updates. -/
structure OwnedHandler (φ η : Type) where
  owner : Option (Request φ η)
  handler : η
  deriving DecidableEq

/-- What `mgr_->receive` returns: the response to a request, or an update. -/
structure Response (φ η ω : Type) where
  origin : Option (Request φ η)
  object : ω
  deriving DecidableEq

/-- `response.request_id`. -/
def Response.requestId {φ η ω : Type} (response : Response φ η ω) : UInt64 :=
  match response.origin with
  | some request => request.id
  | none => 0

/-- Where a thread is in `send`. -/
inductive Sender (φ η : Type) where
  | idle
  /-- It has its number. -/
  | numbered (request : Request φ η)
  /-- It has put its handler, if there is one, in the table. -/
  | registered (request : Request φ η)

/-- Where the thread of `recv_loop` is. -/
inductive Receiver (φ η ω : Type) where
  /-- Not started. -/
  | off
  /-- At `while (running_)`. -/
  | checking
  /-- In `mgr_->receive`. -/
  | receiving
  /-- In front of the lock of `handlers_mtx_`. -/
  | received (response : Response φ η ω)
  /-- At `h(std::move(response.object))`. -/
  | calling (h : OwnedHandler φ η) (response : Response φ η ω)
  | exited

/-- The calls of `send` and those whose request TDLib has, what TDLib has brought and what of it the loop
    is done with, and the calls of handlers; each in this order. -/
structure Log (φ η ω : Type) where
  requests : List (Request φ η) := []
  sent : List (Request φ η) := []
  arrived : List (Response φ η ω) := []
  processed : List (Response φ η ω) := []
  called : List (OwnedHandler φ η × ω) := []

/-- C++ `class TdLibAdapter`, with its threads and what TDLib has for it. -/
structure TdLibAdapter (ι φ η ω : Type) where
  running : Bool := false
  nextId : UInt64 := 1
  handlers : UInt64 → Option (OwnedHandler φ η) := fun _ => none
  updateHandler : Option η := none
  senders : ι → Sender φ η := fun _ => .idle
  receiver : Receiver φ η ω := .off
  queue : List (Response φ η ω) := []
  log : Log φ η ω := {}

namespace TdLibAdapter

variable {ι φ η ω : Type} [DecidableEq ι]

/-- What a thread does next. -/
inductive Action (ι φ η ω : Type) where
  /-- A thread calls `send` and takes a number. -/
  | number (i : ι) (fn : φ) (handler : Option η)
  /-- It registers its handler. -/
  | register (i : ι)
  /-- It calls `mgr_->send` and returns. -/
  | send (i : ι)
  | setUpdateHandler (h : Option η)
  | start
  /-- `running_ = false`. -/
  | stop
  /-- TDLib brings an update. -/
  | update (object : ω)
  /-- TDLib brings a response. -/
  | answer (request : Request φ η) (object : ω)
  /-- The loop looks at `running_`. -/
  | check
  /-- `mgr_->receive` returns a response. -/
  | receive
  /-- `mgr_->receive` returns without an object. -/
  | timeout
  /-- The loop looks up the handler and takes it out of the table. -/
  | lookUp
  /-- The loop calls the handler. -/
  | call

/-- The constructor, which sends a request without a handler. -/
def new (getOption : φ) : TdLibAdapter ι φ η ω :=
  let request : Request φ η := { number := 0, id := 1, fn := getOption, handler := none }
  { nextId := 2, log := { requests := [request], sent := [request] } }

/-- Put thread `i` to another place in `send`. -/
def put (s : TdLibAdapter ι φ η ω) (i : ι) (sender : Sender φ η) : TdLibAdapter ι φ η ω :=
  { s with senders := Function.update s.senders i sender }

/-- `handlers_[id] = std::move(handler)`, if there is a handler. -/
def registerHandler (handlers : UInt64 → Option (OwnedHandler φ η)) (request : Request φ η) :
    UInt64 → Option (OwnedHandler φ η) :=
  match request.handler with
  | some handler =>
    Function.update handlers request.id (some { owner := some request, handler })
  | none => handlers

/-- What the loop does with a response under `handlers_mtx_`: the handler, and the table that is left. -/
def find (s : TdLibAdapter ι φ η ω) (response : Response φ η ω) :
    Option (OwnedHandler φ η) × (UInt64 → Option (OwnedHandler φ η)) :=
  if response.requestId = 0 then
    (s.updateHandler.map fun handler => { owner := none, handler }, s.handlers)
  else
    (s.handlers response.requestId, Function.update s.handlers response.requestId none)

/-- The loop is done with a response. -/
def Log.process (log : Log φ η ω) (response : Response φ η ω) : Log φ η ω :=
  { log with processed := log.processed ++ [response] }

/-- What an action makes of the system, if it can be taken. -/
def step (s : TdLibAdapter ι φ η ω) : Action ι φ η ω → Option (TdLibAdapter ι φ η ω)
  | .number i fn handler =>
    match s.senders i with
    | .idle =>
      let request := { number := s.log.requests.length, id := s.nextId, fn, handler }
      some { s.put i (.numbered request) with
        nextId := s.nextId + 1
        log := { s.log with requests := s.log.requests ++ [request] } }
    | _ => none
  | .register i =>
    match s.senders i with
    | .numbered request =>
      some { s.put i (.registered request) with handlers := registerHandler s.handlers request }
    | _ => none
  | .send i =>
    match s.senders i with
    | .registered request =>
      some { s.put i .idle with log := { s.log with sent := s.log.sent ++ [request] } }
    | _ => none
  | .setUpdateHandler h => some { s with updateHandler := h }
  | .start =>
    if s.running then some s
    else
      match s.receiver with
      | .off | .exited => some { s with running := true, receiver := .checking }
      | _ => none
  | .stop => some { s with running := false }
  | .update object =>
    some { s with
      queue := s.queue ++ [{ origin := none, object }]
      log := { s.log with arrived := s.log.arrived ++ [{ origin := none, object }] } }
  | .answer request object =>
    some { s with
      queue := s.queue ++ [{ origin := some request, object }]
      log := { s.log with arrived := s.log.arrived ++ [{ origin := some request, object }] } }
  | .check =>
    match s.receiver with
    | .checking => some { s with receiver := if s.running then .receiving else .exited }
    | _ => none
  | .receive =>
    match s.receiver, s.queue with
    | .receiving, response :: queue => some { s with queue, receiver := .received response }
    | _, _ => none
  | .timeout =>
    match s.receiver with
    | .receiving => some { s with receiver := .checking }
    | _ => none
  | .lookUp =>
    match s.receiver with
    | .received response =>
      match s.find response with
      | (some h, handlers) => some { s with handlers, receiver := .calling h response }
      | (none, handlers) =>
        some { s with handlers, receiver := .checking, log := Log.process s.log response }
    | _ => none
  | .call =>
    match s.receiver with
    | .calling h response =>
      some { s with
        receiver := .checking
        log := { Log.process s.log response with
          called := s.log.called ++ [(h, response.object)] } }
    | _ => none

/-- What TDLib and the caller promise: fewer than 2⁶⁴ - 1 requests; a response only to a request that
    TDLib has got and has not answered; and that the handler of updates is set before the loop is
    started. -/
def Promised (s : TdLibAdapter ι φ η ω) : Action ι φ η ω → Prop
  | .number _ _ _ => s.log.requests.length + 1 < 2 ^ 64 - 1
  | .answer request _ =>
    request ∈ s.log.sent ∧ ∀ response ∈ s.log.arrived, response.origin ≠ some request
  | .setUpdateHandler _ => match s.receiver with
    | .off => True
    | _ => False
  | .start => s.updateHandler.isSome
  | _ => True

/-- Handlers and responses match. -/
structure Matched (s : TdLibAdapter ι φ η ω) : Prop where
  /-- A handler registered for a request is called only with a response to it. -/
  own : ∀ request handler object, (⟨some request, handler⟩, object) ∈ s.log.called →
    request.handler = some handler ∧ ⟨some request, object⟩ ∈ s.log.arrived
  /-- It is called at most once. -/
  once : (s.log.called.filterMap (·.1.owner)).Nodup
  /-- It has been called once the response is processed. -/
  called : ∀ request handler object, ⟨some request, object⟩ ∈ s.log.processed →
    request.handler = some handler → (⟨some request, handler⟩, object) ∈ s.log.called
  /-- Responses and updates are processed in the order of arrival. -/
  order : s.log.processed <+: s.log.arrived
  /-- Nothing is processed before the handler of updates is set. -/
  unset : s.updateHandler = none → s.log.processed = []
  /-- It is called with each update processed, in this order. -/
  updates : ∀ handler, s.updateHandler = some handler →
    (s.log.called.filter fun call => call.1.owner.isNone) =
      (s.log.processed.filter fun response => response.origin.isNone).map
        fun response => (⟨none, handler⟩, response.object)
  /-- Once a response is processed, no handler for its id is left. -/
  cleared : ∀ request object, ⟨some request, object⟩ ∈ s.log.processed →
    s.handlers request.id = none

/-! ## What an action does -/

/-- What a step of the adapter does, action by action. -/
inductive Step : TdLibAdapter ι φ η ω → Action ι φ η ω → TdLibAdapter ι φ η ω → Prop where
  | number {s i fn handler} :
    s.senders i = .idle →
    Step s (.number i fn handler)
      { s.put i (.numbered ⟨s.log.requests.length, s.nextId, fn, handler⟩) with
        nextId := s.nextId + 1
        log := { s.log with
          requests := s.log.requests ++ [⟨s.log.requests.length, s.nextId, fn, handler⟩] } }
  | register {s i request} :
    s.senders i = .numbered request →
    Step s (.register i)
      { s.put i (.registered request) with handlers := registerHandler s.handlers request }
  | send {s i request} :
    s.senders i = .registered request →
    Step s (.send i)
      { s.put i .idle with log := { s.log with sent := s.log.sent ++ [request] } }
  | setUpdateHandler {s h} :
    Step s (.setUpdateHandler h) { s with updateHandler := h }
  | started {s} :
    Step s .start s
  | start {s} :
    s.receiver = .off ∨ s.receiver = .exited →
    Step s .start { s with running := true, receiver := .checking }
  | stop {s} :
    Step s .stop { s with running := false }
  | update {s object} :
    Step s (.update object)
      { s with
        queue := s.queue ++ [⟨none, object⟩]
        log := { s.log with arrived := s.log.arrived ++ [⟨none, object⟩] } }
  | answer {s request object} :
    Step s (.answer request object)
      { s with
        queue := s.queue ++ [⟨some request, object⟩]
        log := { s.log with arrived := s.log.arrived ++ [⟨some request, object⟩] } }
  | check {s} :
    s.receiver = .checking →
    Step s .check { s with receiver := if s.running then .receiving else .exited }
  | receive {s response queue} :
    s.receiver = .receiving →
    s.queue = response :: queue →
    Step s .receive { s with queue, receiver := .received response }
  | timeout {s} :
    s.receiver = .receiving →
    Step s .timeout { s with receiver := .checking }
  | found {s response h handlers} :
    s.receiver = .received response →
    s.find response = (some h, handlers) →
    Step s .lookUp { s with handlers, receiver := .calling h response }
  | missing {s response handlers} :
    s.receiver = .received response →
    s.find response = (none, handlers) →
    Step s .lookUp
      { s with handlers, receiver := .checking, log := Log.process s.log response }
  | call {s h response} :
    s.receiver = .calling h response →
    Step s .call
      { s with
        receiver := .checking
        log := { Log.process s.log response with
          called := s.log.called ++ [(h, response.object)] } }

/-- A step is what the action does. -/
lemma step_cases {s s' : TdLibAdapter ι φ η ω} {a : Action ι φ η ω} (taken : s.step a = some s') :
    Step s a s' := by
  cases a with
  | number i fn handler =>
    simp only [step] at taken
    split at taken
    · next here =>
      cases taken
      exact .number here
    · cases taken
  | register i =>
    simp only [step] at taken
    split at taken
    · next here =>
      cases taken
      exact .register here
    · cases taken
  | send i =>
    simp only [step] at taken
    split at taken
    · next here =>
      cases taken
      exact .send here
    · cases taken
  | setUpdateHandler h =>
    cases taken
    exact .setUpdateHandler
  | start =>
    simp only [step] at taken
    split at taken
    · cases taken
      exact .started
    · split at taken
      · next here =>
        cases taken
        exact .start (.inl here)
      · next here =>
        cases taken
        exact .start (.inr here)
      · cases taken
  | stop =>
    cases taken
    exact .stop
  | update object =>
    cases taken
    exact .update
  | answer request object =>
    cases taken
    exact .answer
  | check =>
    simp only [step] at taken
    split at taken
    · next here =>
      cases taken
      exact .check here
    · cases taken
  | receive =>
    simp only [step] at taken
    split at taken
    · next here queued =>
      cases taken
      exact .receive here queued
    · cases taken
  | timeout =>
    simp only [step] at taken
    split at taken
    · next here =>
      cases taken
      exact .timeout here
    · cases taken
  | lookUp =>
    simp only [step] at taken
    split at taken
    · next here =>
      split at taken
      · next found =>
        cases taken
        exact .found here found
      · next missing =>
        cases taken
        exact .missing here missing
    · cases taken
  | call =>
    simp only [step] at taken
    split at taken
    · next here =>
      cases taken
      exact .call here
    · cases taken

end TdLibAdapter

end CppGram.Backend
