import CppGram.Backend.TdLibAdapter

/-!
# Responses reach the handlers of their requests

`Good` is what holds of a `TdLibAdapter` as long as TDLib and `ClientImpl::init` keep their promises: the
requests have ids of their own, and the table has the handler of a request from the time it is registered
until its response is looked up. `matched_run` is what this comes to.
-/

namespace CppGram.Backend
open Transition

/-- The request of a thread that is in `send`. -/
def Sender.request {φ η : Type} : Sender φ η → Option (Request φ η)
  | idle => none
  | numbered request | registered request => some request

/-- What the loop has taken out of the queue and is not done with. -/
def Receiver.inHand {φ η ω : Type} : Receiver φ η ω → List (Response φ η ω)
  | received response | calling _ response => [response]
  | _ => []

/-- What of it has been looked up. -/
def Receiver.lookedUp {φ η ω : Type} : Receiver φ η ω → List (Response φ η ω)
  | calling _ response => [response]
  | _ => []

/-- The call that a response or an update is due. -/
def Response.due {φ η ω : Type} (updateHandler : Option η) (response : Response φ η ω) :
    Option (OwnedHandler φ η × ω) :=
  match response.origin with
  | some request => request.handler.map fun handler => (⟨some request, handler⟩, response.object)
  | none => updateHandler.map fun handler => (⟨none, handler⟩, response.object)

/-- The handler of a request that is answered is due, with the answer. -/
lemma Response.due_response {φ η ω : Type} (request : Request φ η) (object : ω)
    (updateHandler : Option η) :
    (⟨some request, object⟩ : Response φ η ω).due updateHandler =
      request.handler.map fun handler => (⟨some request, handler⟩, object) := rfl

namespace TdLibAdapter

variable {ι φ η ω : Type}

/-- Each request has an id of its own, which is not the id of updates. -/
structure Numbering (nextId : UInt64) (requests : List (Request φ η)) : Prop where
  next : nextId.toNat = requests.length + 1
  ids : ∀ r ∈ requests, 0 < r.id.toNat ∧ r.id.toNat ≤ requests.length
  unique : ∀ r ∈ requests, ∀ r' ∈ requests, r.id = r'.id → r = r'

/-- A thread in `send` has a request of its own, which TDLib has not got. -/
structure Sending (senders : ι → Sender φ η) (requests sent : List (Request φ η)) : Prop where
  busy : ∀ i r, (senders i).request = some r → r ∈ requests ∧ r ∉ sent
  alone : ∀ i j r, (senders i).request = some r → (senders j).request = some r → i = j
  sent : ∀ r ∈ sent, r ∈ requests

/-- The table has the handlers of the requests that have been registered and whose response has not been
    looked up. -/
structure Table (handlers : UInt64 → Option (OwnedHandler φ η)) (requests : List (Request φ η))
    (senders : ι → Sender φ η) (lookedUp : List (Request φ η)) : Prop where
  owned : ∀ id h, handlers id = some h → ∃ r ∈ requests, r.id = id
  empty : ∀ r ∈ requests, (∃ i, senders i = .numbered r) ∨ r ∈ lookedUp → handlers r.id = none
  waits : ∀ r ∈ requests, (∀ i, senders i ≠ .numbered r) → r ∉ lookedUp →
    handlers r.id = r.handler.map fun handler => ⟨some r, handler⟩

/-- Each response that has arrived is one to a request that TDLib has got, and the only one; it is in the
    queue, in the hands of the loop or processed; and what is processed has had the call it was due. -/
structure Receiving (s : TdLibAdapter ι φ η ω) : Prop where
  flow : s.log.arrived = s.log.processed ++ s.receiver.inHand ++ s.queue
  answers : ∀ r ∈ s.log.arrived.filterMap (·.origin), r ∈ s.log.sent
  once : (s.log.arrived.filterMap (·.origin)).Nodup
  calls : s.log.called = s.log.processed.filterMap (·.due s.updateHandler)
  calling : ∀ h response, s.receiver = .calling h response →
    response.due s.updateHandler = some (h, response.object)
  off : s.receiver = .off → s.log.processed = []
  set : s.updateHandler = none → s.receiver = .off

/-- The requests whose responses have been looked up. -/
def lookedUp (s : TdLibAdapter ι φ η ω) : List (Request φ η) :=
  (s.log.processed ++ s.receiver.lookedUp).filterMap (·.origin)

/-- The invariant of the adapter, part by part. -/
structure Good (s : TdLibAdapter ι φ η ω) : Prop where
  numbering : Numbering s.nextId s.log.requests
  sending : Sending s.senders s.log.requests s.log.sent
  table : Table s.handlers s.log.requests s.senders s.lookedUp
  receiving : Receiving s

section

variable {nextId : UInt64} {requests sent lookedUp : List (Request φ η)} {r : Request φ η}
  {handlers : UInt64 → Option (OwnedHandler φ η)} {senders : ι → Sender φ η} {i : ι}

/-- The next request gets an id that no request has. -/
lemma Numbering.fresh (numbering : Numbering nextId requests) (old : r ∈ requests) :
    r.id ≠ nextId := by
  intro same
  have below := (numbering.ids r old).2
  rw [same, numbering.next] at below
  omega

/-- A new request has a number of its own. -/
lemma Numbering.number (numbering : Numbering nextId requests) (id : r.id = nextId)
    (room : requests.length + 1 < 2 ^ 64 - 1) : Numbering (nextId + 1) (requests ++ [r]) := by
  have next := numbering.next
  refine ⟨?_, fun r' inside => ?_, fun a ha b hb same => ?_⟩
  · rw [UInt64.toNat_add, next, List.length_append, List.length_singleton]
    change (requests.length + 1 + 1) % 2 ^ 64 = _
    exact Nat.mod_eq_of_lt (by omega)
  · rw [List.length_append, List.length_singleton]
    rcases List.mem_append.mp inside with old | new
    · have := numbering.ids r' old
      omega
    · cases List.mem_singleton.mp new
      rw [id]
      omega
  · rcases List.mem_append.mp ha with oldA | newA <;> rcases List.mem_append.mp hb with oldB | newB
    · exact numbering.unique a oldA b oldB same
    · cases List.mem_singleton.mp newB
      exact absurd (same.trans id) (numbering.fresh oldA)
    · cases List.mem_singleton.mp newA
      exact absurd (same.symm.trans id) (numbering.fresh oldB)
    · exact (List.mem_singleton.mp newA).trans (List.mem_singleton.mp newB).symm

/-- A look-up takes the handler of the request out of the table. -/
lemma Table.lookUp (table : Table handlers requests senders lookedUp)
    (numbering : Numbering nextId requests) (inside : r ∈ requests) :
    Table (Function.update handlers r.id none) requests senders (lookedUp ++ [r]) := by
  refine ⟨fun id h there => ?_, fun r' inside' gone => ?_, fun r' inside' free unheard => ?_⟩
  · by_cases same : id = r.id
    · rw [same, Function.update_self] at there
      cases there
    · rw [Function.update_of_ne same] at there
      exact table.owned id h there
  · by_cases same : r'.id = r.id
    · rw [same, Function.update_self]
    · rw [Function.update_of_ne same]
      refine table.empty r' inside' (gone.imp_right fun this => ?_)
      rcases List.mem_append.mp this with old | new
      · exact old
      · exact absurd (congrArg Request.id (List.mem_singleton.mp new)) same
  · rw [List.mem_append, not_or, List.mem_singleton] at unheard
    have other : r'.id ≠ r.id := fun same =>
      unheard.2 (numbering.unique r' inside' r inside same)
    rw [Function.update_of_ne other]
    exact table.waits r' inside' free unheard.1

variable [DecidableEq ι]

/-- When one sender moves, a request in hand is its new one or that of another sender. -/
lemma request_update {x : Sender φ η} {j : ι}
    (busy : (Function.update senders i x j).request = some r) :
    j = i ∧ x.request = some r ∨ j ≠ i ∧ (senders j).request = some r := by
  by_cases same : j = i
  · subst same
    rw [Function.update_self] at busy
    exact .inl ⟨rfl, busy⟩
  · rw [Function.update_of_ne same] at busy
    exact .inr ⟨same, busy⟩

/-- A thread that has no request, or the one it had, leaves those of the others alone. -/
lemma Sending.update (sending : Sending senders requests sent) {x : Sender φ η}
    (keeps : ∀ r, x.request = some r → (senders i).request = some r) :
    Sending (Function.update senders i x) requests sent := by
  have before {j : ι} {r : Request φ η} (busy : (Function.update senders i x j).request = some r) :
      (senders j).request = some r := by
    rcases request_update busy with ⟨rfl, mine⟩ | ⟨-, old⟩
    · exact keeps r mine
    · exact old
  exact ⟨fun j r busy => sending.busy j r (before busy),
    fun j k r first second => sending.alone j k r (before first) (before second), sending.sent⟩

/-- A new request is in the hands of its sender alone, and not sent yet. -/
lemma Sending.number (sending : Sending senders requests sent) (new : r ∉ requests) :
    Sending (Function.update senders i (.numbered r)) (requests ++ [r]) sent := by
  have other {j : ι} (busy : (senders j).request = some r) : False :=
    new (sending.busy j r busy).1
  refine ⟨fun j r' busy => ?_, fun j k r' first second => ?_, fun r' there =>
    List.mem_append_left _ (sending.sent r' there)⟩
  · rcases request_update busy with ⟨-, mine⟩ | ⟨-, old⟩
    · cases mine
      exact ⟨List.mem_append_right _ List.mem_cons_self, fun there => new (sending.sent r there)⟩
    · exact (sending.busy j r' old).imp_left (List.mem_append_left _)
  · rcases request_update first with ⟨rfl, mine⟩ | ⟨-, old⟩ <;>
      rcases request_update second with ⟨rfl, mine'⟩ | ⟨-, old'⟩
    · rfl
    · cases mine
      exact (other old').elim
    · cases mine'
      exact (other old).elim
    · exact sending.alone j k r' old old'

/-- A request that is handed over leaves its sender. -/
lemma Sending.send (sending : Sending senders requests sent) (here : senders i = .registered r) :
    Sending (Function.update senders i .idle) requests (sent ++ [r]) := by
  have mine : (senders i).request = some r := by rw [here]; rfl
  have ⟨busy, alone, sent⟩ := sending.update (i := i) (x := .idle) nofun
  refine ⟨fun j r' old => ⟨(busy j r' old).1, ?_⟩, alone, fun r' there => ?_⟩
  · rw [List.mem_append, not_or]
    refine ⟨(busy j r' old).2, fun this => ?_⟩
    cases List.mem_singleton.mp this
    rcases request_update old with ⟨-, none⟩ | ⟨other, old⟩
    · cases none
    · exact other (sending.alone j i r old mine)
  · rcases List.mem_append.mp there with old | new
    · exact sent r' old
    · cases List.mem_singleton.mp new
      exact (sending.busy i r mine).1

/-- A sender that has just numbered a request is another one than the one that moves. -/
lemma numbered_update {x : Sender φ η} {j : ι}
    (there : Function.update senders i x j = .numbered r) (other : x ≠ .numbered r) :
    j ≠ i ∧ senders j = .numbered r := by
  by_cases same : j = i
  · subst same
    rw [Function.update_self] at there
    exact absurd there other
  · rw [Function.update_of_ne same] at there
    exact ⟨same, there⟩

/-- A request that nobody is at after one sender moved on, nobody was at before. -/
lemma free_of_update {x : Sender φ η} (free : ∀ j, Function.update senders i x j ≠ .numbered r)
    (here : senders i ≠ .numbered r) (j : ι) : senders j ≠ .numbered r := by
  by_cases same : j = i
  · rwa [same]
  · exact Function.update_of_ne same x senders ▸ free j

/-- A new number changes nothing in the table. -/
lemma Table.number (table : Table handlers requests senders lookedUp)
    (new : ∀ r' ∈ requests, r'.id ≠ r.id) (here : senders i = .idle) :
    Table handlers (requests ++ [r]) (Function.update senders i (.numbered r)) lookedUp := by
  refine ⟨fun id h there => ?_, fun r' inside gone => ?_, fun r' inside free unheard => ?_⟩
  · obtain ⟨r', inside, same⟩ := table.owned id h there
    exact ⟨r', List.mem_append_left _ inside, same⟩
  · rcases List.mem_append.mp inside with old | this
    · refine table.empty r' old (gone.imp_left fun ⟨j, there⟩ => ⟨j, ?_⟩)
      refine (numbered_update there fun same => ?_).2
      cases same
      exact new _ old rfl
    · -- no request had this id
      cases List.mem_singleton.mp this
      refine Option.eq_none_iff_forall_ne_some.mpr fun h there => ?_
      obtain ⟨r', inside, same⟩ := table.owned _ h there
      exact new r' inside same
  · rcases List.mem_append.mp inside with old | this
    · exact table.waits r' old (free_of_update free (by rw [here]; nofun)) unheard
    · cases List.mem_singleton.mp this
      exact absurd (Function.update_self i _ senders) (free i)

/-- The handler is found under the number of its request. -/
lemma registerHandler_self (empty : handlers r.id = none) :
    registerHandler handlers r r.id = r.handler.map fun handler => ⟨some r, handler⟩ := by
  cases given : r.handler with
  | none => simp only [registerHandler, given, empty, Option.map_none]
  | some handler => simp only [registerHandler, given, Function.update_self, Option.map_some]

/-- Under other numbers nothing changes. -/
lemma registerHandler_ne {id : UInt64} (other : id ≠ r.id) :
    registerHandler handlers r id = handlers id := by
  cases given : r.handler with
  | none => simp only [registerHandler, given]
  | some handler => simp only [registerHandler, given, Function.update_of_ne other]

/-- A request that is registered is found until it is looked up. -/
lemma Table.register (table : Table handlers requests senders lookedUp)
    (numbering : Numbering nextId requests) (sending : Sending senders requests sent)
    (here : senders i = .numbered r) (unheard : r ∉ lookedUp) :
    Table (registerHandler handlers r) requests (Function.update senders i (.registered r))
      lookedUp := by
  have busy : (senders i).request = some r := by rw [here]; rfl
  have inside : r ∈ requests := (sending.busy i r busy).1
  refine ⟨fun id h there => ?_, fun r' inside' gone => ?_, fun r' inside' free unheard' => ?_⟩
  · by_cases same : id = r.id
    · exact ⟨r, inside, same.symm⟩
    · rw [registerHandler_ne same] at there
      exact table.owned id h there
  · have other : r'.id ≠ r.id := by
      intro same
      cases numbering.unique r' inside' r inside same
      rcases gone with ⟨j, there⟩ | there
      · obtain ⟨elsewhere, there⟩ := numbered_update there nofun
        exact elsewhere (sending.alone j i r (by rw [there]; rfl) busy)
      · exact unheard there
    rw [registerHandler_ne other]
    exact table.empty r' inside'
      (gone.imp_left fun ⟨j, there⟩ => ⟨j, (numbered_update there nofun).2⟩)
  · by_cases same : r' = r
    · subst same
      exact registerHandler_self (table.empty r' inside (.inl ⟨i, here⟩))
    · rw [registerHandler_ne fun ids => same (numbering.unique r' inside' r inside ids)]
      refine table.waits r' inside' (free_of_update free fun there => ?_) unheard'
      cases here.symm.trans there
      exact same rfl

/-- Handing a request over changes nothing in the table. -/
lemma Table.send (table : Table handlers requests senders lookedUp)
    (here : senders i = .registered r) :
    Table handlers requests (Function.update senders i .idle) lookedUp := by
  refine ⟨table.owned, fun r' inside gone => ?_, fun r' inside free => ?_⟩
  · exact table.empty r' inside
      (gone.imp_left fun ⟨j, there⟩ => ⟨j, (numbered_update there nofun).2⟩)
  · exact table.waits r' inside (free_of_update free (by rw [here]; nofun))

end

section

variable {s s' : TdLibAdapter ι φ η ω} {response : Response φ η ω} {request : Request φ η}

/-- What the last entry gives stands at the end. -/
lemma filterMap_concat {α β : Type} (f : α → Option β) (l : List α) (a : α) :
    (l ++ [a]).filterMap f = l.filterMap f ++ (f a).toList := by
  rw [List.filterMap_append, List.filterMap_cons]
  cases f a <;> rfl

/-- Once the loop is started, the handler of updates is set. -/
lemma Receiving.isSet (receiving : Receiving s) {x : Receiver φ η ω} (here : s.receiver = x)
    (started : x ≠ .off) : s.updateHandler ≠ none :=
  fun unset => started (here.symm.trans (receiving.set unset))

/-- The loop goes from one place to another with nothing in its hands. -/
lemma Good.move (good : Good s) {x y : Receiver φ η ω} (running : Bool) (here : s.receiver = y)
    (before : y.inHand = []) (behind : x.inHand = []) (started : x ≠ .off)
    (set : s.updateHandler ≠ none) : Good { s with running, receiver := x } := by
  have lookedUp_nil {z : Receiver φ η ω} (nothing : z.inHand = []) : z.lookedUp = [] := by
    cases z with
    | calling _ _ => cases nothing
    | off | checking | receiving | received _ | exited => rfl
  obtain ⟨numbering, sending, table, flow, answers, once, calls, -, -, -⟩ := good
  rw [here, before] at flow
  rw [lookedUp, here, lookedUp_nil before] at table
  refine ⟨numbering, sending, ?_, ?_, answers, once, calls, ?_, fun this => absurd this started,
    fun this => absurd this set⟩
  · change Table _ _ _ ((s.log.processed ++ x.lookedUp).filterMap _)
    rw [lookedUp_nil behind]
    exact table
  · exact flow.trans (congrArg (s.log.processed ++ · ++ s.queue) behind.symm)
  · intro h response this
    change x = _ at this
    rw [this] at behind
    cases behind

/-- The loop is done with a response, which has had the call it was due. -/
lemma Good.process (good : Good s) {handlers : UInt64 → Option (OwnedHandler φ η)}
    {called : List (OwnedHandler φ η × ω)} (hand : s.receiver.inHand = [response])
    (table : Table handlers s.log.requests s.senders
      ((s.log.processed ++ [response]).filterMap (·.origin)))
    (due : called = s.log.called ++ (response.due s.updateHandler).toList) :
    Good { s with
      handlers
      receiver := .checking
      log := { Log.process s.log response with called } } := by
  obtain ⟨numbering, sending, -, receiving⟩ := good
  have set : s.updateHandler ≠ none := receiving.isSet rfl fun off => by
    rw [off] at hand
    cases hand
  obtain ⟨flow, answers, once, calls, -, -, -⟩ := receiving
  rw [hand] at flow
  refine ⟨numbering, sending, ?_, ?_, answers, once, ?_, nofun, nofun, fun unset => absurd unset set⟩
  · change Table _ _ _ ((s.log.processed ++ [response] ++ []).filterMap Response.origin)
    rw [List.append_nil]
    exact table
  · exact flow.trans (congrArg (· ++ s.queue) (List.append_nil _).symm)
  · change called = (s.log.processed ++ [response]).filterMap (·.due s.updateHandler)
    rw [due, calls, filterMap_concat]

/-- TDLib brings an update, or the one response to a request that it has got. -/
lemma Receiving.arrive (receiving : Receiving s)
    (answers : ∀ r, response.origin = some r →
      r ∈ s.log.sent ∧ ∀ old ∈ s.log.arrived, old.origin ≠ some r) :
    Receiving { s with
      queue := s.queue ++ [response]
      log := { s.log with arrived := s.log.arrived ++ [response] } } := by
  obtain ⟨flow, sent, once, calls, calling, nothing, set⟩ := receiving
  refine ⟨?_, fun r there => ?_, ?_, calls, calling, nothing, set⟩
  · exact (congrArg (· ++ [response]) flow).trans (List.append_assoc _ _ _)
  · rcases List.mem_append.mp (filterMap_concat _ s.log.arrived response ▸ there) with old | new
    · exact sent r old
    · exact (answers r (Option.mem_toList.mp new)).1
  · change ((s.log.arrived ++ [response]).filterMap (·.origin)).Nodup
    rw [filterMap_concat]
    cases origin : response.origin with
    | none => exact (List.append_nil _).symm ▸ once
    | some request =>
      refine List.nodup_append.mpr ⟨once, List.nodup_singleton _, fun r old r' new => ?_⟩
      obtain ⟨earlier, arrived, same⟩ := List.mem_filterMap.mp old
      rintro rfl
      exact (answers request origin).2 earlier arrived (List.mem_singleton.mp new ▸ same)

/-- Only what was handed over is looked up. -/
lemma Receiving.lookedUp_sent (receiving : Receiving s) (heard : request ∈ s.lookedUp) :
    request ∈ s.log.sent := by
  refine receiving.answers request ?_
  have inHand : ∃ rest, s.receiver.inHand = s.receiver.lookedUp ++ rest := by
    cases s.receiver with
    | received response => exact ⟨[response], rfl⟩
    | off | checking | receiving | calling _ _ | exited => exact ⟨[], rfl⟩
  obtain ⟨rest, inHand⟩ := inHand
  rw [receiving.flow, inHand, List.append_assoc, List.append_assoc, ← List.append_assoc,
    List.filterMap_append]
  exact List.mem_append_left _ heard

/-- What the loop finds is the call that the response is due, and the table is left without it. -/
lemma Good.lookUp (good : Good s) (here : s.receiver = .received response) :
    response.due s.updateHandler = (s.find response).1.map (fun h => (h, response.object)) ∧
      Table (s.find response).2 s.log.requests s.senders
        ((s.log.processed ++ [response]).filterMap (·.origin)) := by
  obtain ⟨numbering, sending, table, receiving⟩ := good
  have flow := receiving.flow
  have nothing : s.lookedUp = s.log.processed.filterMap (·.origin) := by
    rw [lookedUp, here]
    exact congrArg _ (List.append_nil _)
  rw [here] at flow
  rw [nothing] at table
  rw [filterMap_concat]
  cases origin : response.origin with
  | none =>
    have zero : response.requestId = 0 := by rw [Response.requestId, origin]
    rw [TdLibAdapter.find, if_pos zero, Response.due, origin]
    refine ⟨?_, (List.append_nil _).symm ▸ table⟩
    cases s.updateHandler <;> rfl
  | some request =>
    have origins : s.log.arrived.filterMap (·.origin) =
        s.log.processed.filterMap (·.origin) ++ request :: s.queue.filterMap (·.origin) := by
      rw [flow, Receiver.inHand, List.filterMap_append, filterMap_concat, origin, List.append_assoc]
      rfl
    have sent : request ∈ s.log.sent :=
      receiving.answers request (origins ▸ List.mem_append_right _ List.mem_cons_self)
    have inside := sending.sent request sent
    have free (i : ι) : s.senders i ≠ .numbered request := fun there =>
      (sending.busy i request (by rw [there]; rfl)).2 sent
    have unheard : request ∉ s.log.processed.filterMap (·.origin) := by
      have once := receiving.once
      rw [origins, List.nodup_append] at once
      exact fun heard => once.2.2 request heard request List.mem_cons_self rfl
    have number : response.requestId = request.id := by rw [Response.requestId, origin]
    have other : response.requestId ≠ 0 := by
      intro zero
      have positive := (numbering.ids request inside).1
      rw [← number, zero] at positive
      exact absurd positive (Nat.lt_irrefl 0)
    rw [TdLibAdapter.find, if_neg other, number, Response.due, origin,
      table.waits request inside free unheard]
    refine ⟨?_, table.lookUp numbering inside⟩
    dsimp only
    rw [Option.map_map]
    rfl

/-- A new adapter is good. -/
lemma good_new (getOption : φ) : Good (new getOption : TdLibAdapter ι φ η ω) := by
  have only {r : Request φ η} (inside : r ∈ [(⟨0, 1, getOption, none⟩ : Request φ η)]) :
      r = ⟨0, 1, getOption, none⟩ := List.mem_singleton.mp inside
  refine ⟨⟨rfl, fun r inside => ?_, fun r inside r' inside' _ => ?_⟩,
    ⟨nofun, nofun, fun _ inside => inside⟩, ⟨nofun, fun _ _ _ => rfl, fun r inside _ _ => ?_⟩,
    ⟨rfl, nofun, .nil, rfl, nofun, fun _ => rfl, fun _ => rfl⟩⟩
  · cases only inside
    exact ⟨Nat.zero_lt_one, Nat.le_refl 1⟩
  · exact (only inside).trans (only inside').symm
  · cases only inside
    rfl

variable [DecidableEq ι]

/-- Each step keeps the adapter good, as long as TDLib keeps its promise. -/
lemma Good.step {a : Action ι φ η ω} (good : Good s) (promised : Promised s a)
    (taken : s.step a = some s') : Good s' := by
  obtain ⟨numbering, sending, table, receiving⟩ := good
  cases step_cases taken with
  | number here =>
    refine ⟨numbering.number rfl promised, sending.number fun old => numbering.fresh old rfl,
      table.number (fun r' old => numbering.fresh old) here, { receiving with }⟩
  | @register i request here =>
    refine ⟨numbering, sending.update fun r mine => ?_, table.register numbering sending here ?_,
      { receiving with }⟩
    · rw [here]
      exact mine
    · exact fun heard =>
        (sending.busy i request (by rw [here]; rfl)).2 (receiving.lookedUp_sent heard)
  | send here =>
    exact ⟨numbering, sending.send here, table.send here, { receiving with
      answers := fun r there => List.mem_append_left _ (receiving.answers r there) }⟩
  | setUpdateHandler =>
    have off : s.receiver = .off := by
      cases here : s.receiver <;> simp only [Promised, here] at promised
      rfl
    obtain ⟨flow, answers, once, calls, calling, nothing, set⟩ := receiving
    refine ⟨numbering, sending, table, flow, answers, once, ?_, ?_, nothing, fun _ => off⟩
    · -- no handler has been called
      rw [nothing off] at calls ⊢
      exact calls
    · intro h response this
      cases off.symm.trans this
  | started => exact ⟨numbering, sending, table, receiving⟩
  | start here =>
    have set : s.updateHandler ≠ none := Option.isSome_iff_ne_none.mp promised
    rcases here with here | here
    · exact Good.move ⟨numbering, sending, table, receiving⟩ true here rfl rfl nofun set
    · exact Good.move ⟨numbering, sending, table, receiving⟩ true here rfl rfl nofun set
  | stop => exact ⟨numbering, sending, table, { receiving with }⟩
  | update => exact ⟨numbering, sending, table, receiving.arrive nofun⟩
  | @answer request object =>
    refine ⟨numbering, sending, table, receiving.arrive fun r same => ?_⟩
    cases same
    exact promised
  | check here =>
    have set := receiving.isSet here nofun
    cases s.running
    · exact Good.move ⟨numbering, sending, table, receiving⟩ _ here rfl rfl nofun set
    · exact Good.move ⟨numbering, sending, table, receiving⟩ _ here rfl rfl nofun set
  | receive here queued =>
    rw [lookedUp, here] at table
    obtain ⟨flow, answers, once, calls, calling, nothing, set⟩ := receiving
    rw [here] at flow set
    refine ⟨numbering, sending, table, ?_, answers, once, calls, nofun, nofun, fun this => ?_⟩
    · change s.log.arrived = s.log.processed ++ [] ++ s.queue at flow
      rw [queued, List.append_nil] at flow
      exact flow.trans (List.append_cons _ _ _)
    · cases set this
  | timeout here =>
    exact Good.move ⟨numbering, sending, table, receiving⟩ _ here rfl rfl nofun
      (receiving.isSet here nofun)
  | @found response h handlers here found =>
    obtain ⟨due, left⟩ := Good.lookUp ⟨numbering, sending, table, receiving⟩ here
    rw [found] at due left
    obtain ⟨flow, answers, once, calls, calling, nothing, set⟩ := receiving
    rw [here] at flow set
    refine ⟨numbering, sending, left, flow, answers, once, calls, ?_, nofun, fun this => ?_⟩
    · intro h' response' this
      cases this
      exact due
    · cases set this
  | @missing response handlers here missing =>
    have good : Good s := ⟨numbering, sending, table, receiving⟩
    obtain ⟨due, left⟩ := good.lookUp here
    rw [missing] at due left
    refine good.process (by rw [here]; rfl) left ?_
    rw [due]
    exact (List.append_nil _).symm
  | @call h response here =>
    have due := receiving.calling h response here
    have heard : s.lookedUp = (s.log.processed ++ [response]).filterMap (·.origin) := by
      rw [lookedUp, here]
      rfl
    refine Good.process ⟨numbering, sending, table, receiving⟩ (by rw [here]; rfl) (heard ▸ table) ?_
    rw [due]
    rfl

end

/-- The call that a response is due is one of the handler of its request, with its object. -/
lemma due_owner {updateHandler : Option η} {response : Response φ η ω} {h : OwnedHandler φ η}
    {object : ω} (due : response.due updateHandler = some (h, object)) :
    response = ⟨h.owner, object⟩ ∧
      ∀ request, h.owner = some request → request.handler = some h.handler := by
  obtain ⟨origin, given⟩ := response
  cases origin with
  | none =>
    obtain ⟨handler, -, this⟩ := Option.map_eq_some_iff.mp due
    cases this
    exact ⟨rfl, nofun⟩
  | some request =>
    obtain ⟨handler, registered, this⟩ := Option.map_eq_some_iff.mp due
    cases this
    refine ⟨rfl, fun r same => ?_⟩
    cases same
    exact registered

/-- No handler of a request is called more often than the request is answered. -/
lemma owners_sublist (updateHandler : Option η) (responses : List (Response φ η ω)) :
    ((responses.filterMap (·.due updateHandler)).filterMap (·.1.owner)).Sublist
      (responses.filterMap (·.origin)) := by
  induction responses with
  | nil => exact .slnil
  | cons response responses ih =>
    rw [List.filterMap_cons, List.filterMap_cons]
    cases due : response.due updateHandler with
    | none =>
      cases response.origin with
      | none => exact ih
      | some request => exact ih.cons request
    | some call =>
      obtain ⟨h, object⟩ := call
      obtain ⟨rfl, -⟩ := due_owner due
      dsimp only
      rw [List.filterMap_cons]
      cases h.owner with
      | none => exact ih
      | some request => exact ih.cons_cons request

/-- The handler of updates is called with every update. -/
lemma filter_due (handler : η) (responses : List (Response φ η ω)) :
    ((responses.filterMap (·.due (some handler))).filter fun call => call.1.owner.isNone) =
      (responses.filter fun response => response.origin.isNone).map
        fun response => (⟨none, handler⟩, response.object) := by
  induction responses with
  | nil => rfl
  | cons response responses ih =>
    obtain ⟨origin, object⟩ := response
    rw [List.filterMap_cons]
    cases origin with
    | none => exact congrArg (_ :: ·) ih
    | some request =>
      rw [Response.due_response]
      cases request.handler <;> exact ih

/-- In a good adapter requests, handlers and answers match. -/
lemma Good.matched {s : TdLibAdapter ι φ η ω} (good : Good s) : Matched s := by
  obtain ⟨numbering, sending, table, receiving⟩ := good
  obtain ⟨flow, answers, once, calls, calling, nothing, set⟩ := receiving
  rw [List.append_assoc] at flow
  have arrived {response : Response φ η ω} (processed : response ∈ s.log.processed) :
      response ∈ s.log.arrived := flow ▸ List.mem_append_left _ processed
  refine ⟨fun request handler object there => ?_, ?_, fun request handler object there given => ?_,
    ⟨_, flow.symm⟩, fun unset => nothing (set unset), fun handler given => ?_,
    fun request object there => ?_⟩
  · rw [calls] at there
    obtain ⟨response, processed, due⟩ := List.mem_filterMap.mp there
    obtain ⟨rfl, registered⟩ := due_owner due
    exact ⟨registered request rfl, arrived processed⟩
  · rw [flow, List.filterMap_append] at once
    rw [calls]
    exact (once.sublist (List.sublist_append_left _ _)).sublist (owners_sublist _ _)
  · rw [calls]
    refine List.mem_filterMap.mpr ⟨_, there, ?_⟩
    rw [Response.due_response, given]
    rfl
  · rw [calls, given]
    exact filter_due handler _
  · have answered : request ∈ s.log.arrived.filterMap (·.origin) :=
      List.mem_filterMap.mpr ⟨_, arrived there, rfl⟩
    refine table.empty request (sending.sent request (answers request answered)) (.inr ?_)
    exact List.mem_filterMap.mpr ⟨_, List.mem_append_left _ there, rfl⟩

variable [DecidableEq ι]

/-- As long as TDLib and the caller keep their promises, handlers and responses match. -/
theorem matched_run {getOption : φ} {actions : List (Action ι φ η ω)} {s : TdLibAdapter ι φ η ω}
    (promised : Meets step Promised (new getOption) actions)
    (ran : run step (new getOption) actions = some s) : Matched s :=
  (run_invariant_under (I := Good) Good.step (good_new getOption) promised ran).matched

/-- A request with a handler, an update that comes in between, and the response. -/
def askAndAnswer : List (Action Unit String Nat String) :=
  [.setUpdateHandler (some 0), .start, .number () "getMe" (some 7), .register (), .send (),
    .update "updateUser", .answer ⟨1, 2, "getMe", some 7⟩ "user", .check, .receive, .lookUp, .call,
    .check, .receive, .lookUp, .call]

/-- TDLib keeps its promises, so what has been called matches. -/
theorem askAndAnswer_matched :
    ∃ s, run step (new "getOption") askAndAnswer = some s ∧
      s.log.called = [(⟨none, 0⟩, "updateUser"), (⟨some ⟨1, 2, "getMe", some 7⟩, 7⟩, "user")] ∧
        Matched s := by
  have promised : Meets step Promised (new "getOption") askAndAnswer := by
    refine (meets_cons rfl).mpr ⟨trivial, ?_⟩
    refine (meets_cons rfl).mpr ⟨rfl, ?_⟩
    -- the second request
    refine (meets_cons rfl).mpr ⟨(by decide : 1 + 1 < 2 ^ 64 - 1), ?_⟩
    refine (meets_cons rfl).mpr ⟨trivial, ?_⟩
    refine (meets_cons rfl).mpr ⟨trivial, ?_⟩
    refine (meets_cons rfl).mpr ⟨trivial, ?_⟩
    -- its response
    refine (meets_cons rfl).mpr ⟨⟨List.mem_cons_of_mem _ List.mem_cons_self, ?_⟩, ?_⟩
    · rintro response arrived
      cases List.mem_singleton.mp arrived
      nofun
    refine (meets_cons rfl).mpr ⟨trivial, ?_⟩
    refine (meets_cons rfl).mpr ⟨trivial, ?_⟩
    refine (meets_cons rfl).mpr ⟨trivial, ?_⟩
    refine (meets_cons rfl).mpr ⟨trivial, ?_⟩
    refine (meets_cons rfl).mpr ⟨trivial, ?_⟩
    refine (meets_cons rfl).mpr ⟨trivial, ?_⟩
    refine (meets_cons rfl).mpr ⟨trivial, ?_⟩
    exact (meets_cons rfl).mpr ⟨trivial, meets_nil _⟩
  exact ⟨_, rfl, rfl, matched_run promised rfl⟩

end TdLibAdapter

end CppGram.Backend
