import CppGram.Backend.Dispatch
import Mathlib.Data.List.Basic

/-!
# Handlers and the dispatcher thread

What is asked of the dispatcher thread is `Isolated`: each update calls every handler that accepts its
event, once and in the order of registration, whatever other functions of the user throw, and no
exception ends the thread. The dispatch functions catch what is a `std::exception` and comes from a
callback; the worker of a pool swallows the rest of what a task throws. `isolated_iff` says which updates
that is enough for: those that are `Benign` for the client at that time.
-/

namespace CppGram.Backend
open Threads

variable {μ κ : Type}

namespace ClientImpl

/-- The handlers that an update is for: those that accept its event, if the middleware lets it pass. -/
def addressed (c : ClientImpl μ κ) : Update μ κ → List (Handler μ κ)
  | .newMessage (some msg) =>
    if (MiddlewarePipeline.execute c.middleware { message := some msg }).1 then
      (c.onMessageHandlers.filter (Accepts (·.filter msg))).map .message
    else []
  | .messageContent msg =>
    (c.onEditedMessageHandlers.filter (Accepts (·.filter msg))).map .editedMessage
  | .deleteMessages _ _ true => c.onDeletedMessagesHandlers.map .deletedMessages
  | .newCallbackQuery q =>
    if (MiddlewarePipeline.execute c.middleware { callbackQuery := some q }).1 then
      (c.onCallbackQueryHandlers.filter (Accepts (·.accepts q))).map .callbackQuery
    else []
  | _ => []

/-- Handlers do no harm to each other and to the dispatcher thread: on this thread they are all tame; a
    pool, which must not be stopped, has to reach those that accept the event. -/
def Harmless {η : Type} (c : ClientImpl μ κ) (filter : η → Except Thrown Bool)
    (callback : η → Except Thrown Unit) (handlers : List η) : Prop :=
  match c.threadPool with
  | none => ∀ h ∈ handlers, Tame filter callback h
  | some ⟨_, pool⟩ => pool.stop = false ∧ Reached filter callback handlers

/-- What an update must meet. -/
def Benign (c : ClientImpl μ κ) : Update μ κ → Prop
  | .authorizationState (some .waitCode) => ∀ thrown, c.codeCallback ≠ some (.error thrown)
  | .authorizationState (some .waitPassword) => ∃ pw, c.passwordCallback = some (.ok pw)
  | .newMessage (some msg) =>
    (MiddlewarePipeline.execute c.middleware { message := some msg }).1 = true →
      c.Harmless (·.filter msg) (·.callback msg) c.onMessageHandlers
  | .messageContent msg =>
    ∀ h ∈ c.onEditedMessageHandlers, Tame (·.filter msg) (·.callback msg) h
  | .deleteMessages chatId ids true =>
    ∀ h ∈ c.onDeletedMessagesHandlers, h.callback chatId ids ≠ .error .other
  | .newCallbackQuery q =>
    (MiddlewarePipeline.execute c.middleware { callbackQuery := some q }).1 = true →
      c.Harmless (·.accepts q) (·.callback q) c.onCallbackQueryHandlers
  | _ => True

end ClientImpl

/-! ## One update -/

section

variable {η : Type} {filter : η → Except Thrown Bool} {callback : η → Except Thrown Unit}
  {handlers : List η}

/-- A handler that comes before every handler that is not tame is reached. -/
lemma reached_of_tame (tame : ∀ h ∈ handlers, Tame filter callback h) :
    Reached filter callback handlers :=
  fun _ _ _ split _ b inside => tame b (split ▸ List.mem_append_left _ inside)

/-- On the dispatcher thread. -/
lemma runHandlers_eq_iff :
    runHandlers filter callback handlers = (handlers.filter (Accepts filter), .ok ()) ↔
      ∀ h ∈ handlers, Tame filter callback h := by
  rw [Prod.ext_iff, (runHandlers_iff handlers).1, (runHandlers_iff handlers).2]
  exact and_iff_right_of_imp reached_of_tame

end

namespace ClientImpl

variable {c : ClientImpl μ κ}

/-- On the dispatcher thread or in the pool. -/
lemma submit_iff {η : Type} {filter : η → Except Thrown Bool} {callback : η → Except Thrown Unit}
    {handlers : List η} {task : Task μ κ} {wrap : η → Handler μ κ}
    (wraps : Function.Injective wrap)
    (runs : task.run = Prod.map (·.map wrap) id (runHandlers filter callback handlers)) :
    ((c.submit task).calls, (c.submit task).outcome) =
        ((handlers.filter (Accepts filter)).map wrap, .ok ()) ↔
      c.Harmless filter callback handlers := by
  have same {called : List η} :
      called.map wrap = (handlers.filter (Accepts filter)).map wrap ↔
        called = handlers.filter (Accepts filter) :=
    (List.map_injective_iff.mpr wraps).eq_iff
  unfold submit Harmless
  cases pooled : c.threadPool with
  | none =>
    simp only [Processed.calls, runs, Prod.map, id_eq]
    rw [← runHandlers_eq_iff, Prod.ext_iff, Prod.ext_iff]
    exact and_congr_left' same
  | some pool =>
    obtain ⟨n, pool⟩ := pool
    simp only [ThreadPool.enqueue]
    cases stopped : pool.stop with
    | true => simp only [if_true, Prod.mk.injEq, reduceCtorEq, and_false, false_and]
    | false =>
      simp only [Bool.false_eq_true, if_false, Processed.calls, List.nil_append, runs, Prod.map,
        Prod.mk.injEq, and_true, true_and]
      exact same.trans (runHandlers_iff handlers).1

/-- No handler is called for a state of the authorization. -/
lemma handleAuthState_iff (c : ClientImpl μ κ) (state : Option AuthorizationState) :
    ((c.handleAuthState state).calls, (c.handleAuthState state).outcome) = ([], .ok ()) ↔
      c.Benign (.authorizationState state) := by
  cases state with
  | none => exact iff_of_true rfl trivial
  | some state =>
    cases state with
    | waitCode =>
      change _ ↔ ∀ thrown, c.codeCallback ≠ some (.error thrown)
      simp only [handleAuthState]
      split
      · next unset => simp only [Processed.calls, unset, ne_eq, reduceCtorEq, not_false_eq_true,
          implies_true]
      · next code set => simp only [Processed.calls, set, ne_eq, Option.some.injEq, reduceCtorEq,
          not_false_eq_true, implies_true]
      · next thrown set => simp only [set, Prod.mk.injEq, reduceCtorEq, and_false, ne_eq,
          Option.some.injEq, Except.error.injEq, forall_eq']
    | waitPassword =>
      change _ ↔ ∃ pw, c.passwordCallback = some (.ok pw)
      simp only [handleAuthState]
      split
      · next unset => simp only [unset, Prod.mk.injEq, reduceCtorEq, and_false, exists_false]
      · next pw set => simp only [Processed.calls, set, Option.some.injEq, Except.ok.injEq,
          exists_eq']
      · next thrown set => simp only [set, Prod.mk.injEq, reduceCtorEq, and_false,
          Option.some.injEq, exists_false]
    | _ => exact iff_of_true rfl trivial

/-- A message comes to all it is addressed to exactly if everything on its way is benign. -/
lemma dispatchMessage_iff (c : ClientImpl μ κ) (msg : μ) :
    ((c.dispatchMessage msg).calls, (c.dispatchMessage msg).outcome) =
        (c.addressed (.newMessage (some msg)), .ok ()) ↔ c.Benign (.newMessage (some msg)) := by
  change _ ↔ (_ → c.Harmless (·.filter msg) (·.callback msg) c.onMessageHandlers)
  simp only [dispatchMessage, addressed, c.attached, Bool.true_and]
  cases MiddlewarePipeline.execute c.middleware { message := some msg } |>.1 with
  | false => exact iff_of_true rfl nofun
  | true =>
    simp only [Bool.not_true, Bool.false_eq_true, if_false, if_true, forall_const]
    exact submit_iff (fun _ _ => Handler.message.inj) rfl

/-- A callback query comes to all it is addressed to exactly if everything on its way is benign. -/
lemma dispatchCallbackQuery_iff (c : ClientImpl μ κ) (q : κ) :
    ((c.dispatchCallbackQuery q).calls, (c.dispatchCallbackQuery q).outcome) =
        (c.addressed (.newCallbackQuery q), .ok ()) ↔ c.Benign (.newCallbackQuery q) := by
  change _ ↔ (_ → c.Harmless (·.accepts q) (·.callback q) c.onCallbackQueryHandlers)
  simp only [dispatchCallbackQuery, addressed, c.attached, Bool.true_and]
  cases MiddlewarePipeline.execute c.middleware { callbackQuery := some q } |>.1 with
  | false => exact iff_of_true rfl nofun
  | true =>
    simp only [Bool.not_true, Bool.false_eq_true, if_false, if_true, forall_const]
    exact submit_iff (fun _ _ => Handler.callbackQuery.inj) rfl

/-- An edited message comes to all it is addressed to exactly if everything on its way is benign. -/
lemma dispatchEditedMessage_iff (c : ClientImpl μ κ) (msg : μ) :
    ((c.dispatchEditedMessage msg).calls, (c.dispatchEditedMessage msg).outcome) =
        (c.addressed (.messageContent msg), .ok ()) ↔ c.Benign (.messageContent msg) := by
  change _ ↔ ∀ h ∈ c.onEditedMessageHandlers, Tame (·.filter msg) (·.callback msg) h
  rw [← runHandlers_eq_iff, Prod.ext_iff, Prod.ext_iff]
  exact and_congr_left' (List.map_injective_iff.mpr fun _ _ => Handler.editedMessage.inj).eq_iff

/-- A deletion comes to all it is addressed to exactly if everything on its way is benign. -/
lemma dispatchDeletedMessages_iff (c : ClientImpl μ κ) (chatId : ChatId) (ids : List MessageId) :
    ((c.dispatchDeletedMessages chatId ids).calls, (c.dispatchDeletedMessages chatId ids).outcome) =
        (c.addressed (.deleteMessages chatId ids true), .ok ()) ↔
      c.Benign (.deleteMessages chatId ids true) := by
  change _ ↔ ∀ h ∈ c.onDeletedMessagesHandlers, Tame (fun _ => .ok true) (·.callback chatId ids) h
  have all : c.onDeletedMessagesHandlers.filter (Accepts fun _ => .ok true) =
      c.onDeletedMessagesHandlers := List.filter_eq_self.mpr fun _ _ => rfl
  rw [← runHandlers_eq_iff, Prod.ext_iff, Prod.ext_iff, all]
  exact and_congr_left' (List.map_injective_iff.mpr fun _ _ => Handler.deletedMessages.inj).eq_iff

/-- An update calls the handlers that it is for and throws nothing exactly when it is benign. -/
lemma processUpdate_iff (u : Update μ κ) :
    ((c.processUpdate u).calls, (c.processUpdate u).outcome) = (c.addressed u, .ok ()) ↔
      c.Benign u := by
  cases u with
  | authorizationState state => exact c.handleAuthState_iff state
  | user | newChat | other => exact iff_of_true rfl trivial
  | newMessage message =>
    cases message with
    | none => exact iff_of_true rfl trivial
    | some msg => exact c.dispatchMessage_iff msg
  | messageContent msg => exact c.dispatchEditedMessage_iff msg
  | deleteMessages chatId ids isPermanent =>
    cases isPermanent with
    | false => exact iff_of_true rfl trivial
    | true => exact c.dispatchDeletedMessages_iff chatId ids
  | newCallbackQuery q => exact c.dispatchCallbackQuery_iff q

end ClientImpl

/-! ## Every update -/

/-- The dispatcher thread gets through a run of updates, and each of them calls the handlers that it is
    for. -/
def Isolated (run : List (ClientImpl μ κ × Update μ κ)) : Prop :=
  (ClientImpl.dispatcherLoop run).map (fun p => (p.calls, p.outcome)) =
    run.map fun (c, u) => (c.addressed u, .ok ())

/-- Every handler that an update is for is called, once and in order, and no exception ends the thread,
    exactly as long as each update is benign for the client at that time. -/
theorem isolated_iff (run : List (ClientImpl μ κ × Update μ κ)) :
    Isolated run ↔ ∀ c u, (c, u) ∈ run → c.Benign u := by
  induction run with
  | nil => exact iff_of_true rfl fun _ _ inside => absurd inside List.not_mem_nil
  | cons first run ih =>
    obtain ⟨c, u⟩ := first
    have split : (∀ c' u', (c', u') ∈ (c, u) :: run → c'.Benign u') ↔
        c.Benign u ∧ ∀ c' u', (c', u') ∈ run → c'.Benign u' := by
      simp only [List.mem_cons, Prod.mk.injEq, or_imp, forall_and, and_imp, forall_eq_apply_imp_iff,
        forall_eq]
    rw [split, ← ih, ← ClientImpl.processUpdate_iff, Isolated, Isolated, ClientImpl.dispatcherLoop]
    cases done : (c.processUpdate u).outcome with
    | ok _ => simp only [done, List.map_cons, List.cons.injEq]
    | error thrown =>
      simp only [done, List.map_cons, List.map_nil, List.cons.injEq, Prod.mk.injEq, reduceCtorEq,
        and_false, false_and]

/-- A filter that throws keeps the handler behind it from being called and ends the thread. -/
theorem throwing_filter_not_isolated :
    ¬ Isolated [(({ onMessageHandlers := [
      { filter := fun _ => .error (.stdException "bad_optional_access"), callback := fun _ => .ok () },
      { callback := fun _ => .ok () }] } : ClientImpl Unit Unit), .newMessage (some ()))] := by
  simp only [Isolated, ClientImpl.dispatcherLoop, ClientImpl.processUpdate,
    ClientImpl.dispatchMessage, MiddlewarePipeline.execute, ClientImpl.submit, Task.run, runHandlers,
    Bool.not_false, Bool.not_true, Bool.and_false, Bool.false_eq_true, if_false, Prod.map, id_eq,
    List.map_cons, List.cons.injEq, Prod.mk.injEq, reduceCtorEq, and_false, false_and, not_false_eq_true]

end CppGram.Backend
