import CppGram.Backend.Middleware
import CppGram.Backend.Types
import CppGram.Threads.ThreadPool

/-!
# Dispatching updates

What the dispatcher thread of a client does with an update (C++ `client.cpp`, `process_update` and the
functions that it calls). Messages and callback queries are what the conversions make of TDLib's
objects; they are passed through, so their types are parameters. A function of the user is what it
returns or throws. `Processed` is what comes of an update: the handlers whose callbacks were called,
the task that was handed to the pool, and the exception that got out of `process_update`, if any.
-/

namespace CppGram.Backend
open Threads

/-! ## Handlers -/

/-- C++ `struct MessageHandler`. -/
structure MessageHandler (μ : Type) where
  filter : μ → Except Thrown Bool := fun _ => .ok true
  callback : μ → Except Thrown Unit

/-- C++ `struct EditedMessageHandler`. -/
structure EditedMessageHandler (μ : Type) where
  filter : μ → Except Thrown Bool := fun _ => .ok true
  callback : μ → Except Thrown Unit

/-- C++ `struct DeletedMessagesHandler`. -/
structure DeletedMessagesHandler where
  callback : ChatId → List MessageId → Except Thrown Unit

/-- C++ `struct CallbackQueryHandler`; the filter may be an empty `std::function`. -/
structure CallbackQueryHandler (κ : Type) where
  filter : Option (κ → Except Thrown Bool) := none
  callback : κ → Except Thrown Unit

/-- A registered handler. -/
inductive Handler (μ κ : Type) where
  | message (h : MessageHandler μ)
  | editedMessage (h : EditedMessageHandler μ)
  | deletedMessages (h : DeletedMessagesHandler)
  | callbackQuery (h : CallbackQueryHandler κ)

/-- The loop of the dispatch functions: the callback is called in a `try` block that catches a
    `std::exception`, the filter in front of it. -/
def runHandlers {η : Type} (filter : η → Except Thrown Bool) (callback : η → Except Thrown Unit) :
    List η → List η × Except Thrown Unit
  | [] => ([], .ok ())
  | h :: handlers =>
    match filter h with
    | .error thrown => ([], .error thrown)
    | .ok false => runHandlers filter callback handlers
    | .ok true =>
      match callback h with
      | .error .other => ([h], .error .other)
      | .ok () | .error (.stdException _) =>
        let (called, outcome) := runHandlers filter callback handlers
        (h :: called, outcome)

/-- `!h.filter || h.filter(q)`. -/
def CallbackQueryHandler.accepts {κ : Type} (q : κ) (h : CallbackQueryHandler κ) :
    Except Thrown Bool :=
  match h.filter with
  | none => .ok true
  | some filter => filter q

/-- `run_handlers` of `dispatch_message` and `dispatch_callback_query`: the copy of the handlers and the
    event. -/
inductive Task (μ κ : Type) where
  | message (handlers : List (MessageHandler μ)) (msg : μ)
  | callbackQuery (handlers : List (CallbackQueryHandler κ)) (q : κ)

/-- A call of `run_handlers`. -/
def Task.run {μ κ : Type} : Task μ κ → List (Handler μ κ) × Except Thrown Unit
  | .message handlers msg =>
    (runHandlers (·.filter msg) (·.callback msg) handlers).map (·.map .message) id
  | .callbackQuery handlers q =>
    (runHandlers (·.accepts q) (·.callback q) handlers).map (·.map .callbackQuery) id

/-! ## The client -/

/-- The classes of `td_api::AuthorizationState` that `handle_auth_state` tells apart. -/
inductive AuthorizationState where
  | waitTdlibParameters
  | waitPhoneNumber
  | waitEncryptionKey
  | waitCode
  | waitPassword
  | waitRegistration
  | ready
  | loggingOut
  | closed
  | other
  deriving DecidableEq, Repr

/-- What `handle_auth_state` sends to TDLib. -/
inductive AuthRequest where
  | setTdlibParameters
  | checkDatabaseEncryptionKey (key : String)
  | checkAuthenticationCode (code : String)
  | checkAuthenticationPassword (password : String)
  deriving DecidableEq, Repr

/-- C++ `class ClientImpl`, as far as the dispatcher thread uses it. A callback for a code or a password
    is what calling it comes to. Every constructor of `Client` sets `client_ref_`. -/
structure ClientImpl (μ κ : Type) where
  authState : AuthState := .None
  codeCallback : Option (Except Thrown String) := none
  passwordCallback : Option (Except Thrown String) := none
  clientRef : Bool := true
  middleware : List (MiddlewareFunc μ κ) := []
  threadPool : Option ((n : Nat) × ThreadPool (Task μ κ) n) := none
  onMessageHandlers : List (MessageHandler μ) := []
  onEditedMessageHandlers : List (EditedMessageHandler μ) := []
  onDeletedMessagesHandlers : List DeletedMessagesHandler := []
  onCallbackQueryHandlers : List (CallbackQueryHandler κ) := []
  attached : clientRef = true := by rfl

/-- A TDLib update, with what the conversions make of its object. -/
inductive Update (μ κ : Type) where
  | authorizationState (state : Option AuthorizationState)
  | user
  | newChat
  | newMessage (message : Option μ)
  | messageContent (message : μ)
  | deleteMessages (chatId : ChatId) (messageIds : List MessageId) (isPermanent : Bool)
  | newCallbackQuery (query : κ)
  | other

/-- What comes of an update. -/
structure Processed (μ κ : Type) where
  called : List (Handler μ κ) := []
  handed : Option (Task μ κ) := none
  sent : List AuthRequest := []
  outcome : Except Thrown Unit := .ok ()
  client : ClientImpl μ κ

/-- An exception of this library, as a `catch` sees it. -/
def Thrown.ofFault : Fault → Thrown
  | .runtimeError what | .invalidArgument what => .stdException what
  | .outOfBounds | .endlessLoop => .other

namespace ClientImpl

variable {μ κ : Type}

/-- The end of `dispatch_message` and `dispatch_callback_query`: enqueue `run_handlers` if there is a
    pool, else run it. -/
def submit (c : ClientImpl μ κ) (task : Task μ κ) : Processed μ κ :=
  match c.threadPool with
  | some ⟨n, pool⟩ =>
    match pool.enqueue task with
    | (.ok (), pool) => { handed := some task, client := { c with threadPool := some ⟨n, pool⟩ } }
    | (.error fault, _) => { outcome := .error (.ofFault fault), client := c }
  | none =>
    let (called, outcome) := task.run
    { called, outcome, client := c }

/-- `ClientImpl::dispatch_message`. -/
def dispatchMessage (c : ClientImpl μ κ) (msg : μ) : Processed μ κ :=
  if c.clientRef && !(MiddlewarePipeline.execute c.middleware { message := some msg }).1 then
    { client := c }
  else c.submit (.message c.onMessageHandlers msg)

/-- `ClientImpl::dispatch_edited_message`. -/
def dispatchEditedMessage (c : ClientImpl μ κ) (msg : μ) : Processed μ κ :=
  let (called, outcome) :=
    runHandlers (·.filter msg) (·.callback msg) c.onEditedMessageHandlers
  { called := called.map .editedMessage, outcome, client := c }

/-- `ClientImpl::dispatch_deleted_messages`. -/
def dispatchDeletedMessages (c : ClientImpl μ κ) (chatId : ChatId) (ids : List MessageId) :
    Processed μ κ :=
  let (called, outcome) :=
    runHandlers (fun _ => .ok true) (·.callback chatId ids) c.onDeletedMessagesHandlers
  { called := called.map .deletedMessages, outcome, client := c }

/-- `ClientImpl::dispatch_callback_query`. -/
def dispatchCallbackQuery (c : ClientImpl μ κ) (q : κ) : Processed μ κ :=
  if c.clientRef && !(MiddlewarePipeline.execute c.middleware { callbackQuery := some q }).1 then
    { client := c }
  else c.submit (.callbackQuery c.onCallbackQueryHandlers q)

/-- `throw AuthenticationError(...)` of `handle_auth_state`. -/
def noPasswordCallback : Thrown := .stdException "2FA password required but no callback provided"

/-- `ClientImpl::handle_auth_state`. -/
def handleAuthState (c : ClientImpl μ κ) (state : Option AuthorizationState) : Processed μ κ :=
  match state with
  | none => { client := c }
  | some .waitTdlibParameters =>
    { sent := [.setTdlibParameters], client := { c with authState := .None } }
  | some .waitPhoneNumber => { client := { c with authState := .WaitPhoneNumber } }
  | some .waitEncryptionKey =>
    { sent := [.checkDatabaseEncryptionKey ""], client := { c with authState := .WaitPassword } }
  | some .waitCode =>
    let c := { c with authState := .WaitCode }
    match c.codeCallback with
    | none => { client := c }
    | some (.ok code) => { sent := [.checkAuthenticationCode code], client := c }
    | some (.error thrown) => { outcome := .error thrown, client := c }
  | some .waitPassword =>
    let c := { c with authState := .WaitPassword }
    match c.passwordCallback with
    | none => { outcome := .error noPasswordCallback, client := c }
    | some (.ok pw) => { sent := [.checkAuthenticationPassword pw], client := c }
    | some (.error thrown) => { outcome := .error thrown, client := c }
  | some .waitRegistration => { client := { c with authState := .WaitRegistration } }
  | some .ready => { client := { c with authState := .Ready } }
  | some .loggingOut => { client := { c with authState := .LoggingOut } }
  | some .closed => { client := { c with authState := .Closed } }
  | some .other => { client := c }

/-- `ClientImpl::process_update`. -/
def processUpdate (c : ClientImpl μ κ) : Update μ κ → Processed μ κ
  | .authorizationState state => c.handleAuthState state
  | .newMessage (some msg) => c.dispatchMessage msg
  | .messageContent msg => c.dispatchEditedMessage msg
  | .deleteMessages chatId ids true => c.dispatchDeletedMessages chatId ids
  | .newCallbackQuery q => c.dispatchCallbackQuery q
  -- the caches of users and chats are not looked at by any handler
  | .user | .newChat | .newMessage none | .deleteMessages _ _ false | .other => { client := c }

/-- `ClientImpl::dispatcher_loop` on the updates it takes out of the queue, each with the client as it is
    then. An exception that gets out of `process_update` ends the thread. -/
def dispatcherLoop : List (ClientImpl μ κ × Update μ κ) → List (Processed μ κ)
  | [] => []
  | (c, u) :: updates =>
    let p := c.processUpdate u
    match p.outcome with
    | .ok () => p :: dispatcherLoop updates
    | .error _ => [p]

/-- The task that an update comes to, if the middleware lets it get that far. -/
def taskOf (c : ClientImpl μ κ) : Update μ κ → Option (Task μ κ)
  | .newMessage (some msg) =>
    if (MiddlewarePipeline.execute c.middleware { message := some msg }).1 then
      some (.message c.onMessageHandlers msg)
    else none
  | .newCallbackQuery q =>
    if (MiddlewarePipeline.execute c.middleware { callbackQuery := some q }).1 then
      some (.callbackQuery c.onCallbackQueryHandlers q)
    else none
  | _ => none

end ClientImpl

/-- The handlers whose callbacks an update calls, on the dispatcher thread or when the pool runs the
    task. -/
def Processed.calls {μ κ : Type} (p : Processed μ κ) : List (Handler μ κ) :=
  match p.handed with
  | some task => p.called ++ task.run.1
  | none => p.called

/-! ## What the dispatch functions come to -/

section

variable {η : Type} {filter : η → Except Thrown Bool} {callback : η → Except Thrown Unit}

/-- A handler is called for an event. -/
def Accepts (filter : η → Except Thrown Bool) (h : η) : Bool :=
  match filter h with
  | .ok accepts => accepts
  | .error _ => false

/-- A handler does not end the loop: its filter does not throw, and if it accepts the event its callback
    throws nothing but a `std::exception`. -/
def Tame (filter : η → Except Thrown Bool) (callback : η → Except Thrown Unit) (h : η) : Prop :=
  match filter h with
  | .ok true => callback h ≠ .error .other
  | .ok false => True
  | .error _ => False

/-- Every handler that accepts an event stands behind tame handlers only. -/
def Reached (filter : η → Except Thrown Bool) (callback : η → Except Thrown Unit)
    (handlers : List η) : Prop :=
  ∀ before h after, handlers = before ++ h :: after → Accepts filter h = true →
    ∀ b ∈ before, Tame filter callback b

/-- A handler in front must be tame if one behind it accepts the event. -/
lemma reached_cons {h : η} {handlers : List η} :
    Reached filter callback (h :: handlers) ↔
      Reached filter callback handlers ∧
        ((∃ a ∈ handlers, Accepts filter a = true) → Tame filter callback h) := by
  constructor
  · intro reached
    refine ⟨fun before a after split accepts b inside => ?_, fun ⟨a, inside, accepts⟩ => ?_⟩
    · exact reached (h :: before) a after (congrArg (h :: ·) split) accepts b
        (List.mem_cons_of_mem _ inside)
    · obtain ⟨before, after, rfl⟩ := List.append_of_mem inside
      exact reached (h :: before) a after rfl accepts h List.mem_cons_self
  · rintro ⟨reached, tame⟩ before a after split accepts b inside
    cases before with
    | nil => cases inside
    | cons first before =>
      obtain ⟨rfl, later⟩ := List.cons.inj split
      rcases List.mem_cons.mp inside with rfl | inside
      · exact tame ⟨a, later ▸ List.mem_append_right _ List.mem_cons_self, accepts⟩
      · exact reached before a after later accepts b inside

/-- No handler accepts the event: then all are reached, and none is to be called. -/
lemma nil_eq_filter_iff {handlers : List η} :
    [] = handlers.filter (Accepts filter) ↔
      Reached filter callback handlers ∧ ¬ ∃ a ∈ handlers, Accepts filter a = true := by
  constructor
  · intro empty
    have none_accept : ¬ ∃ a ∈ handlers, Accepts filter a = true := fun ⟨a, inside, accepts⟩ =>
      List.not_mem_nil (empty ▸ List.mem_filter.mpr ⟨inside, accepts⟩)
    refine ⟨fun before a after split accepts => ?_, none_accept⟩
    exact absurd ⟨a, split ▸ List.mem_append_right _ List.mem_cons_self, accepts⟩ none_accept
  · rintro ⟨-, none_accept⟩
    exact (List.filter_eq_nil_iff.mpr fun a inside accepts => none_accept ⟨a, inside, accepts⟩).symm

/-- The loop goes on behind a tame handler. -/
lemma runHandlers_tame {h : η} (tame : Tame filter callback h) (handlers : List η) :
    runHandlers filter callback (h :: handlers) =
      (if Accepts filter h then h :: (runHandlers filter callback handlers).1
        else (runHandlers filter callback handlers).1,
        (runHandlers filter callback handlers).2) := by
  cases filtered : filter h with
  | error thrown =>
    rw [Tame, filtered] at tame
    exact tame.elim
  | ok accepts =>
    cases accepts with
    | false => simp only [runHandlers, Accepts, filtered, Bool.false_eq_true, if_false]
    | true =>
      simp only [Tame, filtered] at tame
      simp only [runHandlers, Accepts, filtered, if_true]
      cases called : callback h with
      | ok _ => rfl
      | error thrown =>
        cases thrown with
        | stdException _ => rfl
        | other => exact absurd called tame

/-- The loop ends at a handler that is not tame. -/
lemma runHandlers_wild {h : η} (wild : ¬ Tame filter callback h) (handlers : List η) :
    ∃ thrown, runHandlers filter callback (h :: handlers) =
      (if Accepts filter h then [h] else [], .error thrown) := by
  cases filtered : filter h with
  | error thrown =>
    refine ⟨thrown, ?_⟩
    simp only [runHandlers, Accepts, filtered, Bool.false_eq_true, if_false]
  | ok accepts =>
    cases accepts with
    | false =>
      rw [Tame, filtered] at wild
      exact absurd trivial wild
    | true =>
      simp only [Tame, filtered, not_not] at wild
      refine ⟨.other, ?_⟩
      simp only [runHandlers, Accepts, filtered, wild, if_true]

/-- The loop calls every handler that accepts the event, in order, exactly when each of them is reached;
    and it throws nothing exactly when all handlers are tame. -/
lemma runHandlers_iff (handlers : List η) :
    ((runHandlers filter callback handlers).1 = handlers.filter (Accepts filter) ↔
      Reached filter callback handlers) ∧
    ((runHandlers filter callback handlers).2 = .ok () ↔
      ∀ h ∈ handlers, Tame filter callback h) := by
  induction handlers with
  | nil =>
    refine ⟨⟨fun _ before h after split => ?_, fun _ => rfl⟩, ⟨fun _ h inside => ?_, fun _ => rfl⟩⟩
    · cases before <;> cases split
    · cases inside
  | cons h handlers ih =>
    obtain ⟨ihCalled, ihOutcome⟩ := ih
    rw [reached_cons, List.forall_mem_cons, List.filter_cons]
    by_cases tame : Tame filter callback h
    · rw [runHandlers_tame tame, ihOutcome, ← ihCalled]
      refine ⟨?_, (and_iff_right tame).symm⟩
      simp only [tame, imp_true_iff, and_true]
      cases Accepts filter h
      · exact Iff.rfl
      · exact ⟨List.tail_eq_of_cons_eq, congrArg (h :: ·)⟩
    · obtain ⟨thrown, ended⟩ := runHandlers_wild tame handlers
      simp only [ended, tame, imp_false, reduceCtorEq, false_and, and_true]
      rw [← nil_eq_filter_iff]
      cases Accepts filter h
      · exact Iff.rfl
      · exact ⟨List.tail_eq_of_cons_eq, congrArg (h :: ·)⟩

end

end CppGram.Backend
