import CppGram.Backend.Dispatch
import CppGram.Lib.CondVar
import CppGram.Lib.Transition

/-!
# Logging in

`Client::login`, `loginBot` and `logout` with `ClientImpl::wait_for_auth` and the part of
`handle_auth_state` that they wait for (C++ `client.cpp`). Any number of threads call them at once. The
authorization state is an atomic: the dispatcher thread stores it and notifies `auth_cv_`, neither of
them under `auth_mtx_`, and only then sends what the state asks for; `logout` stores it and notifies
nobody.
-/

namespace CppGram.Backend
open Transition

/-- A call of `login` or of `loginBot`. A callback is what calling it comes to. -/
inductive LoginCall where
  | user (phone : String) (codeCallback passwordCallback : Option (Except Thrown String))
  | bot (token : String)

/-- What is sent to TDLib. -/
inductive LoginRequest where
  | setAuthenticationPhoneNumber (phone : String)
  | checkAuthenticationBotToken (token : String)
  | logOut
  | auth (request : AuthRequest)
  deriving DecidableEq, Repr

/-- What a call sends. -/
def LoginCall.request : LoginCall → LoginRequest
  | .user phone _ _ => .setAuthenticationPhoneNumber phone
  | .bot token => .checkAuthenticationBotToken token

/-- Where a thread is that logs in. -/
inductive LoginStage where
  | away
  /-- In front of the first look at the state. -/
  | starting (call : LoginCall)
  /-- In the first `wait`, or in that of `wait_for_auth(AuthState::Ready)`. -/
  | waiting (call : LoginCall) (second : Bool) (w : Waiter)
  /-- Behind the first `wait`; the state was not `Closed`. -/
  | settling (call : LoginCall)
  /-- In front of `td.send`, with the mutex unlocked. -/
  | sending (call : LoginCall)
  | returned (call : LoginCall)
  | threw (call : LoginCall)

/-- Where the dispatcher thread is in `handle_auth_state`. -/
inductive AuthDispatcher where
  | idle
  /-- It has stored the state and is about to notify. -/
  | notifying (state : AuthorizationState)
  /-- It is about to send what the state asks for. -/
  | asking (state : AuthorizationState)
  /-- An exception has got out of `handle_auth_state`. -/
  | threw

/-- The threads that log in, with what they share. `client` has the state and the callbacks. -/
structure LoginSystem (ι : Type) where
  client : ClientImpl Unit Unit := {}
  botToken : String := ""
  /-- The thread that has locked `auth_mtx_`. -/
  owner : Option ι := none
  logins : ι → LoginStage := fun _ => .away
  dispatcher : AuthDispatcher := .idle
  /-- The `logout` calls that have sent their request and not yet stored the state. -/
  logouts : Nat := 0
  sent : List LoginRequest := []
  /-- The states there were since a thread has begun its last call. -/
  seen : ι → List AuthState := fun _ => []
  /-- The requests that the call has sent. -/
  asked : ι → List LoginRequest := fun _ => []

namespace AuthorizationState

/-- The branches of `handle_auth_state` that call `notify_all`. -/
def notifies : AuthorizationState → Bool
  | .waitTdlibParameters | .other => false
  | _ => true

end AuthorizationState

/-- The states that a `wait` waits for. -/
def AuthState.awaited (second : Bool) : AuthState → Bool
  | .Ready | .Closed => true
  | .WaitPhoneNumber => !second
  | _ => false

namespace LoginStage

/-- `auth_mtx_` is locked. -/
def holds : LoginStage → Bool
  | .waiting _ _ w => w.holds
  | .settling _ => true
  | _ => false

/-- The call is over, or there was none. -/
def finished : LoginStage → Bool
  | .away | .returned _ | .threw _ => true
  | _ => false

/-- A notification, as it reaches a login call. -/
def woken : LoginStage → LoginStage
  | .waiting call second w => .waiting call second w.woken
  | stage => stage

end LoginStage

namespace LoginSystem

variable {ι : Type} [DecidableEq ι]

/-- What a thread does next. -/
inductive Action (ι : Type) where
  /-- A thread calls `login` or `loginBot`. -/
  | call (i : ι) (call : LoginCall)
  /-- It goes on with its call. -/
  | login (i : ι)
  /-- It wakes up without a notification. -/
  | wake (i : ι)
  /-- The dispatcher thread stores the state of an update. -/
  | store (state : AuthorizationState)
  | notify
  /-- It sends what the state asks for. -/
  | ask
  /-- A thread calls `logout`, which sends `logOut`. -/
  | logOut
  /-- The call stores the state. -/
  | loggingOut

/-- Moves a login call to another stage. -/
def put (s : LoginSystem ι) (i : ι) (stage : LoginStage) : LoginSystem ι :=
  { s with logins := Function.update s.logins i stage }

/-- The state is stored. -/
def setAuthState (s : LoginSystem ι) (authState : AuthState) : LoginSystem ι :=
  { s with client := { s.client with authState }, seen := fun i => s.seen i ++ [authState] }

/-- What a call does between its first look at the state and its first `wait`. -/
def register (s : LoginSystem ι) : LoginCall → LoginSystem ι
  | .user _ codeCallback passwordCallback =>
    { s with client := { s.client with codeCallback, passwordCallback } }
  | .bot _ => s

/-- The next step of a call. -/
def login (s : LoginSystem ι) (i : ι) : Option (LoginSystem ι) :=
  match s.logins i with
  | .away | .returned _ | .threw _ => none
  | .starting call =>
    if s.client.authState = .Ready then some (s.put i (.returned call))
    else some ((s.register call).put i (.waiting call false .locking))
  | .waiting call second .passed =>
    if s.client.authState = .Closed then some { s.put i (.threw call) with owner := none }
    else if second then some { s.put i (.returned call) with owner := none }
    else some (s.put i (.settling call))
  | .waiting call second w =>
    (w.next s.owner.isNone (s.client.authState.awaited second)).map fun w =>
      { s.put i (.waiting call second w) with owner := if w.holds then some i else none }
  | .settling call =>
    if s.client.authState = .Ready then some { s.put i (.returned call) with owner := none }
    else some { s.put i (.sending call) with owner := none }
  | .sending call =>
    some { s.put i (.waiting call true .locking) with
      sent := s.sent ++ [call.request]
      asked := Function.update s.asked i (s.asked i ++ [call.request]) }

/-- One step of a login call, of the dispatcher thread or of a logout, or a spurious wake-up. -/
def step (s : LoginSystem ι) : Action ι → Option (LoginSystem ι)
  | .call i call =>
    if (s.logins i).finished then
      some { s.put i (.starting call) with
        -- `loginBot` stores the token first
        botToken := match call with | .user _ _ _ => s.botToken | .bot token => token
        seen := Function.update s.seen i [s.client.authState]
        asked := Function.update s.asked i [] }
    else none
  | .login i => s.login i
  | .wake i =>
    match s.logins i with
    | .waiting call second .asleep => some (s.put i (.waiting call second .locking))
    | _ => none
  | .store state =>
    match s.dispatcher with
    | .idle =>
      let s := s.setAuthState (s.client.handleAuthState (some state)).client.authState
      some { s with dispatcher := if state.notifies then .notifying state else .asking state }
    | _ => none
  | .notify =>
    match s.dispatcher with
    | .notifying state =>
      some { s with logins := fun i => (s.logins i).woken, dispatcher := .asking state }
    | _ => none
  | .ask =>
    match s.dispatcher with
    | .asking state =>
      let p := s.client.handleAuthState (some state)
      let sent := s.sent ++ p.sent.map .auth
      match p.outcome with
      | .ok () => some { s with sent, dispatcher := .idle }
      | .error _ => some { s with sent, dispatcher := .threw }
    | _ => none
  | .logOut => some { s with sent := s.sent ++ [.logOut], logouts := s.logouts + 1 }
  | .loggingOut =>
    if s.logouts = 0 then none
    else some { s.setAuthState .LoggingOut with logouts := s.logouts - 1 }

end LoginSystem

end CppGram.Backend
