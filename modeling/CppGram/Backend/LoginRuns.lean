import CppGram.Backend.Login

/-!
# What logging in comes to

Whatever the threads do in between, a call returns only if the client has been ready during the call,
throws only if it has been closed, and sends its request once at most (`login_run`). `Goes` says what a
step of a call can do, `Steps` what a step of the system can do.
-/

namespace CppGram.Backend
open Transition

/-! ## One call -/

/-- One of the states has been awaited by the first or the second `wait`. -/
def Awaited (second : Bool) (seen : List AuthState) : Prop :=
  ∃ state ∈ seen, state.awaited second = true

/-- `Closed` has been overwritten. -/
def Reopened (seen : List AuthState) : Prop :=
  ∃ before after, seen = before ++ .Closed :: after ∧ ∃ state ∈ after, state ≠ .Closed

/-- What a call has seen of the state and has sent, when it is at a stage. -/
def LoginStage.Fits (seen : List AuthState) (asked : List LoginRequest) : LoginStage → Prop
  | .away | .starting _ => asked = []
  | .waiting _ false w => asked = [] ∧ (w = .passed → Awaited false seen)
  | .settling _ | .sending _ => asked = [] ∧ Awaited false seen
  | .waiting call true w =>
    (asked = [call.request] ∧ Awaited false seen) ∧ (w = .passed → Awaited true seen)
  | .returned call => (.Ready ∈ seen ∨ Reopened seen) ∧
    (asked = [] ∨ asked = [call.request] ∧ Awaited false seen)
  | .threw call => .Closed ∈ seen ∧ (asked = [] ∨ asked = [call.request] ∧ Awaited false seen)

/-- The call that a thread is in, or was in last. -/
def LoginStage.call : LoginStage → Option LoginCall
  | .away => none
  | .starting call | .waiting call _ _ | .settling call | .sending call | .returned call
  | .threw call => some call

/-- What has been seen stays seen. -/
lemma Awaited.more {second seen} (awaited : Awaited second seen) (state : AuthState) :
    Awaited second (seen ++ [state]) := by
  obtain ⟨old, member, holds⟩ := awaited
  exact ⟨old, List.mem_append_left _ member, holds⟩

/-- What has been reopened stays reopened. -/
lemma Reopened.more {seen} (reopened : Reopened seen) (state : AuthState) :
    Reopened (seen ++ [state]) := by
  obtain ⟨before, after, rfl, later, member, other⟩ := reopened
  refine ⟨before, after ++ [state], ?_, later, List.mem_append_left _ member, other⟩
  rw [List.append_assoc, List.cons_append]

/-- An awaited state that is not the last one: the client has been ready, or closed before. -/
lemma Awaited.ready_or_reopened {seen state} (awaited : Awaited true seen)
    (last : seen.getLast? = some state) (other : state ≠ .Closed) : .Ready ∈ seen ∨ Reopened seen := by
  obtain ⟨old, member, holds⟩ := awaited
  cases old with
  | Ready => exact .inl member
  | Closed =>
    obtain ⟨before, after, rfl⟩ := List.append_of_mem member
    refine .inr ⟨before, after, rfl, state, ?_, other⟩
    rw [List.getLast?_append_cons] at last
    rcases List.mem_cons.mp (List.mem_of_getLast? last) with closed | later
    · exact absurd closed other
    · exact later
  | None | WaitPhoneNumber | WaitCode | WaitPassword | WaitRegistration | LoggingOut => cases holds

/-- A stage goes on fitting when another state is seen. -/
lemma LoginStage.Fits.more {seen asked} {stage : LoginStage} (fits : stage.Fits seen asked)
    (state : AuthState) : stage.Fits (seen ++ [state]) asked := by
  cases stage with
  | away | starting call => exact fits
  | waiting call second w =>
    cases second with
    | false => exact ⟨fits.1, fun passed => (fits.2 passed).more state⟩
    | true =>
      obtain ⟨⟨asked, before⟩, now⟩ := fits
      exact ⟨⟨asked, before.more state⟩, fun passed => (now passed).more state⟩
  | settling call | sending call => exact ⟨fits.1, fits.2.more state⟩
  | returned call =>
    obtain ⟨seen, asked⟩ := fits
    refine ⟨seen.imp (List.mem_append_left _) (·.more state), asked.imp id ?_⟩
    exact fun ⟨asked, before⟩ => ⟨asked, before.more state⟩
  | threw call =>
    obtain ⟨seen, asked⟩ := fits
    refine ⟨List.mem_append_left _ seen, asked.imp id ?_⟩
    exact fun ⟨asked, before⟩ => ⟨asked, before.more state⟩

/-- A notification changes nothing that a stage has to fit. -/
lemma LoginStage.Fits.woken {seen asked} {stage : LoginStage} (fits : stage.Fits seen asked) :
    stage.woken.Fits seen asked := by
  cases stage with
  | waiting call second w =>
    have same : w.woken = .passed → w = .passed := by
      cases w with
      | passed => exact id
      | locking | checking | falling | asleep => nofun
    cases second with
    | true | false => exact ⟨fits.1, fun passed => fits.2 (same passed)⟩
  | away | starting call | settling call | sending call | returned call | threw call => exact fits

@[simp]
lemma LoginStage.holds_woken (stage : LoginStage) : stage.woken.holds = stage.holds := by
  cases stage with
  | waiting call second w => exact Waiter.holds_woken
  | away | starting call | settling call | sending call | returned call | threw call => rfl

namespace LoginSystem

variable {ι : Type} {s s' : LoginSystem ι}

@[simp]
lemma authState_register (s : LoginSystem ι) (call : LoginCall) :
    (s.register call).client.authState = s.client.authState := by
  cases call with
  | user phone code password | bot token => rfl

@[simp]
lemma register_frame (s : LoginSystem ι) (call : LoginCall) :
    (s.register call).logins = s.logins ∧ (s.register call).owner = s.owner ∧
      (s.register call).seen = s.seen ∧ (s.register call).asked = s.asked ∧
      (s.register call).dispatcher = s.dispatcher := by
  cases call with
  | user phone code password | bot token => exact ⟨rfl, rfl, rfl, rfl, rfl⟩

/-! ## What every step keeps -/

/-- Only the owner of the mutex is at a stage that holds it, and each call fits what it has seen. -/
structure Safe (s : LoginSystem ι) : Prop where
  mutex : ∀ i, (s.logins i).holds = true ↔ s.owner = some i
  now : ∀ i, s.logins i ≠ .away → (s.seen i).getLast? = some s.client.authState
  fits : ∀ i, (s.logins i).Fits (s.seen i) (s.asked i)

/-- To store a state, which all running calls see, keeps the system safe. -/
lemma Safe.setAuthState (safe : s.Safe) (authState : AuthState) : (s.setAuthState authState).Safe :=
  ⟨safe.mutex, fun _ _ => List.getLast?_concat, fun i => (safe.fits i).more authState⟩

/-- A notification keeps the system safe. -/
lemma Safe.woken (safe : s.Safe) (dispatcher : AuthDispatcher) :
    Safe { s with logins := fun i => (s.logins i).woken, dispatcher } := by
  refine ⟨fun i => ?_, fun i there => safe.now i ?_, fun i => (safe.fits i).woken⟩
  · rw [← safe.mutex i, LoginStage.holds_woken]
  · intro away
    exact there (congrArg LoginStage.woken away)

/-- What the dispatcher thread and `logout` do to the rest is nothing. -/
lemma Safe.frame (safe : s.Safe) (dispatcher : AuthDispatcher) (logouts : Nat)
    (sent : List LoginRequest) : Safe { s with dispatcher, logouts, sent } :=
  ⟨safe.mutex, safe.now, safe.fits⟩

/-- In the beginning everything is safe. -/
lemma safe_init : Safe ({} : LoginSystem ι) :=
  ⟨fun _ => ⟨nofun, nofun⟩, fun _ away => absurd rfl away, fun _ => rfl⟩

variable [DecidableEq ι]

/-! ## One step of a call -/

/-- What a step of a call can do: the call comes from one stage to another, takes the mutex or gives it
    back, and may send its request. -/
inductive Goes (s : LoginSystem ι) (i : ι) : LoginSystem ι → Prop where
  | ready {call} :
    s.logins i = .starting call →
    s.client.authState = .Ready →
    Goes s i (s.put i (.returned call))
  | registers {call} :
    s.logins i = .starting call →
    s.client.authState ≠ .Ready →
    Goes s i ((s.register call).put i (.waiting call false .locking))
  | waits {call second w w'} :
    s.logins i = .waiting call second w →
    w.next s.owner.isNone (s.client.authState.awaited second) = some w' →
    Goes s i { s.put i (.waiting call second w') with owner := if w'.holds then some i else none }
  | throws {call second} :
    s.logins i = .waiting call second .passed →
    s.client.authState = .Closed →
    Goes s i { s.put i (.threw call) with owner := none }
  | ends {call} :
    s.logins i = .waiting call true .passed →
    s.client.authState ≠ .Closed →
    Goes s i { s.put i (.returned call) with owner := none }
  | settles {call} :
    s.logins i = .waiting call false .passed →
    s.client.authState ≠ .Closed →
    Goes s i (s.put i (.settling call))
  | returns {call} :
    s.logins i = .settling call →
    s.client.authState = .Ready →
    Goes s i { s.put i (.returned call) with owner := none }
  | unlocks {call} :
    s.logins i = .settling call →
    s.client.authState ≠ .Ready →
    Goes s i { s.put i (.sending call) with owner := none }
  | sends {call} :
    s.logins i = .sending call →
    Goes s i { s.put i (.waiting call true .locking) with
      sent := s.sent ++ [call.request]
      asked := Function.update s.asked i (s.asked i ++ [call.request]) }

/-- A step of a login call is one of the ways to go. -/
lemma login_cases {i : ι} (taken : s.login i = some s') : Goes s i s' := by
  rw [login] at taken
  split at taken
  · cases taken
  · cases taken
  · cases taken
  · next call here =>
    split at taken
    · next ready =>
      cases taken
      exact .ready here ready
    · next other =>
      cases taken
      exact .registers here other
  · next call second here =>
    split at taken
    · next closed =>
      cases taken
      exact .throws here closed
    · next other =>
      cases second with
      | true =>
        cases taken
        exact .ends here other
      | false =>
        cases taken
        exact .settles here other
  · next call second w _ here =>
    obtain ⟨w', next, rfl⟩ := Option.map_eq_some_iff.mp taken
    exact .waits here next
  · next call here =>
    split at taken
    · next ready =>
      cases taken
      exact .returns here ready
    · next other =>
      cases taken
      exact .unlocks here other
  · next call here =>
    cases taken
    exact .sends here

/-- What a step of the call of `i` leaves alone, and what it does to the mutex. -/
structure Turns (s : LoginSystem ι) (i : ι) (stage : LoginStage) (s' : LoginSystem ι) : Prop where
  logins : s'.logins = Function.update s.logins i stage
  seen : s'.seen = s.seen
  authState : s'.client.authState = s.client.authState
  dispatcher : s'.dispatcher = s.dispatcher
  others : ∀ j ≠ i, s'.asked j = s.asked j
  mutex : (s'.owner = some i ∧ stage.holds = true ∧ (s.owner = none ∨ (s.logins i).holds = true)) ∨
    (s'.owner = none ∧ stage.holds = false ∧ (s.logins i).holds = true) ∨
    (s'.owner = s.owner ∧ stage.holds = (s.logins i).holds)

/-- A login call that goes on turns to another stage. -/
lemma Goes.turns {i : ι} (goes : Goes s i s') : ∃ stage, Turns s i stage s' := by
  cases goes with
  | ready here _ => exact ⟨_, rfl, rfl, rfl, rfl, fun _ _ => rfl, .inr (.inr ⟨rfl, by rw [here]; rfl⟩)⟩
  | @registers call here _ =>
    obtain ⟨logins, owner, seen, asked, dispatcher⟩ := s.register_frame call
    refine ⟨.waiting call false .locking, ?_, seen, s.authState_register call, dispatcher,
      fun j _ => congrFun asked j, .inr (.inr ⟨owner, ?_⟩)⟩
    · rw [put, logins]
    · rw [here]
      rfl
  | @waits call second w w' here next =>
    refine ⟨_, rfl, rfl, rfl, rfl, fun _ _ => rfl, ?_⟩
    rw [here]
    rcases Waiter.next_cases next with
      ⟨rfl, free, rfl⟩ | ⟨rfl, -, rfl⟩ | ⟨rfl, -, rfl⟩ | ⟨rfl, rfl⟩
    · exact .inl ⟨rfl, rfl, .inl (Option.isNone_iff_eq_none.mp free)⟩
    · exact .inl ⟨rfl, rfl, .inr rfl⟩
    · exact .inl ⟨rfl, rfl, .inr rfl⟩
    · exact .inr (.inl ⟨rfl, rfl, rfl⟩)
  | throws here _ =>
    exact ⟨_, rfl, rfl, rfl, rfl, fun _ _ => rfl, .inr (.inl ⟨rfl, rfl, by rw [here]; rfl⟩)⟩
  | ends here _ =>
    exact ⟨_, rfl, rfl, rfl, rfl, fun _ _ => rfl, .inr (.inl ⟨rfl, rfl, by rw [here]; rfl⟩)⟩
  | settles here _ =>
    exact ⟨_, rfl, rfl, rfl, rfl, fun _ _ => rfl, .inr (.inr ⟨rfl, by rw [here]; rfl⟩)⟩
  | returns here _ =>
    exact ⟨_, rfl, rfl, rfl, rfl, fun _ _ => rfl, .inr (.inl ⟨rfl, rfl, by rw [here]; rfl⟩)⟩
  | unlocks here _ =>
    exact ⟨_, rfl, rfl, rfl, rfl, fun _ _ => rfl, .inr (.inl ⟨rfl, rfl, by rw [here]; rfl⟩)⟩
  | sends here =>
    refine ⟨_, rfl, rfl, rfl, rfl, fun j other => Function.update_of_ne other _ _,
      .inr (.inr ⟨rfl, by rw [here]; rfl⟩)⟩

/-! ## One step of the system -/

/-- What a step of the system can do. -/
inductive Steps (s : LoginSystem ι) : Action ι → LoginSystem ι → Prop where
  | call {i call botToken} :
    (s.logins i).finished = true →
    Steps s (.call i call) { s.put i (.starting call) with
      botToken
      seen := Function.update s.seen i [s.client.authState]
      asked := Function.update s.asked i [] }
  | login {i s'} :
    Goes s i s' →
    Steps s (.login i) s'
  | wake {i call second} :
    s.logins i = .waiting call second .asleep →
    Steps s (.wake i) (s.put i (.waiting call second .locking))
  | store {state dispatcher} :
    s.dispatcher = .idle →
    dispatcher = (if state.notifies then .notifying state else .asking state) →
    Steps s (.store state)
      { s.setAuthState (s.client.handleAuthState (some state)).client.authState with dispatcher }
  | notify {state} :
    s.dispatcher = .notifying state →
    Steps s .notify { s with logins := fun i => (s.logins i).woken, dispatcher := .asking state }
  | ask {state sent dispatcher} :
    s.dispatcher = .asking state →
    dispatcher = .idle ∨ dispatcher = .threw →
    Steps s .ask { s with sent, dispatcher }
  | logOut {sent} :
    Steps s .logOut { s with sent, logouts := s.logouts + 1 }
  | loggingOut {logouts} :
    Steps s .loggingOut { s.setAuthState .LoggingOut with logouts }

/-- A step of the system is one of the ways to step. -/
lemma step_cases {a : Action ι} (taken : s.step a = some s') : Steps s a s' := by
  cases a with
  | call i call =>
    simp only [step] at taken
    split at taken
    · next finished =>
      cases taken
      exact .call finished
    · cases taken
  | login i => exact .login (login_cases taken)
  | wake i =>
    simp only [step] at taken
    split at taken
    · next call second here =>
      cases taken
      exact .wake here
    · cases taken
  | store state =>
    simp only [step] at taken
    split at taken
    · next idle =>
      cases taken
      exact .store idle rfl
    · cases taken
  | notify =>
    simp only [step] at taken
    split at taken
    · next state here =>
      cases taken
      exact .notify here
    · cases taken
  | ask =>
    simp only [step] at taken
    split at taken
    · next state here =>
      split at taken
      · cases taken
        exact .ask here (.inl rfl)
      · cases taken
        exact .ask here (.inr rfl)
    · cases taken
  | logOut =>
    cases taken
    exact .logOut
  | loggingOut =>
    simp only [step] at taken
    split at taken
    · cases taken
    · cases taken
      exact .loggingOut

/-! ## Every run is safe -/

/-- When a call turns to another stage, the mutex is still held by its owner alone. -/
lemma Turns.mutex_kept {i : ι} {stage} (turns : Turns s i stage s')
    (mutex : ∀ i, (s.logins i).holds = true ↔ s.owner = some i) (j : ι) :
    (s'.logins j).holds = true ↔ s'.owner = some j := by
  have held := mutex i
  rw [turns.logins]
  by_cases same : j = i
  · subst same
    rw [Function.update_self]
    rcases turns.mutex with ⟨owner, holds, -⟩ | ⟨owner, holds, -⟩ | ⟨owner, holds⟩
    · rw [owner, holds]
      exact ⟨fun _ => rfl, fun _ => rfl⟩
    · rw [owner, holds]
      exact ⟨nofun, nofun⟩
    · rw [owner, holds]
      exact held
  · rw [Function.update_of_ne same, mutex j]
    have ne : i ≠ j := fun e => same e.symm
    rcases turns.mutex with ⟨owner, -, before⟩ | ⟨owner, -, before⟩ | ⟨owner, -⟩
    · rw [owner]
      rcases before with free | holds
      · rw [free]
        exact ⟨nofun, fun e => absurd (Option.some.inj e) ne⟩
      · rw [held.mp holds]
    · rw [owner, held.mp before]
      exact ⟨fun e => absurd (Option.some.inj e) ne, nofun⟩
    · rw [owner]

/-- What a call has seen and sent fits its next stage, too. -/
lemma Goes.fits {i : ι} (goes : Goes s i s')
    (last : (s.seen i).getLast? = some s.client.authState)
    (fits : (s.logins i).Fits (s.seen i) (s.asked i)) :
    (s'.logins i).Fits (s'.seen i) (s'.asked i) := by
  have now := List.mem_of_getLast? last
  cases goes with
  | @ready call here ready =>
    rw [here] at fits
    simp only [put, Function.update_self]
    exact ⟨.inl (ready ▸ now), .inl fits⟩
  | @registers call here _ =>
    obtain ⟨-, -, seen, asked, -⟩ := s.register_frame call
    rw [here] at fits
    simp only [put, Function.update_self, seen, asked]
    exact ⟨fits, nofun⟩
  | @waits call second w w' here next =>
    rw [here] at fits
    simp only [put, Function.update_self]
    have passes : w' = .passed → Awaited second (s.seen i) := by
      rintro rfl
      rcases Waiter.next_cases next with ⟨-, -, e⟩ | ⟨-, awaited, -⟩ | ⟨-, -, e⟩ | ⟨-, e⟩
      · cases e
      · exact ⟨_, now, awaited⟩
      · cases e
      · cases e
    cases second with
    | true | false => exact ⟨fits.1, passes⟩
  | @throws call second here closed =>
    rw [here] at fits
    simp only [put, Function.update_self]
    refine ⟨closed ▸ now, ?_⟩
    cases second with
    | true => exact .inr fits.1
    | false => exact .inl fits.1
  | @ends call here other =>
    rw [here] at fits
    simp only [put, Function.update_self]
    exact ⟨(fits.2 rfl).ready_or_reopened last other, .inr fits.1⟩
  | @settles call here _ =>
    rw [here] at fits
    simp only [put, Function.update_self]
    exact ⟨fits.1, fits.2 rfl⟩
  | @returns call here ready =>
    rw [here] at fits
    simp only [put, Function.update_self]
    exact ⟨.inl (ready ▸ now), .inl fits.1⟩
  | @unlocks call here _ =>
    rw [here] at fits
    simp only [put, Function.update_self]
    exact fits
  | @sends call here =>
    rw [here] at fits
    simp only [put, Function.update_self, fits.1]
    exact ⟨⟨rfl, fits.2⟩, nofun⟩

/-- A step of a login call keeps the system safe. -/
lemma Safe.login {i : ι} (safe : s.Safe) (goes : Goes s i s') : s'.Safe := by
  obtain ⟨stage, turns⟩ := goes.turns
  have started : s.logins i ≠ .away := by
    intro away
    cases goes with
    | ready here | registers here | waits here | throws here | ends here | settles here
    | returns here | unlocks here | sends here => cases here.symm.trans away
  have now := safe.now i started
  have fits := safe.fits i
  refine ⟨turns.mutex_kept safe.mutex, fun j there => ?_, fun j => ?_⟩
  · rw [turns.authState, turns.seen]
    by_cases same : j = i
    · rw [same]
      exact now
    · rw [turns.logins, Function.update_of_ne same] at there
      exact safe.now j there
  · by_cases same : j = i
    · subst same
      exact goes.fits now fits
    · rw [turns.logins, turns.seen, turns.others j same, Function.update_of_ne same]
      exact safe.fits j

/-- A move to a stage without the mutex that fits keeps the system safe. -/
lemma Safe.put {i : ι} {stage : LoginStage} (safe : s.Safe) (unlocked : (s.logins i).holds = false)
    (stays : stage.holds = false) (here : s.logins i ≠ .away)
    (fits : stage.Fits (s.seen i) (s.asked i)) : (s.put i stage).Safe := by
  refine ⟨fun j => ?_, fun j there => ?_, fun j => ?_⟩
  all_goals
    simp only [LoginSystem.put] at *
    by_cases same : j = i
  · subst same
    rw [Function.update_self, stays, ← unlocked]
    exact safe.mutex j
  · rw [Function.update_of_ne same]
    exact safe.mutex j
  · subst same
    exact safe.now j here
  · rw [Function.update_of_ne same] at there
    exact safe.now j there
  · subst same
    rw [Function.update_self]
    exact fits
  · rw [Function.update_of_ne same]
    exact safe.fits j

/-- The beginning of a call keeps the system safe. -/
lemma Safe.call {i : ι} (safe : s.Safe) (finished : (s.logins i).finished = true) (call : LoginCall)
    (botToken : String) :
    Safe { s.put i (.starting call) with
      botToken
      seen := Function.update s.seen i [s.client.authState]
      asked := Function.update s.asked i [] } := by
  have unlocked : (s.logins i).holds = false := by
    cases here : s.logins i with
    | away | returned call | threw call => rfl
    | starting call | waiting call second w | settling call | sending call =>
      rw [here] at finished
      cases finished
  refine ⟨fun j => ?_, fun j there => ?_, fun j => ?_⟩
  all_goals
    simp only [LoginSystem.put] at *
    by_cases same : j = i
  · subst same
    rw [Function.update_self]
    exact (Bool.eq_iff_iff.mp unlocked.symm).trans (safe.mutex j)
  · rw [Function.update_of_ne same]
    exact safe.mutex j
  · subst same
    rw [Function.update_self]
    rfl
  · rw [Function.update_of_ne same] at there ⊢
    exact safe.now j there
  · subst same
    rw [Function.update_self, Function.update_self, Function.update_self]
    rfl
  · rw [Function.update_of_ne same, Function.update_of_ne same, Function.update_of_ne same]
    exact safe.fits j

/-- Every step keeps the system safe. -/
lemma Safe.step {a : Action ι} (safe : s.Safe) (taken : s.step a = some s') : s'.Safe := by
  cases step_cases taken with
  | @call i call _ finished => exact safe.call finished call _
  | login goes => exact safe.login goes
  | @wake i call second here =>
    have fits := safe.fits i
    rw [here] at fits
    refine safe.put (by rw [here]; rfl) rfl (by rw [here]; nofun) ?_
    cases second with
    | true | false => exact ⟨fits.1, nofun⟩
  | store => exact (safe.setAuthState _).frame _ _ _
  | notify => exact safe.woken _
  | ask | logOut => exact safe.frame _ _ _
  | loggingOut => exact (safe.setAuthState _).frame _ _ _

/-- In every run a thread holds the mutex exactly between locking and unlocking it. A call that returns
    has seen the client ready, or closed and then opened again; one that throws has seen it closed; and
    a call sends its own request once at most, when it has seen a state that the first `wait` waits
    for. -/
theorem login_run {actions : List (Action ι)} (ran : run step {} actions = some s) (i : ι) :
    ((s.logins i).holds = true ↔ s.owner = some i) ∧
      (∀ call, s.logins i = .returned call → .Ready ∈ s.seen i ∨ Reopened (s.seen i)) ∧
      (∀ call, s.logins i = .threw call → .Closed ∈ s.seen i) ∧
      (s.asked i = [] ∨
        Awaited false (s.seen i) ∧
          ∃ call, (s.logins i).call = some call ∧ s.asked i = [call.request]) := by
  have safe : s.Safe := run_invariant (fun safe taken => safe.step taken) safe_init ran
  have fits := safe.fits i
  refine ⟨safe.mutex i, fun call here => ?_, fun call here => ?_, ?_⟩
  · rw [here] at fits
    exact fits.1
  · rw [here] at fits
    exact fits.1
  · cases here : s.logins i with
    | away | starting call =>
      rw [here] at fits
      exact .inl fits
    | settling call | sending call =>
      rw [here] at fits
      exact .inl fits.1
    | waiting call second w =>
      rw [here] at fits
      cases second with
      | false => exact .inl fits.1
      | true =>
        obtain ⟨asked, awaited⟩ := fits.1
        exact .inr ⟨awaited, call, rfl, asked⟩
    | returned call | threw call =>
      rw [here] at fits
      exact fits.2.imp id fun ⟨asked, awaited⟩ => ⟨awaited, call, rfl, asked⟩

/-- A user logs in while a bot login waits for the mutex. -/
theorem login_run_returned : ∃ s : LoginSystem Bool,
    s.logins true = .returned (.user "+1" none none) ∧ s.owner = some false ∧
      (.Ready ∈ s.seen true ∨ Reopened (s.seen true)) :=
  have ran : run step {} [.call true (.user "+1" none none), .login true, .login true, .login true,
    .login true, .store .waitPhoneNumber, .notify, .ask, .login true, .call false (.bot "t"),
    .login true, .login true, .login true, .login false, .login true, .store .ready, .notify, .ask,
    .login true, .login true, .login true, .login false] = some _ := rfl
  ⟨_, rfl, rfl, (login_run ran true).2.1 _ rfl⟩

end LoginSystem

end CppGram.Backend
