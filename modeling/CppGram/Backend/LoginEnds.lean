import CppGram.Backend.LoginRuns

/-!
# When logging in ends

The dispatcher thread stores and notifies without the mutex, and a notification that comes between a
look at the state and the sleep behind it is lost. Where none is (`Meets … NotifiedInTime`) nobody
sleeps through a state that he waits for, and once the client is ready or closed and has notified, all
calls end (`logins_end`).
-/

namespace CppGram.Backend
open Transition

/-- The steps that a call has left, at most, when the client is ready or closed. -/
def LoginStage.distance : LoginStage → Nat
  | .away | .returned _ | .threw _ => 0
  | .starting _ => 9
  | .waiting _ false w => 6 + w.distance
  | .settling _ => 5
  | .sending _ => 4
  | .waiting _ true w => 1 + w.distance

/-- How a call ends when the client is ready, or else closed. -/
def LoginStage.ended (authState : AuthState) : LoginStage → LoginStage
  | .starting call | .waiting call _ _ | .settling call | .sending call =>
    if authState = .Ready then .returned call else .threw call
  | stage => stage

namespace LoginSystem

variable {ι : Type} {s s' : LoginSystem ι}

/-- The client is ready or closed, everybody knows, and the mutex is in order. -/
structure Decided (s : LoginSystem ι) : Prop where
  authState : s.client.authState = .Ready ∨ s.client.authState = .Closed
  up : ∀ i call second w, s.logins i = .waiting call second w → w ≠ .asleep ∧ w ≠ .falling
  mutex : ∀ i, (s.logins i).holds = true ↔ s.owner = some i

/-- Both waits wait for a state that decides. -/
lemma Decided.awaited (decided : s.Decided) (second : Bool) :
    s.client.authState.awaited second = true := by
  rcases decided.authState with e | e
  · rw [e]
    rfl
  · rw [e]
    rfl

variable [DecidableEq ι]

/-! ## Notifications in time -/

/-- No notification comes while a thread has looked at the state, has found it wanting and is not yet
    asleep, and the state now is one it waits for. -/
def NotifiedInTime (s : LoginSystem ι) : Action ι → Prop
  | .notify => ∀ i call second, s.logins i = .waiting call second .falling →
    s.client.authState.awaited second = false
  | _ => True

/-- Nobody sleeps through a state that he waits for. -/
def Awake (s : LoginSystem ι) : Prop :=
  ∀ i call second w, s.logins i = .waiting call second w → w = .asleep ∨ w = .falling →
    s.client.authState.awaited second = true → ∃ state, s.dispatcher = .notifying state

/-- Who is about to sleep through an awaited state had looked before the state was there. -/
lemma Goes.falls {i : ι} (goes : Goes s i s') {call second w}
    (here : s'.logins i = .waiting call second w) (sleeps : w = .asleep ∨ w = .falling)
    (awaited : s.client.authState.awaited second = true) :
    s.logins i = .waiting call second .falling := by
  cases goes with
  | @waits call' second' w' w'' before next =>
    simp only [put, Function.update_self] at here
    obtain ⟨rfl, rfl, rfl⟩ := LoginStage.waiting.inj here
    rcases Waiter.next_cases next with ⟨-, -, rfl⟩ | ⟨-, -, rfl⟩ | ⟨-, wanting, -⟩ | ⟨rfl, -⟩
    · rcases sleeps with e | e <;> cases e
    · rcases sleeps with e | e <;> cases e
    · cases wanting.symm.trans awaited
    · exact before
  | registers before =>
    simp only [put, Function.update_self] at here
    obtain ⟨-, -, rfl⟩ := LoginStage.waiting.inj here
    rcases sleeps with e | e <;> cases e
  | sends before =>
    simp only [put, Function.update_self] at here
    obtain ⟨-, -, rfl⟩ := LoginStage.waiting.inj here
    rcases sleeps with e | e <;> cases e
  | ready | throws | ends | settles | returns | unlocks =>
    simp only [put, Function.update_self] at here
    cases here

/-- Nobody sleeps through a state when a call comes to a stage at which it is awake. -/
lemma Awake.put {i : ι} {stage : LoginStage} (awake : s.Awake)
    (up : ∀ call second w, stage = .waiting call second w → w ≠ .asleep ∧ w ≠ .falling) :
    (s.put i stage).Awake := by
  intro j call second w here sleeps awaited
  by_cases same : j = i
  · subst same
    simp only [LoginSystem.put, Function.update_self] at here
    obtain ⟨notAsleep, notFalling⟩ := up call second w here
    rcases sleeps with e | e
    · exact absurd e notAsleep
    · exact absurd e notFalling
  · simp only [LoginSystem.put, Function.update_of_ne same] at here
    exact awake j call second w here sleeps awaited

/-- A step of a login call lets nobody sleep through a state it waits for. -/
lemma Awake.login {i : ι} (awake : s.Awake) (goes : Goes s i s') : s'.Awake := by
  obtain ⟨stage, turns⟩ := goes.turns
  intro j call second w here sleeps awaited
  rw [turns.authState] at awaited
  rw [turns.dispatcher]
  by_cases same : j = i
  · subst same
    exact awake j call second .falling (goes.falls here sleeps awaited) (.inr rfl) awaited
  · rw [turns.logins, Function.update_of_ne same] at here
    exact awake j call second w here sleeps awaited

/-- A state that nobody is notified of is not awaited, or there before. -/
lemma awaited_of_silent {c : ClientImpl Unit Unit} {state : AuthorizationState} {second : Bool}
    (silent : state.notifies = false)
    (awaited : (c.handleAuthState (some state)).client.authState.awaited second = true) :
    c.authState.awaited second = true := by
  cases state with
  | waitTdlibParameters => cases awaited
  | other => exact awaited
  | waitEncryptionKey | waitPhoneNumber | waitCode | waitPassword | waitRegistration | ready
  | loggingOut | closed => cases silent

/-- A step lets nobody sleep through a state he waits for, if notifications are in time. -/
lemma Awake.step {a : Action ι} (awake : s.Awake) (inTime : NotifiedInTime s a)
    (taken : s.step a = some s') : s'.Awake := by
  cases step_cases taken with
  | call finished => exact awake.put (by rintro _ _ _ ⟨⟩)
  | login goes => exact awake.login goes
  | wake here =>
    refine awake.put ?_
    rintro _ _ _ ⟨⟩
    exact ⟨nofun, nofun⟩
  | @store state dispatcher idle next =>
    intro i call second w here sleeps awaited
    cases loud : state.notifies with
    | true =>
      rw [loud] at next
      exact ⟨state, next⟩
    | false =>
      -- who sleeps did so before, and the dispatcher was not notifying
      obtain ⟨state', busy⟩ := awake i call second w here sleeps (awaited_of_silent loud awaited)
      cases idle.symm.trans busy
  | notify =>
    intro i call second w here sleeps awaited
    cases before : s.logins i with
    | waiting call' second' w' =>
      simp only [before, LoginStage.woken] at here
      obtain ⟨rfl, rfl, rfl⟩ := LoginStage.waiting.inj here
      rcases sleeps with asleep | falling
      · exact absurd asleep Waiter.woken_ne_asleep
      · rw [Waiter.woken_eq_falling.mp falling] at before
        cases (inTime i call' second' before).symm.trans awaited
    | away | starting | settling | sending | returned | threw =>
      simp only [before, LoginStage.woken] at here
      cases here
  | ask here next =>
    intro i call second w waits sleeps awaited
    obtain ⟨state, busy⟩ := awake i call second w waits sleeps awaited
    cases here.symm.trans busy
  | logOut => exact awake
  | loggingOut => rintro i call second w here sleeps ⟨⟩

/-! ## The way to the end -/

/-- The client stays decided when a login call goes on. -/
lemma Decided.login {i : ι} (decided : s.Decided) (taken : s.login i = some s') : s'.Decided := by
  have goes := login_cases taken
  obtain ⟨stage, turns⟩ := goes.turns
  refine ⟨?_, fun j call second w here => ?_, turns.mutex_kept decided.mutex⟩
  · rw [turns.authState]
    exact decided.authState
  · by_cases same : j = i
    · subst same
      have awaited := decided.awaited second
      have before : w = .asleep ∨ w = .falling → False := fun sleeps =>
        (decided.up j call second .falling (goes.falls here sleeps awaited)).2 rfl
      exact ⟨fun e => before (.inl e), fun e => before (.inr e)⟩
    · rw [turns.logins, Function.update_of_ne same] at here
      exact decided.up j call second w here

/-- A step of a call brings it nearer to its end, which stays the same. -/
lemma Decided.nearer {i : ι} (decided : s.Decided) (taken : s.login i = some s') :
    (s'.logins i).distance < (s.logins i).distance ∧
      (s'.logins i).ended s.client.authState = (s.logins i).ended s.client.authState := by
  have settled := decided.authState
  cases login_cases taken with
  | ready here ready =>
    simp only [put, Function.update_self, here, LoginStage.ended, ready, if_pos]
    exact ⟨Nat.zero_lt_succ _, trivial⟩
  | @registers call here other =>
    simp only [put, Function.update_self, here, LoginStage.ended]
    exact ⟨Nat.lt_succ_self _, trivial⟩
  | @waits call second w w' here next =>
    obtain ⟨-, notFalling⟩ := decided.up i call second w here
    simp only [put, Function.update_self, here, LoginStage.ended]
    refine ⟨?_, trivial⟩
    have down : w'.distance < w.distance := by
      rcases Waiter.next_cases next with ⟨rfl, -, rfl⟩ | ⟨rfl, -, rfl⟩ | ⟨-, wanting, -⟩ | ⟨e, -⟩
      · decide
      · decide
      · cases wanting.symm.trans (decided.awaited second)
      · exact absurd e notFalling
    cases second with
    | true => exact Nat.add_lt_add_left down 1
    | false => exact Nat.add_lt_add_left down 6
  | @throws call second here closed =>
    simp only [put, Function.update_self, here, LoginStage.ended, closed]
    refine ⟨?_, rfl⟩
    cases second with
    | true | false => exact Nat.zero_lt_succ _
  | @ends call here other =>
    have ready := settled.resolve_right other
    simp only [put, Function.update_self, here, LoginStage.ended, ready, if_pos]
    exact ⟨Nat.zero_lt_succ _, trivial⟩
  | settles here other =>
    simp only [put, Function.update_self, here, LoginStage.ended]
    exact ⟨Nat.lt_succ_self _, trivial⟩
  | returns here ready =>
    simp only [put, Function.update_self, here, LoginStage.ended, ready, if_pos]
    exact ⟨Nat.zero_lt_succ _, trivial⟩
  | unlocks here other =>
    simp only [put, Function.update_self, here, LoginStage.ended]
    exact ⟨Nat.lt_succ_self _, trivial⟩
  | sends here =>
    simp only [put, Function.update_self, here, LoginStage.ended]
    exact ⟨Nat.lt_succ_self _, trivial⟩

/-- A call can go on unless it sleeps or another thread has locked the mutex. -/
lemma login_ne_none {i : ι} (finished : (s.logins i).finished = false)
    (goes : ∀ call second w, s.logins i = .waiting call second w →
      w ≠ .asleep ∧ (w = .locking → s.owner = none)) : s.login i ≠ none := by
  intro stuck
  cases here : s.logins i with
  | away | returned call | threw call =>
    rw [here] at finished
    cases finished
  | starting call | settling call =>
    simp only [login, here] at stuck
    split at stuck <;> cases stuck
  | sending call =>
    simp only [login, here] at stuck
    cases stuck
  | waiting call second w =>
    obtain ⟨awake, free⟩ := goes call second w here
    cases w with
    | locking =>
      simp only [login, here, free rfl] at stuck
      cases stuck
    | checking | falling =>
      simp only [login, here] at stuck
      cases stuck
    | asleep => exact awake rfl
    | passed =>
      simp only [login, here] at stuck
      split at stuck
      · cases stuck
      · split at stuck <;> cases stuck

/-- Where no call can go on, all are over: whoever waits for the mutex waits for a call that can. -/
lemma Decided.finished (decided : s.Decided) (stuck : ∀ i, s.login i = none) (i : ι) :
    (s.logins i).finished = true := by
  have free : s.owner = none := by
    by_contra locked
    obtain ⟨j, owner⟩ := Option.ne_none_iff_exists'.mp locked
    have holds := (decided.mutex j).mpr owner
    refine login_ne_none ?_ (fun call second w here => ⟨(decided.up j call second w here).1, ?_⟩)
      (stuck j)
    · cases here : s.logins j with
      | waiting | settling => rfl
      | away | starting | sending | returned | threw =>
        rw [here] at holds
        cases holds
    · rintro rfl
      rw [here] at holds
      cases holds
  by_contra running
  exact login_ne_none (Bool.eq_false_iff.mpr running)
    (fun call second w here => ⟨(decided.up i call second w here).1, fun _ => free⟩) (stuck i)

/-- The steps that are left in all calls together bound how often the calls can go on. -/
lemma Decided.run [Fintype ι] {path : List ι} (decided : s.Decided)
    (ran : run LoginSystem.login s path = some s') :
    s'.Decided ∧ path.length + ∑ i, (s'.logins i).distance ≤ ∑ i, (s.logins i).distance ∧
      ∀ i, (s'.logins i).ended s.client.authState = (s.logins i).ended s.client.authState := by
  induction path generalizing s with
  | nil =>
    cases ran
    exact ⟨decided, (Nat.zero_add _).le, fun _ => rfl⟩
  | cons i path ih =>
    obtain ⟨next, taken, rest⟩ := Option.bind_eq_some_iff.mp ((run_cons s i path).symm.trans ran)
    obtain ⟨stage, turns⟩ := (login_cases taken).turns
    obtain ⟨down, same⟩ := decided.nearer taken
    obtain ⟨decided', bound, ended⟩ := ih (decided.login taken) rest
    rw [turns.authState] at ended
    have total := sum_update LoginStage.distance s.logins i stage
    rw [turns.logins, Function.update_self] at down same
    rw [turns.logins] at bound ended
    refine ⟨decided', ?_, fun j => (ended j).trans ?_⟩
    · rw [List.length_cons]
      omega
    · by_cases other : j = i
      · rw [other, Function.update_self]
        exact same
      · rw [Function.update_of_ne other]

/-- Once the client is ready or closed and no notification is due, the calls come to an end by
    themselves: they can go on only so often, and when none can any more each of them has ended, with
    `Ready` by returning and with `Closed` by throwing. -/
theorem logins_end [Fintype ι] {actions : List (Action ι)} (ran : run step {} actions = some s)
    (inTime : Meets step NotifiedInTime {} actions)
    (decided : s.client.authState = .Ready ∨ s.client.authState = .Closed)
    (notified : ∀ state, s.dispatcher ≠ .notifying state) {path : List ι}
    (later : run login s path = some s') :
    path.length ≤ ∑ i, (s.logins i).distance ∧
      ((∀ i, s'.login i = none) → ∀ i, s'.logins i = (s.logins i).ended s.client.authState) := by
  have safe : s.Safe := run_invariant (fun safe taken => safe.step taken) safe_init ran
  have awake : s.Awake := run_invariant_under (fun awake inTime taken => awake.step inTime taken)
    (by rintro _ _ _ _ ⟨⟩) inTime ran
  have awaited (second : Bool) : s.client.authState.awaited second = true := by
    rcases decided with e | e
    · rw [e]
      rfl
    · rw [e]
      rfl
  have up : s.Decided := by
    refine ⟨decided, fun i call second w here => ?_, safe.mutex⟩
    have never (sleeps : w = .asleep ∨ w = .falling) : False := by
      obtain ⟨state, due⟩ := awake i call second w here sleeps (awaited second)
      exact notified state due
    exact ⟨fun e => never (.inl e), fun e => never (.inr e)⟩
  obtain ⟨up', bound, ended⟩ := up.run later
  refine ⟨Nat.le_of_add_right_le bound, fun stuck i => ?_⟩
  rw [← ended i]
  cases here : s'.logins i with
  | away | returned call | threw call => rfl
  | starting | waiting | settling | sending =>
    have finished := up'.finished stuck i
    rw [here] at finished
    cases finished

/-- A bot that is on its way to sleep when another state is notified, sleeps, and is woken when the
    client gets ready. -/
def sleepsThenWoken : List (Action Unit) := [
  .call () (.bot "t"), .login (), .login (), .login (), .store .waitCode, .notify, .login (), .ask,
  .store .ready, .notify, .ask]

/-- It sleeps, is woken in time, and its call returns. -/
theorem logins_end_returned : ∃ s s' : LoginSystem Unit,
    (run step {} (sleepsThenWoken.take 8)).map (fun s => s.logins ()) =
      some (.waiting (.bot "t") false .asleep) ∧
    run step {} sleepsThenWoken = some s ∧ s.logins () = .waiting (.bot "t") false .locking ∧
    run login s [(), (), (), ()] = some s' ∧ ∀ i, s'.logins i = (s.logins i).ended .Ready := by
  have ran : run step {} sleepsThenWoken = some (_ : LoginSystem Unit) := rfl
  have inTime : Meets step NotifiedInTime {} sleepsThenWoken := by
    refine (meets_cons rfl).mpr ⟨trivial, (meets_cons rfl).mpr ⟨trivial, ?_⟩⟩
    refine (meets_cons rfl).mpr ⟨trivial, (meets_cons rfl).mpr ⟨trivial, ?_⟩⟩
    -- the state `WaitCode` is none that it waits for
    refine (meets_cons rfl).mpr ⟨trivial, (meets_cons rfl).mpr ⟨fun _ _ _ _ => rfl, ?_⟩⟩
    refine (meets_cons rfl).mpr ⟨trivial, (meets_cons rfl).mpr ⟨trivial, ?_⟩⟩
    -- and now it sleeps already
    refine (meets_cons rfl).mpr ⟨trivial, (meets_cons rfl).mpr ⟨by rintro _ _ _ ⟨⟩, ?_⟩⟩
    exact (meets_cons rfl).mpr ⟨trivial, meets_nil _⟩
  refine ⟨_, _, rfl, ran, rfl, rfl, ?_⟩
  exact (logins_end ran inTime (.inl rfl) (by rintro _ ⟨⟩)
    (rfl : run login _ [(), (), (), ()] = some _)).2 fun _ => rfl

/-- The notification falls between the look and the sleep: the client is ready and the bot sleeps. -/
example : (run step {} [.call () (.bot "t"), .login (), .login (), .login (), .store .ready, .notify,
    .ask, .login ()]).map (fun s => (s.client.authState, s.logins ())) =
    some (.Ready, .waiting (.bot "t") false .asleep) := rfl

end LoginSystem

end CppGram.Backend
