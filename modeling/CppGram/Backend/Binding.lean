import CppGram.Backend.Entities
import CppGram.Lib.Transition

/-!
# Entities that are bound to their client

`process_update` puts users and chats into the caches without a pointer to the client, `getMe`,
`getUser` and `getChat` put them there with one, and `getUser` and `getChat` return what the cache has.
So what is returned is bound to the client if the entry was last written by a query (`bound_iff`).
-/

namespace CppGram.Backend
open Transition

/-- What is processed or called. A call of `getUser` or `getChat` looks into the cache, and takes the
    answer of TDLib if nothing is found; other threads may come in between. -/
inductive Event where
  | updateUser (user : Option TdApi.User)
  | updateNewChat (chat : Option TdApi.Chat)
  | getMe (answer : Option TdApi.Object)
  | findUser (id : UserId)
  | receiveUser (answer : Option TdApi.Object)
  | findChat (id : ChatId)
  | receiveChat (answer : Option TdApi.Object)

/-- A client, what has happened to it, the latest first, and what it has returned. -/
structure ObservedClient where
  self : Nat
  caches : Caches := {}
  history : List Event := []
  users : List User := []
  chats : List Chat := []

namespace ObservedClient

/-- A call returns, or throws. -/
def returnUser (s : ObservedClient) : Except QueryFault User × Caches → ObservedClient
  | (.ok user, caches) => { s with caches, users := user :: s.users }
  | (.error _, caches) => { s with caches }

/-- What a caller gets of a chat, and the caches behind it. -/
def returnChat (s : ObservedClient) : Except QueryFault Chat × Caches → ObservedClient
  | (.ok chat, caches) => { s with caches, chats := chat :: s.chats }
  | (.error _, caches) => { s with caches }

/-- One event: an update that is processed, or a query that looks up, asks or receives. -/
def step (s : ObservedClient) (e : Event) : Option ObservedClient :=
  let after := { s with history := e :: s.history }
  match e with
  | .updateUser user => some { after with caches := s.caches.updateUser user }
  | .updateNewChat chat => some { after with caches := s.caches.updateNewChat chat }
  | .getMe answer => some (after.returnUser (s.caches.getMe s.self answer))
  | .findUser id => some { after with users := (s.caches.findUser id).toList ++ s.users }
  | .receiveUser answer =>
    some (after.returnUser (s.caches.receiveUser s.self (Json.ascii "getUser") answer))
  | .findChat id => some { after with chats := (s.caches.findChat id).toList ++ s.chats }
  | .receiveChat answer => some (after.returnChat (s.caches.receiveChat s.self answer))

/-- Whatever has been returned is bound to the client, and each method of a chat is called on it. -/
structure Bound (s : ObservedClient) : Prop where
  users : ∀ user ∈ s.users, user.client = some s.self
  chats : ∀ chat ∈ s.chats, chat.client = some s.self ∧
    ∀ call, chat.onClient call = some (s.self, call chat.id)

end ObservedClient

namespace ObservedClient

variable {s s' : ObservedClient} {e : Event}

/-- A call of `getUser` that nothing comes in between. -/
lemma getUser_steps (id : UserId) (answer : Option TdApi.Object) :
    ∃ s', run step s (.findUser id :: if (s.caches.findUser id).isSome then []
        else [.receiveUser answer]) = some s' ∧
      s'.caches = (s.caches.getUser s.self id answer).2 ∧
      s'.users = (s.caches.getUser s.self id answer).1.toOption.toList ++ s.users := by
  rw [run_cons, step, Option.bind_some]
  cases found : s.caches.findUser id with
  | some user =>
    rw [Caches.getUser, found]
    exact ⟨_, rfl, rfl, rfl⟩
  | none =>
    rw [Caches.getUser, found]
    rcases answer with _ | (u | c | ⟨code, message⟩ | _)
    all_goals exact ⟨_, rfl, rfl, rfl⟩

/-- A call of `getChat` that nothing comes in between. -/
lemma getChat_steps (id : ChatId) (answer : Option TdApi.Object) :
    ∃ s', run step s (.findChat id :: if (s.caches.findChat id).isSome then []
        else [.receiveChat answer]) = some s' ∧
      s'.caches = (s.caches.getChat s.self id answer).2 ∧
      s'.chats = (s.caches.getChat s.self id answer).1.toOption.toList ++ s.chats := by
  rw [run_cons, step, Option.bind_some]
  cases found : s.caches.findChat id with
  | some chat =>
    rw [Caches.getChat, found]
    exact ⟨_, rfl, rfl, rfl⟩
  | none =>
    rw [Caches.getChat, found]
    rcases answer with _ | (u | c | ⟨code, message⟩ | _)
    all_goals exact ⟨_, rfl, rfl, rfl⟩

end ObservedClient

/-! ## Who wrote an entry last -/

/-- Who writes to a cache. -/
inductive Writer where
  | update
  | query
  deriving DecidableEq

/-- The pointer in what is written. -/
def Writer.pointer (self : Nat) : Writer → BackendPtr
  | .update => none
  | .query => some self

/-- What wrote the user last, by the events from the newest on. -/
def userWriter (id : UserId) : List Event → Option Writer
  | [] => none
  | .updateUser (some u) :: before => if u.id = id then some .update else userWriter id before
  | .getMe (some (.user u)) :: before => if u.id = id then some .query else userWriter id before
  | .receiveUser (some (.user u)) :: before => if u.id = id then some .query else userWriter id before
  | _ :: before => userWriter id before

/-- What wrote the chat last, by the events from the newest on. -/
def chatWriter (id : ChatId) : List Event → Option Writer
  | [] => none
  | .updateNewChat (some c) :: before => if c.id = id then some .update else chatWriter id before
  | .receiveChat (some (.chat c)) :: before =>
    if c.id = id then some .query else chatWriter id before
  | _ :: before => chatWriter id before

/-- The call is not served with what an update has written. -/
def NotFromUpdate (s : ObservedClient) : Event → Prop
  | .findUser id => userWriter id s.history ≠ some .update
  | .findChat id => chatWriter id s.history ≠ some .update
  | _ => True

section
variable {ε : Type} {self : Nat} {client : ε → BackendPtr}

/-- An entry that is found is bound unless an update wrote it. -/
lemma served_iff {found : Option ε} {writer : Option Writer}
    (traced : found.map client = writer.map (Writer.pointer self)) :
    (∀ e ∈ found, client e = some self) ↔ writer ≠ some .update := by
  cases found with
  | none =>
    cases writer with
    | none => simp
    | some w => cases traced
  | some e =>
    cases writer with
    | none => cases traced
    | some w =>
      have pointer : client e = w.pointer self := Option.some.inj traced
      cases w <;> simp [pointer, Writer.pointer]

/-- A write to a cache. -/
lemma traced_upsert {rows : List (Int64 × ε)} {writer : Int64 → Option Writer}
    (traced : ∀ id, ((Tables.find Prod.fst rows id).map Prod.snd).map client =
      (writer id).map (Writer.pointer self))
    {key : Int64} {e : ε} {w : Writer} (same : client e = w.pointer self) (id : Int64) :
    ((Tables.find Prod.fst (Tables.upsert Prod.fst (key, e) rows) id).map Prod.snd).map client =
      (if key = id then some w else writer id).map (Writer.pointer self) := by
  rw [Tables.find_upsert]
  split
  · rw [Option.map_some, Option.map_some, Option.map_some, same]
  · exact traced id

end

/-! ## Steps -/

/-- Each entry of a cache has the pointer that its last writer gives. -/
structure Traced (backend : Nat) (caches : Caches) (history : List Event) : Prop where
  users : ∀ id, (caches.findUser id).map User.client =
    (userWriter id history).map (Writer.pointer backend)
  chats : ∀ id, (caches.findChat id).map Chat.client =
    (chatWriter id history).map (Writer.pointer backend)

namespace Traced

variable {backend : Nat} {caches : Caches} {history : List Event} {e : Event}

lemma empty : Traced backend {} [] := ⟨fun _ => rfl, fun _ => rfl⟩

/-- A user is written. -/
lemma setUser (h : Traced backend caches history) (w : Writer) (u : TdApi.User)
    (users : ∀ id, userWriter id (e :: history) =
      if u.id = id then some w else userWriter id history)
    (chats : ∀ id, chatWriter id (e :: history) = chatWriter id history) :
    Traced backend (caches.setUser u.id (convertUser u (w.pointer backend))) (e :: history) where
  users id := by
    rw [users]
    exact traced_upsert h.users rfl id
  chats id := by
    rw [chats]
    exact h.chats id

/-- A chat is written. -/
lemma setChat (h : Traced backend caches history) (w : Writer) (c : TdApi.Chat)
    (users : ∀ id, userWriter id (e :: history) = userWriter id history)
    (chats : ∀ id, chatWriter id (e :: history) =
      if c.id = id then some w else chatWriter id history) :
    Traced backend (caches.setChat c.id (convertChat c (w.pointer backend)) c.type) (e :: history) where
  users id := by
    rw [users]
    exact h.users id
  chats id := by
    rw [chats]
    exact traced_upsert h.chats rfl id

end Traced

namespace ObservedClient

variable {s s' : ObservedClient} {e : Event}

/-- A step keeps the entries traced. -/
lemma step_traced (h : Traced s.self s.caches s.history) (taken : s.step e = some s') :
    Traced s'.self s'.caches s'.history := by
  cases e with
  | updateUser user =>
    cases taken
    cases user with
    | none => exact ⟨h.users, h.chats⟩
    | some u => exact h.setUser .update u (fun _ => rfl) (fun _ => rfl)
  | updateNewChat chat =>
    cases taken
    cases chat with
    | none => exact ⟨h.users, h.chats⟩
    | some c => exact h.setChat .update c (fun _ => rfl) (fun _ => rfl)
  | getMe answer | receiveUser answer =>
    cases taken
    rcases answer with _ | (u | c | ⟨code, message⟩ | _)
    case some.user => exact h.setUser .query u (fun _ => rfl) (fun _ => rfl)
    all_goals exact ⟨h.users, h.chats⟩
  | receiveChat answer =>
    cases taken
    rcases answer with _ | (u | c | ⟨code, message⟩ | _)
    case some.chat => exact h.setChat .query c (fun _ => rfl) (fun _ => rfl)
    all_goals exact ⟨h.users, h.chats⟩
  | findUser id | findChat id =>
    cases taken
    exact ⟨h.users, h.chats⟩

/-- The methods of a chat are called on the backend it points to. -/
lemma bound_pointers : s.Bound ↔
    (∀ user ∈ s.users, user.client = some s.self) ∧ ∀ chat ∈ s.chats, chat.client = some s.self := by
  constructor
  · exact fun h => ⟨h.users, fun chat inside => (h.chats chat inside).1⟩
  · rintro ⟨users, chats⟩
    refine ⟨users, fun chat inside => ⟨chats chat inside, fun call => ?_⟩⟩
    rw [Chat.onClient, chats chat inside, Option.map_some]

/-- A step keeps what is returned bound exactly if it serves nothing that an update has written. -/
lemma step_bound_iff (h : Traced s.self s.caches s.history) (taken : s.step e = some s') :
    s'.Bound ↔ s.Bound ∧ NotFromUpdate s e := by
  rw [bound_pointers, bound_pointers]
  cases e with
  | updateUser user | updateNewChat chat =>
    cases taken
    exact (and_iff_left trivial).symm
  | getMe answer | receiveUser answer =>
    cases taken
    rcases answer with _ | (u | c | ⟨code, message⟩ | _)
    case some.user =>
      refine Iff.trans ?_ (and_iff_left trivial).symm
      exact and_congr_left fun _ => List.forall_mem_cons.trans (and_iff_right rfl)
    all_goals exact (and_iff_left trivial).symm
  | receiveChat answer =>
    cases taken
    rcases answer with _ | (u | c | ⟨code, message⟩ | _)
    case some.chat =>
      refine Iff.trans ?_ (and_iff_left trivial).symm
      exact and_congr_right fun _ => List.forall_mem_cons.trans (and_iff_right rfl)
    all_goals exact (and_iff_left trivial).symm
  | findUser id =>
    cases taken
    rw [NotFromUpdate, ← served_iff (h.users id)]
    simp only [List.forall_mem_append, Option.mem_toList]
    rw [and_assoc, and_comm]
    exact Iff.rfl
  | findChat id =>
    cases taken
    rw [NotFromUpdate, ← served_iff (h.chats id)]
    simp only [List.forall_mem_append, Option.mem_toList]
    rw [and_left_comm, and_comm]
    exact Iff.rfl

/-- In every run, whatever has been returned is bound to the client exactly if no call was served with
    what an update had written. -/
theorem bound_iff {self : Nat} {events : List Event} {s : ObservedClient}
    (ran : run step { self } events = some s) :
    s.Bound ↔ Meets step NotFromUpdate { self } events := by
  have nothing : Bound { self } :=
    ⟨fun _ inside => absurd inside List.not_mem_nil, fun _ inside => absurd inside List.not_mem_nil⟩
  have whole := run_iff (C := NotFromUpdate) (I := fun s => Traced s.self s.caches s.history)
    (P := Bound) step_traced step_bound_iff .empty ran
  exact whole.trans (and_iff_right nothing)

/-- A user that was asked for is found in the cache later. -/
theorem bound_iff_getMe :
    Bound
      { self := 1
        caches := ({} : Caches).setUser 7 (convertUser { id := 7 } (some 1))
        history := [.findUser 7, .getMe (some (.user { id := 7 }))]
        users := [convertUser { id := 7 } (some 1), convertUser { id := 7 } (some 1)] } := by
  have ran : run step { self := 1 } [.getMe (some (.user { id := 7 })), .findUser 7] = some _ := rfl
  refine (bound_iff ran).mpr ?_
  refine (meets_cons rfl).mpr ⟨trivial, (meets_cons rfl).mpr ⟨?_, meets_nil _⟩⟩
  change some Writer.query ≠ some Writer.update
  decide

/-- A chat that an update has announced is returned by `getChat`, and its methods do nothing. -/
theorem unbound_chat : ∃ s : ObservedClient,
    run step { self := 1 } [.updateNewChat (some { id := -100 }), .findChat (-100)] = some s ∧
      ¬ s.Bound ∧ ∃ chat ∈ s.chats, chat.sendMessage (Json.ascii "hi") = none ∧
        chat.leave = none ∧ chat.banMember 5 = none := by
  refine ⟨_, rfl, fun bound => ?_, _, List.mem_singleton_self _, rfl, rfl, rfl⟩
  cases (bound.chats _ (List.mem_singleton_self _)).1

end ObservedClient

end CppGram.Backend
