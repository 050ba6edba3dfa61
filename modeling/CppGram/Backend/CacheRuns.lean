import CppGram.Backend.Caching

/-!
# What the caches say, under many threads

Whatever is returned or dispatched is what the caches, used by one thread alone, would have given at a
moment between the beginning and the end of the call (`cache_run`): `known` are the caches after given
stores, and `AsOf` says that there is such a moment. What they know of a user or a chat is what was
stored of it last.
-/

namespace CppGram.Backend
open Json Transition

/-- What one store makes of the caches. -/
def Stored.store (stored : Stored) (caches : Caches) : Caches :=
  match stored with
  | .user u client => caches.setUser u.id (convertUser u client)
  | .chat c client => caches.setChat c.id (convertChat c client) c.type

/-- The caches after some stores, the latest first. -/
def known (past : List Stored) : Caches := past.foldr Stored.store {}

/-! ## What is known is what was stored last -/

/-- What was stored last of a user. -/
def latestUser (past : List Stored) (id : UserId) : Option User :=
  past.findSome? fun
    | .user u client => if u.id = id then some (convertUser u client) else none
    | .chat _ _ => none

/-- What was stored last of a chat. -/
def latestChat (past : List Stored) (id : ChatId) : Option Chat :=
  past.findSome? fun
    | .chat c client => if c.id = id then some (convertChat c client) else none
    | .user _ _ => none

/-- The last type that was stored of a chat. -/
def latestType (past : List Stored) (id : ChatId) : Option ChatType :=
  past.findSome? fun
    | .chat c _ => if c.id = id then c.type.map convertChatType else none
    | .user _ _ => none

/-- A lookup in a table that has been written to. -/
lemma find_upsert_map {α β : Type} [DecidableEq α] (rows : List (α × β)) (key k : α) (x : β) :
    (Tables.find Prod.fst (Tables.upsert Prod.fst (key, x) rows) k).map Prod.snd =
      if key = k then some x else (Tables.find Prod.fst rows k).map Prod.snd := by
  rw [Tables.find_upsert]
  split <;> rfl

/-- The last of something that was stored, with one more store. -/
lemma findSome?_cons_ite {α β : Type} {f : α → Option β} {x : α} {past : List α} {p : Prop} [Decidable p]
    {b : β} (h : f x = if p then some b else none) :
    (x :: past).findSome? f = if p then some b else past.findSome? f := by
  rw [List.findSome?_cons, h]
  by_cases holds : p
  · rw [if_pos holds, if_pos holds]
  · rw [if_neg holds, if_neg holds]

/-- The caches know of a user what was stored last. -/
lemma findUser_known (past : List Stored) (id : UserId) :
    (known past).findUser id = latestUser past id := by
  induction past with
  | nil => rfl
  | cons x past ih =>
    cases x with
    | user u client =>
      have found : (known (.user u client :: past)).findUser id =
          if u.id = id then some (convertUser u client) else (known past).findUser id :=
        find_upsert_map _ _ _ _
      rw [found, ih, latestUser, latestUser]
      exact (findSome?_cons_ite (by rfl)).symm
    | chat c client => exact ih

/-- The caches know of a chat what was stored last. -/
lemma findChat_known (past : List Stored) (id : ChatId) :
    (known past).findChat id = latestChat past id := by
  induction past with
  | nil => rfl
  | cons x past ih =>
    cases x with
    | user u client => exact ih
    | chat c client =>
      have found : (known (.chat c client :: past)).findChat id =
          if c.id = id then some (convertChat c client) else (known past).findChat id :=
        find_upsert_map _ _ _ _
      rw [found, ih, latestChat, latestChat]
      exact (findSome?_cons_ite (by rfl)).symm

/-- The caches know of the type of a chat what was stored last. -/
lemma findType_known (past : List Stored) (id : ChatId) :
    (Tables.find Prod.fst (known past).chatTypeCache id).map Prod.snd = latestType past id := by
  induction past with
  | nil => rfl
  | cons x past ih =>
    cases x with
    | user u client => exact ih
    | chat c client =>
      cases given : c.type with
      | none =>
        -- the type that was there stays
        have cache : (known (.chat c client :: past)).chatTypeCache = (known past).chatTypeCache := by
          simp only [known, List.foldr_cons, Stored.store, Caches.setChat, given]
        rw [cache, ih, latestType, latestType, List.findSome?_cons]
        simp only [given, Option.map_none, ite_self]
      | some type =>
        have cache : (known (.chat c client :: past)).chatTypeCache =
            Tables.upsert Prod.fst (c.id, convertChatType type) (known past).chatTypeCache := by
          simp only [known, List.foldr_cons, Stored.store, Caches.setChat, given]
        rw [cache, find_upsert_map, ih, latestType, latestType]
        refine (findSome?_cons_ite ?_).symm
        simp only [given, Option.map_some]

lemma lookupChatType_known (past : List Stored) (id : ChatId) :
    (known past).lookupChatType id = (latestType past id).getD .Unknown :=
  congrArg (Option.getD · _) (findType_known past id)

/-! ## What a call may return -/

/-- What a loop goes over. -/
def CacheQuery.looks : CacheQuery → CacheAnswer → List CacheLook
  | .searchMessages, .foundMessages messages => messages.reduceOption.map .message
  | .getChatMembers, .chatMembers members => members.reduceOption.reduceOption.map .member
  | _, _ => []

/-- The messages that an answer has for a call about one chat. -/
def CacheAnswer.chatMessages : CacheAnswer → List TdApi.Message
  | .messages l => l.reduceOption
  | .object _ | .foundMessages _ | .chatMembers _ => []

/-- Each element of a list has been looked up at a moment of its own. -/
def Looked (self : Nat) (since now : List Stored) (looks : List CacheLook) (out : List CacheFound) :
    Prop :=
  List.Forall₂ (fun look found => AsOf since now fun past => found = (known past).look self look)
    looks out

/-- What a call returns, with what TDLib has answered to it, if it was asked. -/
inductive Explained (self : Nat) (since now : List Stored) :
    CacheQuery → Option CacheAnswer → CacheResult → Prop where
  /-- What is known of the user is what was stored last. -/
  | hitUser {id user} :
    AsOf since now (latestUser · id = some user) →
    Explained self since now (.getUser id) none (.user user)
  | hitChat {id chat} :
    AsOf since now (latestChat · id = some chat) →
    Explained self since now (.getChat id) none (.chat chat)
  /-- The answer has been stored. -/
  | askedUser {query u} :
    query = .getMe ∨ (∃ id, query = .getUser id) →
    AsOf since now (·.head? = some (.user u (some self))) →
    Explained self since now query (some (.object (some (.user u)))) (.user (convertUser u (some self)))
  | askedChat {id c} :
    AsOf since now (·.head? = some (.chat c (some self))) →
    Explained self since now (.getChat id) (some (.object (some (.chat c))))
      (.chat (convertChat c (some self)))
  | chatMessages {context chatId answer out} :
    (AsOf since now fun past => out = answer.chatMessages.map fun m =>
      convertMessage m ((latestType past chatId).getD .Unknown) (some self)) →
    Explained self since now (.chatMessages context chatId) (some answer) (.messages out)
  | found {query answer out} :
    query = .searchMessages ∨ query = .getChatMembers →
    Looked self since now (query.looks answer) out →
    Explained self since now query (some answer) (.found out)
  /-- Nothing has been stored. -/
  | threw {query answer fault} :
    CacheSystem.stores self query answer = [] →
    checkError answer.asObject query.context = .error fault ∨
      fault = .cppGramException (query.context ++ ascii ": unexpected response") →
    Explained self since now query (some answer) (.threw fault)

/-- The sender of a message or a query, as it is known. -/
def senderAt (self : Nat) (past : List Stored) (u : User) : User :=
  match latestUser past u.id with
  | some user => { user with client := some self }
  | none => u

/-- What is dispatched: the type of the chat is that of a moment, the sender that of the same or a later
    one. -/
def CacheDispatch.Explained (self : Nat) (d : CacheDispatch) : Prop :=
  match d.update, d.event with
  | .newMessage m, .message msg =>
    AsOf d.since d.now fun first => AsOf first d.now fun second =>
      let converted := convertMessage m ((latestType first m.chatId).getD .Unknown) (some self)
      msg = { converted with sender := senderAt self second converted.sender }
  | .messageContent upd, .edited msg =>
    AsOf d.since d.now fun past => msg = (known past).updateMessageContent self upd
  | .newCallbackQuery upd, .callbackQuery q =>
    AsOf d.since d.now fun past =>
      let converted := convertCallbackQuery upd (some self)
      q = { converted with sender := senderAt self past converted.sender }
  | _, _ => False

variable {self : Nat} {since now after : List Stored}

/-- What holds of a call on its way. -/
def CacheStage.Fits (self : Nat) (now : List Stored) : CacheStage → Prop
  | .idle => True
  | .looking call | .asking call | .answered call _ => call.since <:+ now
  | .collecting call answer rest out => call.since <:+ now ∧
    (call.query = .searchMessages ∨ call.query = .getChatMembers) ∧
      ∃ before, before ++ rest = call.query.looks answer ∧ Looked self call.since now before out
  | .returned call answer result done => done <:+ now ∧
    Explained self call.since done call.query answer result

/-- What fits a call goes on fitting it when more is stored. -/
lemma CacheStage.Fits.later {stage : CacheStage} (fits : stage.Fits self now) (more : now <:+ after) :
    stage.Fits self after := by
  cases stage with
  | idle => trivial
  | looking call | asking call | answered call answer => exact List.IsSuffix.trans fits more
  | collecting call answer rest out =>
    obtain ⟨begun, loops, before, split, looked⟩ := fits
    exact ⟨begun.trans more, loops, before, split, AsOf.forall₂_later looked more⟩
  | returned call answer result done => exact ⟨fits.1.trans more, fits.2⟩

/-- The sender of a message as it is known. -/
lemma sender_known (past : List Stored) (u : User) :
    (known past).enrichSenderById self u = senderAt self past u := by
  cases found : latestUser past u.id with
  | none => simp only [Caches.enrichSenderById, findUser_known, senderAt, found]
  | some user => simp only [Caches.enrichSenderById, findUser_known, senderAt, found]

/-- A message gets the sender that is known. -/
lemma message_known (past : List Stored) (msg : Message) :
    (known past).enrichSender self msg = { msg with sender := senderAt self past msg.sender } := by
  rw [Caches.enrichSender, findUser_known, senderAt]
  cases latestUser past msg.sender.id <;> rfl

/-- What is found is what was stored last. -/
lemma hit_known {query result} (begun : since <:+ now) (hit : (known now).hit query = some result) :
    Explained self since now query none result := by
  cases query with
  | getUser id =>
    obtain ⟨user, found, rfl⟩ := Option.map_eq_some_iff.mp hit
    rw [findUser_known] at found
    exact .hitUser (.here begun found)
  | getChat id =>
    obtain ⟨chat, found, rfl⟩ := Option.map_eq_some_iff.mp hit
    rw [findChat_known] at found
    exact .hitChat (.here begun found)
  | getMe | chatMessages | searchMessages | getChatMembers => cases hit

namespace CacheSystem

variable {ι : Type} {s s' : CacheSystem ι} {call : CacheCall} {answer : CacheAnswer}

/-! ## What every step keeps -/

/-- What the dispatcher thread has in hand. -/
def CacheDispatcher.Fits (self : Nat) (now : List Stored) : CacheDispatcher → Prop
  | .idle => True
  | .typed since m msg => AsOf since now fun first =>
    msg = convertMessage m ((latestType first m.chatId).getD .Unknown) (some self)

/-- The caches are those after what has been stored, and all that is on its way or done is explained. -/
structure Linear (backend : Nat) (s : CacheSystem ι) : Prop where
  caches : s.caches = known s.past
  threads : ∀ i, (s.threads i).Fits backend s.past
  dispatcher : CacheDispatcher.Fits backend s.past s.dispatcher
  dispatched : ∀ d ∈ s.dispatched, d.now <:+ s.past ∧ d.Explained backend

/-- What fits the dispatcher goes on fitting it when more is stored. -/
lemma CacheDispatcher.Fits.later {dispatcher : CacheDispatcher}
    (fits : CacheDispatcher.Fits self now dispatcher) (more : now <:+ after) :
    CacheDispatcher.Fits self after dispatcher := by
  cases dispatcher with
  | idle => trivial
  | typed since m msg => exact AsOf.later fits more

/-- The dispatcher thread stores. -/
lemma Linear.update {more : List Stored} {caches : Caches} (linear : s.Linear self)
    (stored : caches = known (more ++ s.past)) :
    Linear self { s with caches, past := more ++ s.past } := by
  have suffix : s.past <:+ more ++ s.past := List.suffix_append _ _
  refine ⟨stored, fun i => (linear.threads i).later suffix,
    CacheDispatcher.Fits.later linear.dispatcher suffix, fun d done => ?_⟩
  obtain ⟨before, explained⟩ := linear.dispatched d done
  exact ⟨before.trans suffix, explained⟩

/-- It dispatches something. -/
lemma Linear.dispatch {update : CacheUpdate} {event : CacheEvent} {since : List Stored}
    {dispatcher : CacheDispatcher} (linear : s.Linear self)
    (fits : CacheDispatcher.Fits self s.past dispatcher)
    (explained : CacheDispatch.Explained self { update, event, since, now := s.past }) :
    Linear self { s.dispatch update event since with dispatcher } := by
  refine ⟨linear.caches, linear.threads, fits, fun d done => ?_⟩
  rcases List.mem_append.mp done with old | new
  · exact linear.dispatched d old
  · cases List.mem_singleton.mp new
    exact ⟨List.suffix_rfl, explained⟩

variable [DecidableEq ι]

/-! ## The end of a call -/

/-- What `getMe` and `getUser` make of an answer. -/
lemma receiveUser_cases (self : Nat) (context : Text) (object : Option TdApi.Object) (c : Caches) :
    (∃ u, object = some (.user u) ∧ Caches.receiveUser self context object c =
        (.ok (convertUser u (some self)), c.setUser u.id (convertUser u (some self)))) ∨
    (∀ u, object ≠ some (.user u)) ∧
      ∃ fault, Caches.receiveUser self context object c = (.error fault, c) ∧
        (checkError object context = .error fault ∨
          fault = .cppGramException (context ++ ascii ": unexpected response")) := by
  cases object with
  | none => exact .inr ⟨by rintro _ ⟨⟩, _, rfl, .inr rfl⟩
  | some object =>
    cases object with
    | user u => exact .inl ⟨u, rfl, rfl⟩
    | chat c => exact .inr ⟨by rintro _ ⟨⟩, _, rfl, .inr rfl⟩
    | error code message => exact .inr ⟨by rintro _ ⟨⟩, _, rfl, .inl rfl⟩
    | other => exact .inr ⟨by rintro _ ⟨⟩, _, rfl, .inr rfl⟩

/-- What `getChat` makes of it. -/
lemma receiveChat_cases (self : Nat) (object : Option TdApi.Object) (c : Caches) :
    (∃ chat, object = some (.chat chat) ∧ Caches.receiveChat self object c =
        (.ok (convertChat chat (some self)),
          c.setChat chat.id (convertChat chat (some self)) chat.type)) ∨
    (∀ chat, object ≠ some (.chat chat)) ∧
      ∃ fault, Caches.receiveChat self object c = (.error fault, c) ∧
        (checkError object (ascii "getChat") = .error fault ∨
          fault = .cppGramException (ascii "getChat: unexpected response")) := by
  cases object with
  | none => exact .inr ⟨by rintro _ ⟨⟩, _, rfl, .inr rfl⟩
  | some object =>
    cases object with
    | user u => exact .inr ⟨by rintro _ ⟨⟩, _, rfl, .inr rfl⟩
    | chat chat => exact .inl ⟨chat, rfl, rfl⟩
    | error code message => exact .inr ⟨by rintro _ ⟨⟩, _, rfl, .inl rfl⟩
    | other => exact .inr ⟨by rintro _ ⟨⟩, _, rfl, .inr rfl⟩

/-- An answer from which a user is taken is a user. -/
lemma asObject_user {u : TdApi.User} (given : answer.asObject = some (.user u)) :
    answer = .object (some (.user u)) := by
  cases answer with
  | object object => exact congrArg _ given
  | messages | foundMessages | chatMembers => cases given

/-- An answer from which a chat is taken is a chat. -/
lemma asObject_chat {c : TdApi.Chat} (given : answer.asObject = some (.chat c)) :
    answer = .object (some (.chat c)) := by
  cases answer with
  | object object => exact congrArg _ given
  | messages | foundMessages | chatMembers => cases given

/-- A call that is done, or at the beginning of its loop, has stored what it stores. -/
def Finished (self : Nat) (s : CacheSystem ι) (i : ι) (call : CacheCall) (answer : CacheAnswer)
    (s' : CacheSystem ι) : Prop :=
  let past := stores self call.query answer ++ s.past
  ∃ stage, s' = { s.put i stage with caches := known past, past } ∧ stage.Fits self past

/-- A call that has stored nothing. -/
lemma finished_idle {i : ι} {stage : CacheStage} (agrees : s.caches = known s.past)
    (nothing : stores self call.query answer = []) (fits : stage.Fits self s.past) :
    Finished self s i call answer (s.put i stage) := by
  refine ⟨stage, ?_, ?_⟩
  · rw [nothing, List.nil_append, ← agrees]
    rfl
  · rw [nothing]
    exact fits

/-- A call that stores nothing and returns an explained result is finished. -/
lemma finished_returned {i : ι} {result : CacheResult} (agrees : s.caches = known s.past)
    (nothing : stores self call.query answer = [])
    (explained : Explained self call.since s.past call.query (some answer) result) :
    Finished self s i call answer
      { s.put i (.returned call (some answer) result (stores self call.query answer ++ s.past)) with
        past := stores self call.query answer ++ s.past } := by
  rw [nothing, List.nil_append]
  exact finished_idle agrees nothing ⟨List.suffix_rfl, explained⟩

/-- `getMe` and `getUser` end alike. -/
lemma finish_eq {i : ι} (asks : call.query = .getMe ∨ ∃ id, call.query = .getUser id) :
    s.finish self i call answer =
      match Caches.receiveUser self call.query.context answer.asObject s.caches with
      | (.ok user, caches) =>
        { s.put i (.returned call (some answer) (.user user) (stores self call.query answer ++ s.past))
          with caches, past := stores self call.query answer ++ s.past }
      | (.error fault, caches) =>
        { s.put i (.returned call (some answer) (.threw fault) (stores self call.query answer ++ s.past))
          with caches, past := stores self call.query answer ++ s.past } := by
  obtain ⟨query, since⟩ := call
  rcases asks with e | ⟨id, e⟩
  · cases e
    rfl
  · cases e
    rfl

/-- `getMe` and `getUser` are finished with TDLib's answer. -/
lemma finish_user {i : ι} (agrees : s.caches = known s.past) (begun : call.since <:+ s.past)
    (asks : call.query = .getMe ∨ ∃ id, call.query = .getUser id) :
    Finished self s i call answer (s.finish self i call answer) := by
  rcases receiveUser_cases self call.query.context answer.asObject s.caches with
    ⟨u, given, receives⟩ | ⟨other, fault, receives, why⟩
  · cases asObject_user given
    have stored : stores self call.query (.object (some (.user u))) = [.user u (some self)] := by
      rcases asks with e | ⟨id, e⟩
      · rw [e]
        rfl
      · rw [e]
        rfl
    rw [finish_eq asks, receives]
    refine ⟨.returned call _ _ _, by rw [stored, agrees]; rfl, List.suffix_rfl,
      .askedUser asks (.here ?_ ?_)⟩
    · rw [stored]
      exact begun.trans (List.suffix_cons _ _)
    · rw [stored]
      rfl
  · have nothing : stores self call.query answer = [] := by
      unfold stores
      split
      · next u _ => exact absurd rfl (other u)
      · next u _ => exact absurd rfl (other u)
      · next here =>
        rw [here] at asks
        rcases asks with e | ⟨id, e⟩ <;> cases e
      · rfl
    rw [finish_eq asks, receives]
    exact finished_returned agrees nothing (.threw nothing why)

/-- `getChat` is finished with TDLib's answer. -/
lemma finish_chat {i : ι} {id : ChatId} (agrees : s.caches = known s.past)
    (begun : call.since <:+ s.past) (asks : call.query = .getChat id) :
    Finished self s i call answer (s.finish self i call answer) := by
  obtain ⟨query, since⟩ := call
  cases asks
  simp only [finish]
  rcases receiveChat_cases self answer.asObject s.caches with
    ⟨c, given, receives⟩ | ⟨other, fault, receives, why⟩
  · cases asObject_chat given
    simp only [receives]
    refine ⟨.returned ⟨.getChat id, since⟩ _ _ _, by rw [agrees]; rfl, List.suffix_rfl,
      .askedChat (.here ?_ rfl)⟩
    exact begun.trans (List.suffix_cons _ _)
  · have nothing : stores self (.getChat id) answer = [] := by
      unfold stores
      split
      · next e => cases e
      · next e => cases e
      · next c _ => exact absurd rfl (other c)
      · rfl
    simp only [receives]
    have text : ascii "getChat: unexpected response" =
        ascii "getChat" ++ ascii ": unexpected response" := by
      decide +kernel
    rw [text] at why
    have explained : Explained self since s.past (.getChat id) (some answer) (.threw fault) :=
      .threw nothing why
    exact finished_returned agrees nothing explained

/-- The end of a call, or the beginning of its loop. -/
lemma finish_spec {i : ι} (agrees : s.caches = known s.past) (begun : call.since <:+ s.past) :
    Finished self s i call answer (s.finish self i call answer) := by
  obtain ⟨query, since⟩ := call
  cases query with
  | getMe => exact finish_user agrees begun (.inl rfl)
  | getUser id => exact finish_user agrees begun (.inr ⟨id, rfl⟩)
  | getChat id => exact finish_chat agrees begun rfl
  | chatMessages context chatId =>
    simp only [finish]
    cases checked : checkError answer.asObject context with
    | error fault => exact finished_returned agrees rfl (Explained.threw rfl (.inl checked))
    | ok =>
      cases answer with
      | messages l =>
        refine finished_returned agrees rfl (Explained.chatMessages (.here begun ?_))
        rw [agrees, lookupChatType_known]
        rfl
      | object | foundMessages | chatMembers =>
        exact finished_returned agrees rfl (Explained.chatMessages (.here begun rfl))
  | searchMessages =>
    simp only [finish]
    cases checked : checkError answer.asObject (CacheQuery.context .searchMessages) with
    | error fault => exact finished_returned agrees rfl (Explained.threw rfl (.inl checked))
    | ok =>
      cases answer with
      | foundMessages l =>
        exact finished_idle agrees rfl ⟨begun, .inl rfl, [], rfl, .nil⟩
      | object | messages | chatMembers =>
        exact finished_returned agrees rfl (Explained.found (.inl rfl) .nil)
  | getChatMembers =>
    simp only [finish]
    cases checked : checkError answer.asObject (CacheQuery.context .getChatMembers) with
    | error fault => exact finished_returned agrees rfl (Explained.threw rfl (.inl checked))
    | ok =>
      cases answer with
      | chatMembers l =>
        exact finished_idle agrees rfl ⟨begun, .inr rfl, [], rfl, .nil⟩
      | object | messages | foundMessages =>
        exact finished_returned agrees rfl (Explained.found (.inr rfl) .nil)

/-! ## Every run -/

/-- Somebody stores, and a thread may go on. -/
lemma Linear.store {i : ι} {stage : CacheStage} {more : List Stored} (linear : s.Linear self)
    (fits : stage.Fits self (more ++ s.past)) :
    Linear self { s.put i stage with caches := known (more ++ s.past), past := more ++ s.past } := by
  have suffix : s.past <:+ more ++ s.past := List.suffix_append _ _
  refine ⟨rfl, fun j => ?_, CacheDispatcher.Fits.later linear.dispatcher suffix, fun d done => ?_⟩
  · simp only [put]
    by_cases same : j = i
    · subst same
      rw [Function.update_self]
      exact fits
    · rw [Function.update_of_ne same]
      exact (linear.threads j).later suffix
  · obtain ⟨before, explained⟩ := linear.dispatched d done
    exact ⟨before.trans suffix, explained⟩

/-- A thread goes on. -/
lemma Linear.put {i : ι} {stage : CacheStage} (linear : s.Linear self) (fits : stage.Fits self s.past) :
    (s.put i stage).Linear self := by
  have stored : Linear self
      { s.put i stage with caches := known ([] ++ s.past), past := [] ++ s.past } :=
    linear.store fits
  rw [List.nil_append, ← linear.caches] at stored
  exact stored

/-- A step keeps the caches, the calls and the dispatcher in line with what was stored. -/
lemma Linear.step {a : Action ι} (linear : s.Linear self) (taken : s.step self a = some s') :
    s'.Linear self := by
  cases a with
  | call i query =>
    simp only [CacheSystem.step] at taken
    split at taken
    · cases taken
      exact linear.put List.suffix_rfl
    · cases taken
      exact linear.put List.suffix_rfl
    · cases taken
  | look i =>
    simp only [CacheSystem.step] at taken
    split at taken
    · next call here =>
      have begun : call.since <:+ s.past := by
        have fits := linear.threads i
        rw [here] at fits
        exact fits
      split at taken
      · next result hit =>
        cases taken
        rw [linear.caches] at hit
        exact linear.put ⟨List.suffix_rfl, hit_known begun hit⟩
      · cases taken
        exact linear.put begun
    · cases taken
  | answer i answer =>
    simp only [CacheSystem.step] at taken
    split at taken
    · next call here =>
      cases taken
      have fits := linear.threads i
      rw [here] at fits
      exact linear.put fits
    · cases taken
  | finish i =>
    simp only [CacheSystem.step] at taken
    split at taken
    · next call answer here =>
      cases taken
      have fits := linear.threads i
      rw [here] at fits
      obtain ⟨stage, done, fits⟩ : Finished self s i call answer _ := finish_spec linear.caches fits
      rw [done]
      exact linear.store fits
    · cases taken
  | collect i =>
    simp only [CacheSystem.step] at taken
    split at taken
    · next call answer look rest out here =>
      cases taken
      have fits := linear.threads i
      rw [here] at fits
      obtain ⟨begun, loops, before, split, looked⟩ := fits
      refine linear.put ⟨begun, loops, before ++ [look], ?_, ?_⟩
      · rw [List.append_assoc]
        exact split
      · refine List.rel_append looked (.cons (.here begun ?_) .nil)
        rw [linear.caches]
    · next call answer out here =>
      cases taken
      have fits := linear.threads i
      rw [here] at fits
      obtain ⟨begun, loops, before, split, looked⟩ := fits
      rw [List.append_nil] at split
      exact linear.put ⟨List.suffix_rfl, .found loops (split ▸ looked)⟩
    · cases taken
  | update update =>
    simp only [CacheSystem.step] at taken
    split at taken
    · next idle =>
      cases update with
      | user user =>
        cases taken
        refine linear.update ?_
        rw [linear.caches]
        cases user <;> rfl
      | newChat chat =>
        cases taken
        refine linear.update ?_
        rw [linear.caches]
        cases chat <;> rfl
      | newMessage m =>
        cases taken
        refine ⟨linear.caches, linear.threads, .here List.suffix_rfl ?_, linear.dispatched⟩
        rw [linear.caches, lookupChatType_known]
      | messageContent upd =>
        cases taken
        refine linear.dispatch linear.dispatcher (.here List.suffix_rfl ?_)
        rw [linear.caches]
      | newCallbackQuery upd =>
        cases taken
        refine linear.dispatch linear.dispatcher (.here List.suffix_rfl ?_)
        rw [linear.caches, sender_known]
    · cases taken
  | enrich =>
    simp only [CacheSystem.step] at taken
    split at taken
    · next since m msg here =>
      cases taken
      have fits := linear.dispatcher
      rw [here] at fits
      obtain ⟨first, begun, done, rfl⟩ := fits
      refine linear.dispatch trivial ⟨first, begun, done, .here done ?_⟩
      rw [linear.caches, message_known]
    · cases taken

/-- In every run the caches know of each user and each chat what was stored last. Whatever a call has
    returned is explained by what was stored up to a moment during the call, and whatever was dispatched
    by what was stored up to a moment of the processing of its update. -/
theorem cache_run {actions : List (Action ι)} (ran : run (step self) {} actions = some s) :
    (∀ id, s.caches.findUser id = latestUser s.past id ∧ s.caches.findChat id = latestChat s.past id ∧
      s.caches.lookupChatType id = (latestType s.past id).getD .Unknown) ∧
    (∀ i call answer result now, s.threads i = .returned call answer result now →
      now <:+ s.past ∧ Explained self call.since now call.query answer result) ∧
    ∀ d ∈ s.dispatched, d.now <:+ s.past ∧ d.Explained self := by
  have start : Linear self ({} : CacheSystem ι) :=
    ⟨rfl, fun _ => trivial, trivial, List.forall_mem_nil _⟩
  have linear := run_invariant (I := Linear self) Linear.step start ran
  refine ⟨fun id => ?_, fun i call answer result now here => ?_, linear.dispatched⟩
  · rw [linear.caches]
    exact ⟨findUser_known _ id, findChat_known _ id, lookupChatType_known _ id⟩
  · have fits := linear.threads i
    rw [here] at fits
    exact fits

/-- The sender of a message gets known while the message is on its way, another user is asked for. -/
theorem cache_run_between : ∃ s : CacheSystem Unit,
    s.threads () = .returned ⟨.getUser 8, []⟩ (some (.object (some (.user { id := 8 }))))
      (.user (convertUser { id := 8 } (some 1))) [.user { id := 8 } (some 1), .user { id := 7 } none] ∧
    ∀ d ∈ s.dispatched, d.now <:+ s.past ∧ d.Explained 1 :=
  have ran : run (step 1) {} [.update (.newMessage { senderId := some (.user 7) }),
    .call () (.getUser 8), .look (), .enrich, .update (.user (some { id := 7 })),
    .update (.newCallbackQuery { senderUserId := 7 }), .answer () (.object (some (.user { id := 8 }))),
    .finish ()] = some (_ : CacheSystem Unit) := rfl
  ⟨_, rfl, (cache_run ran).2.2⟩

end CacheSystem

end CppGram.Backend
