import CppGram.Backend.Messages
import CppGram.Lib.AsOf
import CppGram.Lib.Transition

/-!
# The caches under many threads

What `ClientImpl` knows of users and chats (C++ `client.cpp`): the dispatcher thread stores what TDLib
says in updates and looks up the sender and the chat of each message, and any number of threads call
`getMe`, `getUser`, `getChat`, `getHistory`, `getChatMembers`, `searchMessages` and their like at once.
Each look and each store is done under `cache_mtx_`, but `getUser` gives the mutex back while it asks
TDLib, a message is given its chat type and its sender under two locks, and each member of a list is
looked up under a lock of its own.
-/

namespace CppGram.Backend
open Json Transition

/-- C++ `struct CallbackQuery`. -/
structure CallbackQuery where
  id : Int64 := 0
  sender : User := {}
  chatId : ChatId := 0
  messageId : MessageId := 0
  data : Text := []
  chatInstance : Text := []
  client : BackendPtr := none
  deriving DecidableEq

namespace TdApi

/-- `td_api::updateNewCallbackQuery`, with the data of a `callbackQueryPayloadData`. -/
structure UpdateNewCallbackQuery where
  id : Int64 := 0
  senderUserId : Int64 := 0
  chatId : Int64 := 0
  messageId : Int64 := 0
  chatInstance : Int64 := 0
  payloadData : Option Text := none
  deriving DecidableEq

end TdApi

/-- `convert_callback_query`. -/
def convertCallbackQuery (q : TdApi.UpdateNewCallbackQuery) (backend : BackendPtr := none) :
    CallbackQuery where
  id := q.id
  sender := { id := q.senderUserId }
  chatId := q.chatId
  messageId := q.messageId
  chatInstance := printInt q.chatInstance.toInt
  data := q.payloadData.getD []
  client := backend

/-! ## Queries -/

/-- The calls that look into the caches. -/
inductive CacheQuery where
  | getMe
  | getUser (id : UserId)
  | getChat (id : ChatId)
  /-- The calls that convert messages of one chat. -/
  | chatMessages (context : Text) (chatId : ChatId)
  | searchMessages
  | getChatMembers
  deriving DecidableEq

namespace CacheQuery

/-- `ClientImpl::getHistory`. -/
def getHistory := chatMessages (ascii "getHistory")

/-- `ClientImpl::getMessageThreadHistory`. -/
def getMessageThreadHistory := chatMessages (ascii "getMessageThreadHistory")

/-- `ClientImpl::getScheduledMessages`. -/
def getScheduledMessages := chatMessages (ascii "getScheduledMessages")

/-- `ClientImpl::searchChatMessages`. -/
def searchChatMessages := chatMessages (ascii "searchChatMessages")

/-- What `check_error` is given. -/
def context : CacheQuery → Text
  | getMe => ascii "getMe"
  | getUser _ => ascii "getUser"
  | getChat _ => ascii "getChat"
  | chatMessages context _ => context
  | searchMessages => ascii "searchMessages"
  | getChatMembers => ascii "getChatMembers"

end CacheQuery

/-- What TDLib answers. -/
inductive CacheAnswer where
  | object (answer : Option TdApi.Object)
  | messages (messages : List (Option TdApi.Message))
  | foundMessages (messages : List (Option TdApi.Message))
  /-- The members, with the user if the member is one. -/
  | chatMembers (members : List (Option (Option UserId)))

/-- It, for a call that wants a user or a chat. -/
def CacheAnswer.asObject : CacheAnswer → Option TdApi.Object
  | object answer => answer
  | messages _ | foundMessages _ | chatMembers _ => some .other

/-- What a loop looks up under a lock of its own. -/
inductive CacheLook where
  | member (id : UserId)
  | message (m : TdApi.Message)

/-- What such a look finds. -/
inductive CacheFound where
  | member (user : User)
  | message (msg : Message)

/-- What a call returns or throws. -/
inductive CacheResult where
  | user (user : User)
  | chat (chat : Chat)
  | messages (messages : List Message)
  | found (found : List CacheFound)
  | threw (fault : QueryFault)

namespace Caches

variable (self : Nat)

/-- What `getUser` and `getChat` find before they ask. -/
def hit (c : Caches) : CacheQuery → Option CacheResult
  | .getUser id => (c.findUser id).map .user
  | .getChat id => (c.findChat id).map .chat
  | _ => none

/-- `ClientImpl::enrich_sender_by_id`. -/
def enrichSenderById (c : Caches) (u : User) : User :=
  match c.findUser u.id with
  | some user => { user with client := some self }
  | none => u

/-- What `getChatMembers` and `searchMessages` do with one element. -/
def look (c : Caches) : CacheLook → CacheFound
  | .member id => .member ((c.findUser id).getD { id })
  | .message m => .message (convertMessage m (c.lookupChatType m.chatId) (some self))

end Caches

/-! ## The system -/

/-- A user or a chat that has been stored, with what it was given for `_client`. -/
inductive Stored where
  | user (u : TdApi.User) (client : BackendPtr)
  | chat (c : TdApi.Chat) (client : BackendPtr)

/-- What the dispatcher thread processes. -/
inductive CacheUpdate where
  | user (user : Option TdApi.User)
  | newChat (chat : Option TdApi.Chat)
  | newMessage (m : TdApi.Message)
  | messageContent (upd : TdApi.UpdateMessageContent)
  | newCallbackQuery (q : TdApi.UpdateNewCallbackQuery)

/-- What it dispatches. -/
inductive CacheEvent where
  | message (msg : Message)
  | edited (msg : Message)
  | callbackQuery (q : CallbackQuery)

/-- A call, with what had been stored when it began. -/
structure CacheCall where
  query : CacheQuery
  since : List Stored

/-- Where a thread is in a call. -/
inductive CacheStage where
  | idle
  | looking (call : CacheCall)
  /-- In `send_sync`. -/
  | asking (call : CacheCall)
  | answered (call : CacheCall) (answer : CacheAnswer)
  /-- In a loop over what TDLib has answered. -/
  | collecting (call : CacheCall) (answer : CacheAnswer) (rest : List CacheLook) (out : List CacheFound)
  /-- With what had been stored when it did. -/
  | returned (call : CacheCall) (answer : Option CacheAnswer) (result : CacheResult) (now : List Stored)

/-- Where the dispatcher thread is. -/
inductive CacheDispatcher where
  | idle
  /-- It has converted a message, between `lookup_chat_type` and `enrich_sender`. -/
  | typed (since : List Stored) (m : TdApi.Message) (msg : Message)

/-- What has been dispatched, with what had been stored before and after its update was processed. -/
structure CacheDispatch where
  update : CacheUpdate
  event : CacheEvent
  since : List Stored
  now : List Stored

/-- The caches with the threads that use them. -/
structure CacheSystem (ι : Type) where
  caches : Caches := {}
  threads : ι → CacheStage := fun _ => .idle
  dispatcher : CacheDispatcher := .idle
  dispatched : List CacheDispatch := []
  /-- What has been stored, the latest first. -/
  past : List Stored := []

namespace CacheSystem

variable {ι : Type} [DecidableEq ι] (self : Nat)

/-- What a thread does next. -/
inductive Action (ι : Type) where
  | call (i : ι) (query : CacheQuery)
  /-- It looks whether it has to ask. -/
  | look (i : ι)
  /-- `send_sync` returns. -/
  | answer (i : ι) (answer : CacheAnswer)
  /-- It makes a result of the answer, or begins a loop over it. -/
  | finish (i : ι)
  /-- It goes through its loop once more, or leaves it. -/
  | collect (i : ι)
  /-- The dispatcher thread processes an update. -/
  | update (update : CacheUpdate)
  /-- It goes on with `enrich_sender`. -/
  | enrich

/-- Moves a thread to another stage. -/
def put (s : CacheSystem ι) (i : ι) (stage : CacheStage) : CacheSystem ι :=
  { s with threads := Function.update s.threads i stage }

/-- What the end of a call stores. -/
def stores : CacheQuery → CacheAnswer → List Stored
  | .getMe, .object (some (.user u)) | .getUser _, .object (some (.user u)) => [.user u (some self)]
  | .getChat _, .object (some (.chat c)) => [.chat c (some self)]
  | _, _ => []

/-- A call has its answer. -/
def finish (s : CacheSystem ι) (i : ι) (call : CacheCall) (answer : CacheAnswer) : CacheSystem ι :=
  let past := stores self call.query answer ++ s.past
  let done (result : CacheResult) := s.put i (.returned call (some answer) result past)
  match call.query with
  | .getMe | .getUser _ =>
    match Caches.receiveUser self call.query.context answer.asObject s.caches with
    | (.ok user, caches) => { done (.user user) with caches, past }
    | (.error fault, caches) => { done (.threw fault) with caches, past }
  | .getChat _ =>
    match Caches.receiveChat self answer.asObject s.caches with
    | (.ok chat, caches) => { done (.chat chat) with caches, past }
    | (.error fault, caches) => { done (.threw fault) with caches, past }
  | .chatMessages context chatId =>
    match checkError answer.asObject context with
    | .error fault => done (.threw fault)
    | .ok () =>
      match answer with
      | .messages messages =>
        let ct := s.caches.lookupChatType chatId
        done (.messages (messages.reduceOption.map (convertMessage · ct (some self))))
      | _ => done (.messages [])
  | .searchMessages =>
    match checkError answer.asObject call.query.context with
    | .error fault => done (.threw fault)
    | .ok () =>
      match answer with
      | .foundMessages messages =>
        s.put i (.collecting call answer (messages.reduceOption.map .message) [])
      | _ => done (.found [])
  | .getChatMembers =>
    match checkError answer.asObject call.query.context with
    | .error fault => done (.threw fault)
    | .ok () =>
      match answer with
      | .chatMembers members =>
        s.put i (.collecting call answer (members.reduceOption.reduceOption.map .member) [])
      | _ => done (.found [])

/-- Something is dispatched. -/
def dispatch (s : CacheSystem ι) (update : CacheUpdate) (event : CacheEvent) (since : List Stored) :
    CacheSystem ι :=
  { s with dispatched := s.dispatched ++ [{ update, event, since, now := s.past }] }

/-- One step of a thread, of the dispatcher or of TDLib; a look or a store is under the lock of the
    caches. -/
def step (s : CacheSystem ι) : Action ι → Option (CacheSystem ι)
  | .call i query =>
    match s.threads i with
    | .idle | .returned _ _ _ _ => some (s.put i (.looking { query, since := s.past }))
    | _ => none
  | .look i =>
    match s.threads i with
    | .looking call =>
      match s.caches.hit call.query with
      | some result => some (s.put i (.returned call none result s.past))
      | none => some (s.put i (.asking call))
    | _ => none
  | .answer i answer =>
    match s.threads i with
    | .asking call => some (s.put i (.answered call answer))
    | _ => none
  | .finish i =>
    match s.threads i with
    | .answered call answer => some (s.finish self i call answer)
    | _ => none
  | .collect i =>
    match s.threads i with
    | .collecting call answer (look :: rest) out =>
      some (s.put i (.collecting call answer rest (out ++ [s.caches.look self look])))
    | .collecting call answer [] out =>
      some (s.put i (.returned call (some answer) (.found out) s.past))
    | _ => none
  | .update update =>
    match s.dispatcher with
    | .idle =>
      match update with
      | .user user =>
        some { s with
          caches := s.caches.updateUser user
          past := (user.map (Stored.user · none)).toList ++ s.past }
      | .newChat chat =>
        some { s with
          caches := s.caches.updateNewChat chat
          past := (chat.map (Stored.chat · none)).toList ++ s.past }
      | .newMessage m =>
        let msg := convertMessage m (s.caches.lookupChatType m.chatId) (some self)
        some { s with dispatcher := .typed s.past m msg }
      | .messageContent upd =>
        some (s.dispatch update (.edited (s.caches.updateMessageContent self upd)) s.past)
      | .newCallbackQuery upd =>
        let q := convertCallbackQuery upd (some self)
        let q := { q with sender := s.caches.enrichSenderById self q.sender }
        some (s.dispatch update (.callbackQuery q) s.past)
    | _ => none
  | .enrich =>
    match s.dispatcher with
    | .typed since m msg =>
      some { s.dispatch (.newMessage m) (.message (s.caches.enrichSender self msg)) since with
        dispatcher := .idle }
    | _ => none

end CacheSystem

end CppGram.Backend
