import CppGram.Backend.Entities
import CppGram.Backend.RichMessageRender
import CppGram.Threads.SyncWait

/-!
# The asynchronous functions of the client

Each `asyncX` of `class Client` (C++ `client.cpp`) is a coroutine that does nothing but call `X` with
its arguments and return what that returns. `syncWait_coReturnOf` is about all of them: to wait for the
task is to call the function.
-/

namespace CppGram.Backend
open Threads.Coro

/-- The functions of `class Client` that have an asynchronous form: what a call comes to, and what it
    leaves of the state of the program. `V` has a value for all that they return, also for nothing. -/
structure ClientFunctions (σ V CallProtocol SentWebAppMessage : Type) where
  sendMessage (chatId : ChatId) (text : Text) (replyTo : Option MessageId) : σ → Outcome V × σ
  /-- The overload with options. -/
  sendMessageWithOptions (chatId : ChatId) (text : Text) (options : SendMessageOptions)
    (replyTo : Option MessageId) : σ → Outcome V × σ
  /-- The overload with a parse mode. -/
  sendMessageWithParseMode (chatId : ChatId) (text : Text) (parseMode : ParseMode)
    (options : SendMessageOptions) (replyTo : Option MessageId) : σ → Outcome V × σ
  sendRichMessage (chatId : ChatId) (richMsg : InputRichMessage) (options : SendRichMessageOptions) :
    σ → Outcome V × σ
  editRichMessage (chatId : ChatId) (msgId : MessageId) (richMsg : InputRichMessage)
    (options : SendRichMessageOptions) : σ → Outcome V × σ
  sendRichMessageDraft (chatId : ChatId) (draftId : Int64) (richMsg : InputRichMessage)
    (canStop keepOnStop : Bool) : σ → Outcome V × σ
  getMe : σ → Outcome V × σ
  getUser (id : UserId) : σ → Outcome V × σ
  getChat (id : ChatId) : σ → Outcome V × σ
  getMessageThread (chatId : ChatId) (messageId : MessageId) : σ → Outcome V × σ
  getMessageThreadHistory (chatId : ChatId) (messageId fromMessageId : MessageId)
    (offset limit : Int32) : σ → Outcome V × σ
  deleteMessages (chatId : ChatId) (messageIds : List MessageId) : σ → Outcome V × σ
  editMessage (chatId : ChatId) (msgId : MessageId) (text : Text) : σ → Outcome V × σ
  createSecretChat (userId : UserId) : σ → Outcome V × σ
  closeSecretChat (secretChatId : Int32) : σ → Outcome V × σ
  getSecretChat (secretChatId : Int32) : σ → Outcome V × σ
  getBusinessConnection (businessConnectionId : Text) : σ → Outcome V × σ
  getGroupCall (groupCallId : Int32) : σ → Outcome V × σ
  joinGroupCall (groupCallId : Int32) (protocol : CallProtocol) : σ → Outcome V × σ
  leaveGroupCall (groupCallId : Int32) : σ → Outcome V × σ
  answerWebAppQuery (webAppQueryId : Text) (result : SentWebAppMessage) : σ → Outcome V × σ

namespace ClientFunctions

variable {σ V CallProtocol SentWebAppMessage : Type}
  (c : ClientFunctions σ V CallProtocol SentWebAppMessage)

/-- A text, perhaps as a reply. -/
def asyncSendMessage (chatId : ChatId) (text : Text) (replyTo : Option MessageId) : Body σ V :=
  coReturnOf (c.sendMessage chatId text replyTo)

/-- The overload with options. -/
def asyncSendMessageWithOptions (chatId : ChatId) (text : Text) (options : SendMessageOptions)
    (replyTo : Option MessageId) : Body σ V :=
  coReturnOf (c.sendMessageWithOptions chatId text options replyTo)

/-- The overload with a parse mode. -/
def asyncSendMessageWithParseMode (chatId : ChatId) (text : Text) (parseMode : ParseMode)
    (options : SendMessageOptions) (replyTo : Option MessageId) : Body σ V :=
  coReturnOf (c.sendMessageWithParseMode chatId text parseMode options replyTo)

/-- A rich message. -/
def asyncSendRichMessage (chatId : ChatId) (richMsg : InputRichMessage)
    (options : SendRichMessageOptions) : Body σ V :=
  coReturnOf (c.sendRichMessage chatId richMsg options)

/-- A rich message in the place of an old one. -/
def asyncEditRichMessage (chatId : ChatId) (msgId : MessageId) (richMsg : InputRichMessage)
    (options : SendRichMessageOptions) : Body σ V :=
  coReturnOf (c.editRichMessage chatId msgId richMsg options)

/-- A rich message that is still being written. -/
def asyncSendRichMessageDraft (chatId : ChatId) (draftId : Int64) (richMsg : InputRichMessage)
    (canStop keepOnStop : Bool) : Body σ V :=
  coReturnOf (c.sendRichMessageDraft chatId draftId richMsg canStop keepOnStop)

/-- The user of the client itself. -/
def asyncGetMe : Body σ V := coReturnOf c.getMe

/-- A user by its id. -/
def asyncGetUser (id : UserId) : Body σ V := coReturnOf (c.getUser id)

/-- A chat by its id. -/
def asyncGetChat (id : ChatId) : Body σ V := coReturnOf (c.getChat id)

/-- The thread of a message. -/
def asyncGetMessageThread (chatId : ChatId) (messageId : MessageId) : Body σ V :=
  coReturnOf (c.getMessageThread chatId messageId)

/-- Messages of a thread, from one of them on. -/
def asyncGetMessageThreadHistory (chatId : ChatId) (messageId fromMessageId : MessageId)
    (offset limit : Int32) : Body σ V :=
  coReturnOf (c.getMessageThreadHistory chatId messageId fromMessageId offset limit)

/-- Several messages of a chat. -/
def asyncDeleteMessages (chatId : ChatId) (messageIds : List MessageId) : Body σ V :=
  coReturnOf (c.deleteMessages chatId messageIds)

/-- The text of a message. -/
def asyncEditMessage (chatId : ChatId) (msgId : MessageId) (text : Text) : Body σ V :=
  coReturnOf (c.editMessage chatId msgId text)

/-- A secret chat with a user. -/
def asyncCreateSecretChat (userId : UserId) : Body σ V := coReturnOf (c.createSecretChat userId)

/-- The end of a secret chat. -/
def asyncCloseSecretChat (secretChatId : Int32) : Body σ V :=
  coReturnOf (c.closeSecretChat secretChatId)

/-- A secret chat by its number. -/
def asyncGetSecretChat (secretChatId : Int32) : Body σ V := coReturnOf (c.getSecretChat secretChatId)

/-- A business connection by its id. -/
def asyncGetBusinessConnection (businessConnectionId : Text) : Body σ V :=
  coReturnOf (c.getBusinessConnection businessConnectionId)

/-- A group call by its number. -/
def asyncGetGroupCall (groupCallId : Int32) : Body σ V := coReturnOf (c.getGroupCall groupCallId)

/-- Joining a group call with a protocol. -/
def asyncJoinGroupCall (groupCallId : Int32) (protocol : CallProtocol) : Body σ V :=
  coReturnOf (c.joinGroupCall groupCallId protocol)

/-- Leaving a group call. -/
def asyncLeaveGroupCall (groupCallId : Int32) : Body σ V := coReturnOf (c.leaveGroupCall groupCallId)

/-- The answer to the query of a web app. -/
def asyncAnswerWebAppQuery (webAppQueryId : Text) (result : SentWebAppMessage) : Body σ V :=
  coReturnOf (c.answerWebAppQuery webAppQueryId result)

end ClientFunctions

/-- `sync_wait(client.asyncX(args))` returns or throws what `client.X(args)` does, leaves the same
    state, and leaves no frame behind. -/
lemma syncWait_coReturnOf {σ V : Type} (f : σ → Outcome V × σ) (heap : Heap σ V) (s : σ) :
    ∃ n heap', (∀ x, frameAt heap' x = frameAt heap x) ∧ ∀ fuel, n ≤ fuel →
      syncWait fuel (heap ++ [fresh (coReturnOf f)]) (some heap.length) s =
        some ((f s).1, (f s).2, heap') := by
  rw [← Program.denote_coReturnOf f [] s]
  exact syncWait_eq (coReturnOf f) heap s

end CppGram.Backend
