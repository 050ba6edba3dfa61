import CppGram.Backend.BotApiReplies

/-!
# Conversations

The methods of a message (C++ `entities.cpp`) ask the client for something about that message: for a
reply, for an edit, for a copy in another chat. What they return are messages with the same methods, so a
handler may go on with what comes back. An `Address` is what the receiver of a request finds in it about
chats and messages. `conversation_run` tells the addresses of all requests that a handler makes in this
way.
-/

namespace CppGram.Backend
open Json

/-! ## Operations of one request -/

namespace World

variable {φ ψ : Type} (w : World ψ)

/-- `ClientImpl::editMessageCaption` -/
def editMessageCaption (k : Conversions φ ψ) (c : Sending) (chatId : ChatId) (msgId : MessageId)
    (caption : Text) (parseMode : ParseMode) : Done ψ Unit :=
  w.sendEdit (.editMessageCaption chatId msgId none (k.parseText caption (c.effective parseMode)))
    "editMessageCaption"

/-- `ClientImpl::editMessageReplyMarkup` -/
def editMessageReplyMarkup (chatId : ChatId) (msgId : MessageId) (markup : InlineKeyboard) :
    Done ψ Unit :=
  w.sendEdit (.editMessageReplyMarkup chatId msgId (buildReplyMarkup (.inlineKeyboard markup)))
    "editMessageReplyMarkup"

/-- `ClientImpl::deleteMessages` -/
def deleteMessages (chatId : ChatId) (ids : List MessageId) : Done ψ Unit :=
  w.sendEdit (.deleteMessages chatId ids true) "deleteMessages"

/-- `ClientImpl::forwardMessage` -/
def forwardMessage (fromChat : ChatId) (msgId : MessageId) (toChat : ChatId) : Done ψ SentMessage :=
  let req : TdRequest ψ := .forwardMessages toChat fromChat [msgId] none false false false
  let result := w.sendSync req
  { result := do
      result.checkError (ascii "forwardMessage")
      match result with
      | .messages (some m :: _) =>
        return { message := convertMessage m (w.lookupChatType toChat) (some w.self) }
      | _ => return { message := { chatId := toChat, client := some w.self } }
    calls := [.sendSync req] }

/-- `ClientImpl::pinMessage` -/
def pinMessage (chatId : ChatId) (msgId : MessageId) (disableNotification : Bool) : Done ψ Unit :=
  w.sendEdit (.pinChatMessage chatId msgId disableNotification false) "pinMessage"

/-- `ClientImpl::unpinMessage` -/
def unpinMessage (chatId : ChatId) (msgId : MessageId) : Done ψ Unit :=
  w.sendEdit (.unpinChatMessage chatId msgId) "unpinMessage"

end World

/-! ## Methods of messages -/

/-- A method of `class Message`, with its overloads. -/
inductive MessageMethod where
  | reply (body : Text) (parseMode : Option ParseMode)
  | replyMarkup (body : Text) (markup : ReplyMarkup) (parseMode : Option ParseMode)
  | replyRich (richMsg : InputRichMessage)
  | replyInThread (body : Text) (parseMode : Option ParseMode)
  | edit (body : Text) (parseMode : Option ParseMode)
  | editRich (richMsg : InputRichMessage)
  | editCaption (newCaption : Text) (parseMode : Option ParseMode)
  | editReplyMarkup (markup : InlineKeyboard)
  | deleteMessage
  | react (emoji : Text)
  | forward (targetChat : ChatId)
  | pin (disableNotification : Bool)
  | unpin

namespace MessageMethod

open BotOperation

variable {φ ψ : Type}

/-- A method of `m`, whose client is there. -/
def ask (w : World ψ) (k : Conversions φ ψ) (c : Sending) (m : Message) :
    MessageMethod → Done ψ (Option SentMessage)
  | reply body parseMode =>
    run w k c m.chatId (.sendMessage body (some m.id) (parseMode.getD c.defaultParseMode) {})
  | replyMarkup body markup parseMode =>
    run w k c m.chatId
      (.sendMessageWithMarkup body (some m.id) markup (parseMode.getD c.defaultParseMode) {})
  | replyRich richMsg => run w k c m.chatId (.sendRichMessage richMsg { replyTo := some m.id })
  | replyInThread body parseMode =>
    run w k c m.chatId (.sendMessage body (some m.id) (parseMode.getD .None)
      { parseMode := parseMode.getD .None
        messageThreadId := some (m.messageThreadId.getD m.id) })
  | edit body parseMode =>
    run w k c m.chatId (.editMessage m.id body (parseMode.getD c.defaultParseMode))
  | editRich richMsg => run w k c m.chatId (.editRichMessage m.id richMsg {})
  | editCaption newCaption parseMode =>
    edited (w.editMessageCaption k c m.chatId m.id newCaption (parseMode.getD c.defaultParseMode))
  | editReplyMarkup markup => edited (w.editMessageReplyMarkup m.chatId m.id markup)
  | deleteMessage => edited (w.deleteMessages m.chatId [m.id])
  -- `setReaction` has no request in this version of TDLib
  | react _ => { result := .ok none, calls := [] }
  | forward targetChat => sent (w.forwardMessage m.chatId m.id targetChat)
  | pin disableNotification => edited (w.pinMessage m.chatId m.id disableNotification)
  | unpin => edited (w.unpinMessage m.chatId m.id)

/-- What a method returns that finds no client. -/
def expired : MessageMethod → Option SentMessage
  | reply .. | replyMarkup .. | replyRich _ | replyInThread .. | forward _ => some { message := {} }
  | edit .. | editRich _ | editCaption .. | editReplyMarkup _ | deleteMessage | react _ | pin _
  | unpin => none

/-- A method of `m`, if `client` is what `_client` points to as long as that is there. -/
def call (k : Conversions φ ψ) (client : Option (World ψ × Sending)) (m : Message)
    (method : MessageMethod) : Done ψ (Option SentMessage) :=
  match m.client.bind fun _ => client with
  | some (w, c) => method.ask w k c m
  | none => { result := .ok method.expired, calls := [] }

/-- The chat that a message is forwarded to. -/
def target : MessageMethod → Option ChatId
  | forward targetChat => some targetChat
  | reply .. | replyMarkup .. | replyRich _ | replyInThread .. | edit .. | editRich _ | editCaption ..
  | editReplyMarkup _ | deleteMessage | react _ | pin _ | unpin => none

/-- The alignments of a rich message need no spelling. -/
def PlainAligns : MessageMethod → Prop
  | replyRich richMsg | editRich richMsg => ∀ s ∈ richMsg.aligns, Plain s
  | reply .. | replyMarkup .. | replyInThread .. | edit .. | editCaption .. | editReplyMarkup _
  | deleteMessage | react _ | forward _ | pin _ | unpin => True

end MessageMethod

/-! ## What a handler does -/

/-- A handler calls a method of one of the messages it has. -/
structure HandlerTurn (ψ : Type) where
  index : Nat
  method : MessageMethod
  /-- The client in the state it is in then, if it is still there. -/
  client : Option (World ψ × Sending)

/-- A turn, with the message whose method was called and the requests that were made. -/
structure Asked (ψ : Type) where
  message : Message
  turn : HandlerTurn ψ
  requests : List (Call ψ)

/-- A handler in the midst of its work: the messages it has, and what was asked for it so far. -/
structure Conversation (ψ : Type) where
  held : List Message
  asked : List (Asked ψ) := []

namespace Conversation

variable {φ ψ : Type}

/-- What is returned is one more message; what is thrown is caught. -/
def step (k : Conversions φ ψ) (s : Conversation ψ) (t : HandlerTurn ψ) : Conversation ψ :=
  match s.held[t.index]? with
  | some m =>
    let done := t.method.call k t.client m
    { held :=
        match done.result with
        | .ok (some sent) => s.held ++ [sent.message]
        | .ok none | .error _ => s.held
      asked := s.asked ++ [{ message := m, turn := t, requests := done.calls }] }
  | none => s

/-- The work of a handler that is given messages. -/
def run (k : Conversions φ ψ) (given : List Message) (turns : List (HandlerTurn ψ)) : Conversation ψ :=
  turns.foldl (step k) { held := given }

end Conversation

/-! ## Addresses -/

/-- What a request is about; a zero is none. -/
structure Address where
  chatId : Int
  /-- Messages that are edited, deleted, forwarded or pinned. -/
  messageIds : List Int := []
  replyTo : Int := 0
  messageThreadId : Int := 0
  forwardedTo : Option Int := none
  deriving DecidableEq, Repr

/-- The number that a value has under a name. -/
def numberAt (name : String) (value : Json) : Option Int :=
  match value.get? (ascii name) with
  | some (.number i) => some i
  | _ => none

/-- What the Bot API finds in a value. -/
def Address.ofValue (value : Json) : Option Address := do
  let chatId ← numberAt "chat_id" value
  return {
    chatId
    messageIds := (numberAt "message_id" value).toList
    replyTo := ((value.get? (ascii "reply_parameters")).bind (numberAt "message_id")).getD 0
    messageThreadId := (numberAt "message_thread_id" value).getD 0 }

variable {φ ψ : Type}

/-- What TDLib finds in a request. -/
def TdRequest.address : TdRequest ψ → Address
  | sendMessage request =>
    { chatId := request.chatId.toInt
      replyTo := request.replyToMessageId.toInt
      messageThreadId := request.messageThreadId.toInt }
  | editMessageText chatId messageId .. | editMessageCaption chatId messageId ..
  | editMessageReplyMarkup chatId messageId _ | pinChatMessage chatId messageId ..
  | unpinChatMessage chatId messageId =>
    { chatId := chatId.toInt, messageIds := [messageId.toInt] }
  | deleteMessages chatId messageIds _ =>
    { chatId := chatId.toInt, messageIds := messageIds.map (·.toInt) }
  | forwardMessages chatId fromChatId messageIds .. =>
    { chatId := fromChatId.toInt
      messageIds := messageIds.map (·.toInt)
      forwardedTo := some chatId.toInt }

namespace Call

/-- Whether a request goes to the Bot API. -/
def isPost : Call ψ → Bool
  | httpPostJson .. => true
  | sendSync _ => false

/-- What the receiver of a request finds in it. -/
def address : Call ψ → Option Address
  | httpPostJson _ payload => (read payload).bind Address.ofValue
  | sendSync request => some request.address

end Call

/-- What a method is to ask for. The payloads for the Bot API have no threads, and that of a rich
    message is no reply. -/
def MessageMethod.address (m : Message) (isPost : Bool) : MessageMethod → Address
  | reply .. | replyMarkup .. => { chatId := m.chatId.toInt, replyTo := m.id.toInt }
  | replyRich _ =>
    { chatId := m.chatId.toInt, replyTo := if isPost then 0 else m.id.toInt }
  | replyInThread .. =>
    { chatId := m.chatId.toInt
      replyTo := m.id.toInt
      messageThreadId := if isPost then 0 else (m.messageThreadId.getD m.id).toInt }
  | forward targetChat =>
    { chatId := m.chatId.toInt, messageIds := [m.id.toInt], forwardedTo := some targetChat.toInt }
  | edit .. | editRich _ | editCaption .. | editReplyMarkup _ | deleteMessage | react _ | pin _
  | unpin => { chatId := m.chatId.toInt, messageIds := [m.id.toInt] }

namespace BotOperation

/-- What an operation is to ask for. -/
def address (chatId : ChatId) (isPost : Bool) : BotOperation → Address
  | .sendMessage _ replyTo _ options | .sendMessageWithMarkup _ replyTo _ _ options =>
    { chatId := chatId.toInt
      replyTo := (replyTo.getD 0).toInt
      messageThreadId := if isPost then 0 else (options.messageThreadId.getD 0).toInt }
  | .sendRichMessage _ options =>
    { chatId := chatId.toInt
      replyTo := if isPost then 0 else (options.replyTo.getD 0).toInt
      messageThreadId := if isPost then 0 else (options.messageThreadId.getD 0).toInt }
  | .editMessage msgId .. | .editRichMessage msgId .. =>
    { chatId := chatId.toInt, messageIds := [msgId.toInt] }

lemma address_request (k : Conversions φ ψ) (c : Sending) (chatId : ChatId) (op : BotOperation) :
    (op.request k c chatId).address = op.address chatId false := by
  cases op <;> rfl

/-- What the Bot API finds in the payload of a text. -/
lemma ofValue_payloadMembers (chatId : ChatId) (text parseModeName : Text)
    (replyTo : Option MessageId) (options : SendMessageOptions) (markup : Option Json) :
    Address.ofValue (.object (payloadMembers chatId text parseModeName replyTo options markup)) =
      some { chatId := chatId.toInt, replyTo := (replyTo.getD 0).toInt } := by
  rw [payloadMembers]
  cases replyTo <;> cases markup <;> split_ifs <;> rfl

/-- What is posted has the address of the operation. -/
lemma address_posted {c : Sending} {chatId : ChatId} {op : BotOperation} (plain : op.PlainAligns)
    {url payload : Text} (posts : op.posted c chatId = some (url, payload)) :
    (Call.httpPostJson url payload : Call ψ).address = some (op.address chatId true) := by
  rw [Call.address, posted_eq c chatId op plain posts, read_print spells_escapeJsonChar,
    Option.bind_some]
  cases op with
  | sendMessage => exact ofValue_payloadMembers ..
  | sendMessageWithMarkup => exact ofValue_payloadMembers ..
  | sendRichMessage => rfl
  | editMessage => rfl
  | editRichMessage => rfl

/-- The requests of an operation: a post, the request to TDLib, or one after the other. -/
lemma run_calls (w : World ψ) (k : Conversions φ ψ) (c : Sending) (chatId : ChatId)
    (op : BotOperation) :
    (op.run w k c chatId).calls ≠ [] ∧
      ∀ call ∈ (op.run w k c chatId).calls,
        call = .sendSync (op.request k c chatId) ∨
          ∃ url payload, op.posted c chatId = some (url, payload) ∧
            call = .httpPostJson url payload := by
  cases posts : op.posted c chatId with
  | none =>
    rw [run_unposted w k c chatId op posts, calls_tokenless]
    exact ⟨List.cons_ne_nil _ _, fun call inside => .inl (List.mem_singleton.mp inside)⟩
  | some post =>
    obtain ⟨url, payload⟩ := post
    rw [run_posted w k c chatId op posts, World.viaBotApi]
    split
    · refine ⟨List.cons_ne_nil _ _, fun call inside => .inr ⟨url, payload, rfl, ?_⟩⟩
      exact List.mem_singleton.mp inside
    · refine ⟨List.cons_ne_nil _ _, fun call inside => ?_⟩
      rw [calls_tokenless] at inside
      rcases List.mem_cons.mp inside with first | second
      · exact .inr ⟨url, payload, rfl, first⟩
      · exact .inl (List.mem_singleton.mp second)

/-- Each request of an operation has its address. -/
lemma run_address (w : World ψ) (k : Conversions φ ψ) (c : Sending) (chatId : ChatId)
    {op : BotOperation} (plain : op.PlainAligns) :
    ∀ call ∈ (op.run w k c chatId).calls, call.address = some (op.address chatId call.isPost) := by
  intro call inside
  rcases (run_calls w k c chatId op).2 call inside with rfl | ⟨url, payload, posts, rfl⟩
  · exact congrArg some (address_request k c chatId op)
  · exact address_posted plain posts

end BotOperation

/-! ## Chats of what comes back -/

/-- What TDLib answers to a request that puts something into a chat are messages of that chat. -/
structure World.Answers (w : World ψ) : Prop where
  sent : ∀ request m, w.sendSync (.sendMessage request) = .message m → m.chatId = request.chatId
  forwarded : ∀ toChat fromChat ids ms,
    w.sendSync (.forwardMessages toChat fromChat ids none false false false) = .messages ms →
      ∀ m, some m ∈ ms → m.chatId = toChat

/-- What is returned behind a check is returned by what follows it. -/
lemma ok_of_checked {ε α : Type} {check : Except ε Unit} {rest : Except ε α} {a : α}
    (returns : (do check; rest) = .ok a) : rest = .ok a := by
  cases check with
  | error _ => cases returns
  | ok _ => exact returns

/-- What is returned by a map comes from what is mapped. -/
lemma ok_of_map {ε α β : Type} {f : α → β} {given : Except ε α} {b : β}
    (returns : given.map f = .ok b) : ∃ a, given = .ok a ∧ f a = b := by
  cases given with
  | error _ => cases returns
  | ok a => exact ⟨a, rfl, Except.ok.inj returns⟩

/-- What an operation returns is a message of a chat. -/
def Done.InChat (done : Done ψ SentMessage) (chatId : ChatId) : Prop :=
  ∀ s, done.result = .ok s → s.message.chatId = chatId

/-- No content changes the chat. -/
lemma convertContent_chatId (out : Message) (content : TdApi.MessageContent) :
    (convertContent out content).chatId = out.chatId := by
  cases content with
  | messageText text => cases text <;> rfl
  | _ => rfl

/-- A message of TDLib is converted to one of the same chat. -/
lemma convertMessage_chatId (m : TdApi.Message) (chatType : ChatType) (backend : BackendPtr) :
    (convertMessage m chatType backend).chatId = m.chatId := by
  simp only [convertMessage]
  cases m.content with
  | none => rfl
  | some content => exact convertContent_chatId _ content

namespace World

variable {w : World ψ} {chatId : ChatId}

/-- What `send_content` returns is in the chat it was asked for. -/
lemma inChat_sendContent (answers : w.Answers) (content : InputMessageContent ψ)
    (replyTo : Option MessageId) (markup : Option TdApi.ReplyMarkup) (context : String)
    (options : Option MessageSendOptions) (messageThreadId : Int64) :
    (w.sendContent chatId content replyTo markup context options messageThreadId).InChat chatId := by
  intro s returns
  have sent := ok_of_checked returns
  split at sent
  · next m answer =>
    cases sent
    exact (convertMessage_chatId _ _ _).trans (answers.sent _ _ answer)
  all_goals
    cases sent
    rfl

/-- What is forwarded is in the chat it is forwarded to. -/
lemma inChat_forwardMessage (answers : w.Answers) (fromChat : ChatId) (msgId : MessageId) :
    (w.forwardMessage fromChat msgId chatId).InChat chatId := by
  intro s returns
  have sent := ok_of_checked returns
  split at sent
  · next m _ answer =>
    cases sent
    exact (convertMessage_chatId _ _ _).trans
      (answers.forwarded _ _ _ _ answer m List.mem_cons_self)
  · cases sent
    rfl

/-- Through the Bot API too, if the fallback is. -/
lemma inChat_viaBotApi {url payload text : Text} {rich : Option RichMessage}
    {tdLib : Done ψ SentMessage} (inside : tdLib.InChat chatId) :
    (w.viaBotApi url payload (w.httpMessage chatId text rich) tdLib).InChat chatId := by
  intro s returns
  rw [viaBotApi] at returns
  split at returns
  · rw [httpMessage] at returns
    cases found : httpMessageId (w.httpPostJson url payload) with
    | error fault =>
      rw [found] at returns
      cases returns
    | ok id =>
      rw [found] at returns
      cases returns
      rfl
  · exact inside s returns

/-- The rich contents do not change the chat. -/
lemma inChat_rich {done : Done ψ SentMessage} (inside : done.InChat chatId)
    (rich : Option RichMessage) :
    Done.InChat { done with result := done.result.map fun msg => { msg with richMessage := rich } }
      chatId := by
  intro s returns
  obtain ⟨message, result, rfl⟩ := ok_of_map returns
  exact inside message result

end World

namespace BotOperation

/-- What the caller gets is in the chat. -/
lemma chat_sent {chatId : ChatId} {done : Done ψ SentMessage} (inside : done.InChat chatId)
    {s : SentMessage} (returns : (sent done).result = .ok (some s)) : s.message.chatId = chatId := by
  obtain ⟨message, result, same⟩ := ok_of_map returns
  cases Option.some.inj same
  exact inside s result

/-- An edit gives no message. -/
lemma edited_silent (done : Done ψ Unit) (s : SentMessage) : (edited done).result ≠ .ok (some s) := by
  intro returns
  obtain ⟨nothing, -, same⟩ := ok_of_map returns
  cases same

/-- What an operation returns is a message of the chat it was called for. -/
lemma run_chat {w : World ψ} (answers : w.Answers) (k : Conversions φ ψ) (c : Sending)
    (chatId : ChatId) (op : BotOperation) {s : SentMessage}
    (returns : (op.run w k c chatId).result = .ok (some s)) : s.message.chatId = chatId := by
  cases op with
  | sendMessage text replyTo parseMode options =>
    refine chat_sent ?_ returns
    simp only [World.sendMessage]
    split
    · exact World.inChat_viaBotApi (World.inChat_sendContent answers _ _ _ _ _ _)
    · exact World.inChat_sendContent answers _ _ _ _ _ _
  | sendMessageWithMarkup text replyTo markup parseMode options =>
    refine chat_sent ?_ returns
    simp only [World.sendMessageWithMarkup]
    split
    · exact World.inChat_viaBotApi (World.inChat_sendContent answers _ _ _ _ _ _)
    · exact World.inChat_sendContent answers _ _ _ _ _ _
  | sendRichMessage richMsg options =>
    refine chat_sent ?_ returns
    simp only [World.sendRichMessage]
    split
    · exact World.inChat_viaBotApi (World.inChat_rich (World.inChat_sendContent answers _ _ _ _ _ _) _)
    · exact World.inChat_rich (World.inChat_sendContent answers _ _ _ _ _ _) _
  | editMessage => exact absurd returns (edited_silent _ s)
  | editRichMessage => exact absurd returns (edited_silent _ s)

end BotOperation

namespace MessageMethod

/-- The chat that what a method returns is in. -/
def chat (m : Message) (method : MessageMethod) : ChatId := method.target.getD m.chatId

/-- What a method returns is a message of its chat. -/
lemma ask_chat {w : World ψ} (answers : w.Answers) (k : Conversions φ ψ) (c : Sending) (m : Message)
    (method : MessageMethod) {s : SentMessage} (returns : (method.ask w k c m).result = .ok (some s)) :
    s.message.chatId = method.chat m := by
  cases method with
  | reply => exact BotOperation.run_chat answers k c _ _ returns
  | replyMarkup => exact BotOperation.run_chat answers k c _ _ returns
  | replyRich => exact BotOperation.run_chat answers k c _ _ returns
  | replyInThread => exact BotOperation.run_chat answers k c _ _ returns
  | edit => exact BotOperation.run_chat answers k c _ _ returns
  | editRich => exact BotOperation.run_chat answers k c _ _ returns
  | forward targetChat =>
    exact BotOperation.chat_sent (World.inChat_forwardMessage answers m.chatId m.id) returns
  | react => cases returns
  | editCaption | editReplyMarkup | deleteMessage | pin | unpin =>
    exact absurd returns (BotOperation.edited_silent _ s)

/-- Requests were made, to an address. -/
def Reach (calls : List (Call ψ)) (address : Bool → Address) : Prop :=
  calls ≠ [] ∧ ∀ call ∈ calls, call.address = some (address call.isPost)

/-- All requests of an operation reach the address that the operation has. -/
lemma reach_run (w : World ψ) (k : Conversions φ ψ) (c : Sending) (chatId : ChatId)
    {op : BotOperation} (plain : op.PlainAligns) {address : Bool → Address}
    (same : ∀ isPost, op.address chatId isPost = address isPost) :
    Reach (op.run w k c chatId).calls address := by
  refine ⟨(BotOperation.run_calls w k c chatId op).1, fun call inside => ?_⟩
  rw [← same]
  exact BotOperation.run_address w k c chatId plain call inside

/-- The one request reaches its address. -/
lemma reach_sendSync {request : TdRequest ψ} {address : Bool → Address}
    (same : request.address = address false) : Reach [.sendSync request] address := by
  refine ⟨List.cons_ne_nil _ _, fun call inside => ?_⟩
  cases List.mem_singleton.mp inside
  exact congrArg some same

/-- A method makes requests, unless it is a reaction, and they have its address. -/
lemma ask_reach (w : World ψ) (k : Conversions φ ψ) (c : Sending) (m : Message)
    {method : MessageMethod} (plain : method.PlainAligns) :
    (∃ emoji, method = .react emoji) ∧ (method.ask w k c m).calls = [] ∨
      (∀ emoji, method ≠ .react emoji) ∧ Reach (method.ask w k c m).calls (method.address m) := by
  cases method with
  | react emoji => exact .inl ⟨⟨emoji, rfl⟩, rfl⟩
  | reply | replyMarkup | replyInThread | edit =>
    refine .inr ⟨nofun, reach_run w k c _ ?_ ?_⟩
    · trivial
    · exact Bool.forall_bool.mpr ⟨rfl, rfl⟩
  | replyRich | editRich =>
    refine .inr ⟨nofun, reach_run w k c _ ?_ ?_⟩
    · exact plain
    · exact Bool.forall_bool.mpr ⟨rfl, rfl⟩
  | editCaption | editReplyMarkup | deleteMessage | forward | pin | unpin =>
    exact .inr ⟨nofun, reach_sendSync rfl⟩

/-- What a method finds no client for comes to nothing. -/
lemma call_cases (k : Conversions φ ψ) (client : Option (World ψ × Sending)) (m : Message)
    (method : MessageMethod) :
    (∃ w c, m.client.isSome ∧ client = some (w, c) ∧ method.call k client m = method.ask w k c m) ∨
      (m.client = none ∨ client = none) ∧
        method.call k client m = { result := .ok method.expired, calls := [] } := by
  cases pointer : m.client with
  | none =>
    refine .inr ⟨.inl rfl, ?_⟩
    rw [call, pointer]
    rfl
  | some address =>
    cases client with
    | none =>
      refine .inr ⟨.inr rfl, ?_⟩
      rw [call, pointer]
      rfl
    | some there =>
      refine .inl ⟨there.1, there.2, rfl, rfl, ?_⟩
      rw [call, pointer]
      rfl

end MessageMethod

/-! ## Runs -/

namespace Conversation

/-- No request was made: there was no client, or it was for a reaction. -/
def Silent (a : Asked ψ) : Prop :=
  a.message.client = none ∨ a.turn.client = none ∨ ∃ emoji, a.turn.method = .react emoji

/-- A turn asked for what it is to ask for. -/
structure Proper (held : List Message) (chats : List ChatId) (a : Asked ψ) : Prop where
  holds : a.message ∈ held
  chat : ¬ Silent a → a.message.chatId ∈ chats
  silent : a.requests = [] ↔ Silent a
  addressed : ∀ request ∈ a.requests,
    request.address = some (a.turn.method.address a.message request.isPost)

/-- The messages that a handler has and that have a client are in some chats, and all its turns were
    proper. -/
structure InChats (chats : List ChatId) (s : Conversation ψ) : Prop where
  held : ∀ m ∈ s.held, m.client = none ∨ m.chatId ∈ chats
  asked : ∀ a ∈ s.asked, Proper s.held chats a

/-- What a turn needs. -/
structure Fair (chats : List ChatId) (t : HandlerTurn ψ) : Prop where
  answers : ∀ w c, t.client = some (w, c) → w.Answers
  plain : t.method.PlainAligns
  target : ∀ chat, t.method.target = some chat → chat ∈ chats

variable {chats : List ChatId}

/-- A turn that asks nothing is proper. -/
lemma Proper.of_silent {held : List Message} {m : Message} (holds : m ∈ held) {t : HandlerTurn ψ}
    (silent : Silent { message := m, turn := t, requests := [] }) :
    Proper held chats { message := m, turn := t, requests := [] } where
  holds := holds
  chat asks := absurd silent asks
  silent := iff_of_true rfl silent
  addressed _ inside := absurd inside List.not_mem_nil

/-- A turn is proper. -/
lemma proper_call (k : Conversions φ ψ) {s : Conversation ψ} (kept : InChats chats s)
    {t : HandlerTurn ψ} (fair : Fair chats t) {m : Message} (holds : m ∈ s.held) :
    Proper s.held chats
      { message := m, turn := t, requests := (t.method.call k t.client m).calls } := by
  have chat (asks : m.client ≠ none) : m.chatId ∈ chats := (kept.held m holds).resolve_left asks
  rcases t.method.call_cases k t.client m with ⟨w, c, there, client, calls⟩ | ⟨gone, calls⟩
  · rcases MessageMethod.ask_reach w k c m fair.plain with ⟨reaction, empty⟩ | ⟨other, reach⟩
    · rw [calls, empty]
      exact .of_silent holds (.inr (.inr reaction))
    · rw [calls]
      have loud : ¬ Silent { message := m, turn := t, requests := (t.method.ask w k c m).calls } := by
        rintro (nowhere | gone | ⟨emoji, reaction⟩)
        · rw [nowhere] at there
          cases there
        · cases client.symm.trans gone
        · exact other emoji reaction
      exact ⟨holds, fun _ => chat (Option.isSome_iff_ne_none.mp there), iff_of_false reach.1 loud,
        reach.2⟩
  · rw [calls]
    refine .of_silent holds ?_
    rcases gone with nowhere | gone
    · exact .inl nowhere
    · exact .inr (.inl gone)

/-- What comes back is a message in one of the chats, or has no client. -/
lemma returned_call (k : Conversions φ ψ) {s : Conversation ψ} (kept : InChats chats s)
    {t : HandlerTurn ψ} (fair : Fair chats t) {m : Message} (holds : m ∈ s.held) {sent : SentMessage}
    (returns : (t.method.call k t.client m).result = .ok (some sent)) :
    sent.message.client = none ∨ sent.message.chatId ∈ chats := by
  rcases t.method.call_cases k t.client m with ⟨w, c, there, client, calls⟩ | ⟨-, calls⟩
  · rw [calls] at returns
    right
    rw [MessageMethod.ask_chat (fair.answers w c client) k c m t.method returns, MessageMethod.chat]
    cases target : t.method.target with
    | none => exact (kept.held m holds).resolve_left (Option.isSome_iff_ne_none.mp there)
    | some chat => exact fair.target chat target
  · rw [calls] at returns
    left
    cases method : t.method <;> rw [method] at returns <;> cases returns <;> rfl

/-- A proper turn that adds messages of the chats keeps the conversation in its chats. -/
lemma InChats.grow {s : Conversation ψ} (kept : InChats chats s) {a : Asked ψ}
    (proper : Proper s.held chats a) {more : List Message}
    (inside : ∀ m ∈ more, m.client = none ∨ m.chatId ∈ chats) :
    InChats chats { held := s.held ++ more, asked := s.asked ++ [a] } := by
  refine ⟨fun m there => ?_, fun a' there => ?_⟩
  · rcases List.mem_append.mp there with old | new
    · exact kept.held m old
    · exact inside m new
  · have proper' : Proper s.held chats a' := by
      rcases List.mem_append.mp there with old | new
      · exact kept.asked a' old
      · exact List.mem_singleton.mp new ▸ proper
    exact { proper' with holds := List.mem_append_left _ proper'.holds }

/-- A turn leaves a handler with messages in the chats. -/
lemma inChats_step (k : Conversions φ ψ) {s : Conversation ψ} (kept : InChats chats s)
    {t : HandlerTurn ψ} (fair : Fair chats t) : InChats chats (step k s t) := by
  rw [step]
  split
  · next m found =>
    have holds := List.mem_of_getElem? found
    have proper := proper_call k kept fair holds
    have empty (m' : Message) (inside : m' ∈ []) : m'.client = none ∨ m'.chatId ∈ chats :=
      absurd inside List.not_mem_nil
    have nothing := kept.grow proper empty
    rw [List.append_nil] at nothing
    dsimp only
    split
    · next sent returns =>
      refine kept.grow proper fun m' inside => ?_
      rw [List.mem_singleton.mp inside]
      exact returned_call k kept fair holds returns
    · exact nothing
    · exact nothing
  · exact kept

/-- A run stays in its chats if each of its turns is fair. -/
lemma inChats_run (k : Conversions φ ψ) {turns : List (HandlerTurn ψ)} (fair : ∀ t ∈ turns, Fair chats t)
    {s : Conversation ψ} (kept : InChats chats s) : InChats chats (turns.foldl (step k) s) := by
  induction turns generalizing s with
  | nil => exact kept
  | cons t turns ih =>
    exact ih (fun t inside => fair t (List.mem_cons_of_mem _ inside))
      (inChats_step k kept (fair t List.mem_cons_self))

/-- Whatever methods a handler calls of the messages it is given and of those that come back, in
    whatever state of the client: each call makes requests, unless the client is gone or it is for a
    reaction. Each request, whether it goes to the Bot API or to TDLib, is about the chat and the message
    whose method was called, and this is a chat of the given messages or one that a message was forwarded
    to. -/
theorem conversation_run (k : Conversions φ ψ) (given : List Message) (turns : List (HandlerTurn ψ))
    (answers : ∀ t ∈ turns, ∀ w c, t.client = some (w, c) → w.Answers)
    (plain : ∀ t ∈ turns, t.method.PlainAligns) :
    let s := run k given turns
    let chats := given.map (·.chatId) ++ turns.filterMap (·.method.target)
    (∀ m ∈ s.held, m.client = none ∨ m.chatId ∈ chats) ∧ ∀ a ∈ s.asked, Proper s.held chats a := by
  intro s chats
  have fair (t : HandlerTurn ψ) (inside : t ∈ turns) : Fair chats t :=
    ⟨answers t inside, plain t inside, fun chat target =>
      List.mem_append_right _ (List.mem_filterMap.mpr ⟨t, inside, target⟩)⟩
  have start : InChats (ψ := ψ) chats { held := given } :=
    ⟨fun m inside => .inr (List.mem_append_left _ (List.mem_map_of_mem inside)),
      fun a inside => absurd inside List.not_mem_nil⟩
  have kept := inChats_run k fair start
  exact ⟨kept.held, kept.asked⟩

/-- A world in which all goes well. -/
def obliging : World Unit where
  httpPostJson _ _ := ascii "\x7b\"ok\":true,\"result\":\x7b\"message_id\":5\x7d\x7d"
  sendSync
    | .sendMessage request => .message { id := 6, chatId := request.chatId }
    | .forwardMessages toChat .. => .messages [some { id := 6, chatId := toChat }]
    | _ => .object none
  now := 0
  lookupChatType _ := .Unknown
  self := 0

/-- The obliging TDLib answers with messages of the chat it is asked for. -/
lemma obliging_answers : obliging.Answers := by
  constructor
  · rintro request m ⟨⟩
    rfl
  · rintro toChat fromChat ids ms ⟨⟩ m inside
    cases List.mem_singleton.mp inside
    rfl

/-- Buttons in the middle of their row. -/
def centered : InputRichMessage :=
  { blocks := [⟨.buttons, .buttons { buttons := [{ text := ascii "Go" }], align := ascii "center" }⟩] }

/-- A reply in the chat 7, that is edited, answered with buttons and forwarded to the chat 8. -/
theorem conversation_run_forwarded :
    let client := some (obliging, { botToken := [48], defaultParseMode := .HTML })
    let s := run (φ := Unit) ⟨fun _ _ => (), fun _ => .ok ()⟩
      [{ id := 9, chatId := 7, client := some 0 }]
      [⟨0, .reply [112] none, client⟩, ⟨1, .edit [113] none, client⟩, ⟨1, .replyRich centered, client⟩,
        ⟨2, .forward 8, client⟩]
    (∀ m ∈ s.held, m.client = none ∨ m.chatId ∈ [7, 8]) ∧ ∀ a ∈ s.asked, Proper s.held [7, 8] a := by
  intro client s
  refine conversation_run _ _ _ ?_ ?_
  · intro t inside w c there
    have same : t.client = client := by
      simp only [List.mem_cons, List.not_mem_nil, or_false] at inside
      rcases inside with rfl | rfl | rfl | rfl <;> rfl
    have this : obliging = w := congrArg Prod.fst (Option.some.inj (same.symm.trans there))
    exact this ▸ obliging_answers
  · intro t inside
    simp only [List.mem_cons, List.not_mem_nil, or_false] at inside
    have aligns : ∀ s ∈ centered.aligns, Plain s := by decide
    rcases inside with rfl | rfl | rfl | rfl
    · trivial
    · trivial
    · exact aligns
    · trivial

end Conversation

end CppGram.Backend
