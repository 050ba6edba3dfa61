import CppGram.Lib.JsonTokens
import CppGram.Backend.JsonEscapes
import CppGram.Backend.MarkupPaths
import CppGram.Backend.Messages
import CppGram.Backend.RichMessageJson
import CppGram.Backend.RichMessageRender

/-!
# Answers of the Bot API

`ClientImpl` searches the text of an answer of the Bot API for `"ok":true` and for `"message_id":`
instead of parsing it. On an answer without blanks this finds the members of these names, whatever the
strings in it are (`httpOk_text`, `httpMessageId_text`), so each operation that goes through the Bot API
ends there or goes on with the request of a client without a bot token, as the answer says
(`run_answered`).
-/

namespace CppGram.Backend
open Json

/-! ## Reading an answer -/

/-- `!resp.empty() && resp.find("\"ok\":true") != npos` -/
def httpOk (resp : Text) : Bool := resp ≠ [] ∧ (Find.find resp (ascii "\"ok\":true")).isSome

/-- The id of the message that an answer is about; without one it is left as it is. -/
def httpMessageId (resp : Text) : Except StollFault MessageId :=
  match Find.find resp (ascii "\"message_id\":") with
  | some idPos => stoll (resp.drop (idPos + 13))
  | none => .ok 0

/-! ## The operations -/

/-- Requests to TDLib that the operations make. -/
inductive TdRequest (ψ : Type) where
  | sendMessage (request : SendMessageRequest ψ)
  | editMessageText (chatId messageId : Int64) (replyMarkup : Option TdApi.ReplyMarkup) (text : ψ)
  | editMessageCaption (chatId messageId : Int64) (replyMarkup : Option TdApi.ReplyMarkup) (caption : ψ)
  | editMessageReplyMarkup (chatId messageId : Int64) (replyMarkup : TdApi.ReplyMarkup)
  | deleteMessages (chatId : Int64) (messageIds : List Int64) (revoke : Bool)
  | forwardMessages (chatId fromChatId : Int64) (messageIds : List Int64)
      (options : Option MessageSendOptions) (sendCopy removeCaption onlyPreview : Bool)
  | pinChatMessage (chatId messageId : Int64) (disableNotification onlyForSelf : Bool)
  | unpinChatMessage (chatId messageId : Int64)

/-- What `td.send_sync` gives. -/
inductive TdAnswer where
  | message (m : TdApi.Message)
  | messages (ms : List (Option TdApi.Message))
  | object (o : Option TdApi.Object)

/-- A request that an operation makes. -/
inductive Call (ψ : Type) where
  | httpPostJson (url payload : Text)
  | sendSync (request : TdRequest ψ)

/-- What the operations meet outside of themselves; `httpPostJson` gives an empty text if it fails. -/
structure World (ψ : Type) where
  httpPostJson : Text → Text → Text
  sendSync : TdRequest ψ → TdAnswer
  now : Timestamp
  lookupChatType : ChatId → ChatType
  self : Nat

/-- What an operation throws. -/
inductive SendFault where
  | query (fault : QueryFault)
  | stoll (fault : StollFault)

/-- C++ `struct RichMessage`. -/
structure RichMessage where
  blocks : List RichBlock
  isRtl : Bool

/-- The message that an operation returns, with `msg.rich_message`. -/
structure SentMessage where
  message : Message
  richMessage : Option RichMessage := none

/-- An operation that is over: what it returns, and the requests it made. -/
structure Done (ψ α : Type) where
  result : Except SendFault α
  calls : List (Call ψ)

/-- `check_error` on what `send_sync` gives. -/
def TdAnswer.checkError (answer : TdAnswer) (context : Text) : Except SendFault Unit :=
  match answer with
  | .message _ | .messages _ => .ok ()
  | .object o => (Backend.checkError o context).mapError .query

namespace World

variable {φ ψ α : Type} (w : World ψ)

/-- `ClientImpl::send_content` -/
def sendContent (chatId : ChatId) (content : InputMessageContent ψ) (replyTo : Option MessageId)
    (markup : Option TdApi.ReplyMarkup) (context : String) (options : Option MessageSendOptions)
    (messageThreadId : Int64) : Done ψ SentMessage :=
  let req : TdRequest ψ := .sendMessage
    { chatId
      messageThreadId
      replyToMessageId := replyTo.getD 0
      options
      replyMarkup := markup
      inputMessageContent := content }
  let result := w.sendSync req
  let stub : Message :=
    { chatId
      messageThreadId := if messageThreadId ≠ 0 then some messageThreadId else none
      outgoing := true
      client := some w.self }
  { result := do
      result.checkError (ascii context)
      match result with
      | .message m =>
        return { message := convertMessage m (w.lookupChatType chatId) (some w.self) }
      | .messages _ | .object _ => return { message := stub }
    calls := [.sendSync req] }

/-- The end of `editMessage` and its like, which return nothing -/
def sendEdit (request : TdRequest ψ) (context : String) : Done ψ Unit where
  result := (w.sendSync request).checkError (ascii context)
  calls := [.sendSync request]

/-- A payload is posted; without success the operation goes on with TDLib. -/
def viaBotApi (url payload : Text) (succeeded : Text → Except StollFault α) (tdLib : Done ψ α) :
    Done ψ α :=
  let resp := w.httpPostJson url payload
  if httpOk resp then
    { result := (succeeded resp).mapError .stoll, calls := [.httpPostJson url payload] }
  else { tdLib with calls := .httpPostJson url payload :: tdLib.calls }

/-- The message that an answer is made into. -/
def httpMessage (chatId : ChatId) (text : Text) (richMessage : Option RichMessage) (resp : Text) :
    Except StollFault SentMessage := do
  let id ← httpMessageId resp
  return {
    message := { id, chatId, text, date := w.now, client := some w.self }
    richMessage }

/-- `ClientImpl::sendMessage` -/
def sendMessage (k : Conversions φ ψ) (c : Sending) (chatId : ChatId) (text : Text)
    (replyTo : Option MessageId) (parseMode : ParseMode) (options : SendMessageOptions) :
    Done ψ SentMessage :=
  let pm := c.effective parseMode
  let tdLib := w.sendContent chatId (.text (k.parseText text pm)) replyTo none "sendMessage"
    (some (convertSendOptions options)) (options.messageThreadId.getD 0)
  if c.usesBotApi pm then
    w.viaBotApi c.url (botApiPayload chatId text pm replyTo options [])
      (w.httpMessage chatId text none) tdLib
  else tdLib

/-- `ClientImpl::sendMessageWithMarkup` -/
def sendMessageWithMarkup (k : Conversions φ ψ) (c : Sending) (chatId : ChatId) (text : Text)
    (replyTo : Option MessageId) (markup : ReplyMarkup) (parseMode : ParseMode)
    (options : SendMessageOptions) : Done ψ SentMessage :=
  let pm := c.effective parseMode
  let tdLib := w.sendContent chatId (.text (k.parseText text pm)) replyTo
    (some (buildReplyMarkup markup)) "sendMessage" (some (convertSendOptions options))
    (options.messageThreadId.getD 0)
  if c.usesBotApi pm then
    w.viaBotApi c.url (botApiPayload chatId text pm replyTo options (replyMarkupToJson markup))
      (w.httpMessage chatId text none) tdLib
  else tdLib

/-- `ClientImpl::sendRichMessage` -/
def sendRichMessage (k : Conversions φ ψ) (c : Sending) (chatId : ChatId)
    (richMsg : InputRichMessage) (options : SendRichMessageOptions) : Done ψ SentMessage :=
  let rich : Option RichMessage := some { blocks := richMsg.blocks, isRtl := richMsg.isRtl }
  let (content, rm) := renderRichMessageTdlib k richMsg options
  let sent := w.sendContent chatId (.text content) options.replyTo rm "sendRichMessage"
    (some (convertSendOptions
      { disableNotification := options.disableNotification
        protectContent := options.protectContent
        messageThreadId := options.messageThreadId }))
    (options.messageThreadId.getD 0)
  let tdLib := { sent with result := sent.result.map fun msg => { msg with richMessage := rich } }
  if c.botToken ≠ [] then
    w.viaBotApi (ascii "https://api.telegram.org/bot" ++ c.botToken ++ ascii "/sendRichMessage")
      (Sending.richMessagePayload chatId richMsg) (w.httpMessage chatId [] rich) tdLib
  else tdLib

/-- The address that edits are posted to. -/
def editUrl (c : Sending) : Text :=
  ascii "https://api.telegram.org/bot" ++ c.botToken ++ ascii "/editMessageText"

/-- The payload that `editMessage` puts together. -/
def editPayload (chatId : ChatId) (msgId : MessageId) (text : Text) (parseMode : ParseMode) : Text :=
  ascii "\x7b\"chat_id\":" ++ printInt chatId.toInt ++
    ascii ",\"message_id\":" ++ printInt msgId.toInt ++
    ascii ",\"text\":\"" ++ escapeJsonString text ++ ascii "\"" ++
    ascii ",\"parse_mode\":\"" ++ parseModeName parseMode ++ ascii "\"\x7d"

/-- The payload that `editRichMessage` puts together. -/
def editRichPayload (chatId : ChatId) (msgId : MessageId) (richMsg : InputRichMessage) : Text :=
  ascii "\x7b\"chat_id\":" ++ printInt chatId.toInt ++
    ascii ",\"message_id\":" ++ printInt msgId.toInt ++
    ascii ",\"rich_message\":" ++ serializeRichMessageJson richMsg ++ ascii "\x7d"

/-- `ClientImpl::editMessage` -/
def editMessage (k : Conversions φ ψ) (c : Sending) (chatId : ChatId) (msgId : MessageId)
    (text : Text) (parseMode : ParseMode) : Done ψ Unit :=
  let pm := c.effective parseMode
  let tdLib := w.sendEdit (.editMessageText chatId msgId none (k.parseText text pm)) "editMessage"
  if c.usesBotApi pm then
    w.viaBotApi (editUrl c) (editPayload chatId msgId text pm) (fun _ => .ok ()) tdLib
  else tdLib

/-- `ClientImpl::editRichMessage` -/
def editRichMessage (k : Conversions φ ψ) (c : Sending) (chatId : ChatId) (msgId : MessageId)
    (richMsg : InputRichMessage) (options : SendRichMessageOptions) : Done ψ Unit :=
  let (content, rm) := renderRichMessageTdlib k richMsg options
  let tdLib := w.sendEdit (.editMessageText chatId msgId rm content) "editRichMessage"
  if c.botToken ≠ [] then
    w.viaBotApi (editUrl c) (editRichPayload chatId msgId richMsg) (fun _ => .ok ()) tdLib
  else tdLib

end World

/-- An operation that may go through the Bot API. -/
inductive BotOperation where
  | sendMessage (text : Text) (replyTo : Option MessageId) (parseMode : ParseMode)
      (options : SendMessageOptions)
  | sendMessageWithMarkup (text : Text) (replyTo : Option MessageId) (markup : ReplyMarkup)
      (parseMode : ParseMode) (options : SendMessageOptions)
  | sendRichMessage (richMsg : InputRichMessage) (options : SendRichMessageOptions)
  | editMessage (msgId : MessageId) (text : Text) (parseMode : ParseMode)
  | editRichMessage (msgId : MessageId) (richMsg : InputRichMessage)
      (options : SendRichMessageOptions)

namespace BotOperation

variable {φ ψ : Type}

/-- An edit returns nothing. -/
def edited (done : Done ψ Unit) : Done ψ (Option SentMessage) :=
  { done with result := done.result.map fun _ => none }

/-- A sending whose message is handed to the caller. -/
def sent (done : Done ψ SentMessage) : Done ψ (Option SentMessage) :=
  { done with result := done.result.map some }

/-- What an operation comes to. -/
def run (w : World ψ) (k : Conversions φ ψ) (c : Sending) (chatId : ChatId) :
    BotOperation → Done ψ (Option SentMessage)
  | .sendMessage text replyTo parseMode options =>
    sent (w.sendMessage k c chatId text replyTo parseMode options)
  | .sendMessageWithMarkup text replyTo markup parseMode options =>
    sent (w.sendMessageWithMarkup k c chatId text replyTo markup parseMode options)
  | .sendRichMessage richMsg options => sent (w.sendRichMessage k c chatId richMsg options)
  | .editMessage msgId text parseMode => edited (w.editMessage k c chatId msgId text parseMode)
  | .editRichMessage msgId richMsg options =>
    edited (w.editRichMessage k c chatId msgId richMsg options)

end BotOperation

/-! ## What an answer says -/

/-- The id that an answer gives: the value of the first member named `message_id`. -/
def replyId (d : Doc) : Except StollFault MessageId :=
  match d.members.find? fun m => m.1 = ascii "message_id" with
  | some (_, .number t) => stoll t
  | some _ => .error .invalidArgument
  | none => .ok 0

/-- An answer says that the request succeeded. -/
def Succeeded (d : Doc) : Prop := (ascii "ok", Doc.bool true) ∈ d.members

lemma searched_ok : Searched (ascii "ok") := ⟨by decide +kernel, 111, rfl, by decide⟩

lemma searched_messageId : Searched (ascii "message_id") := ⟨by decide +kernel, 109, rfl, by decide⟩

/-- The search for the marker finds it exactly if some member `ok` is true. -/
lemma httpOk_text {d : Doc} (wf : d.WellFormed) : httpOk d.text = true ↔ Succeeded d := by
  have found := Doc.find_true wf searched_ok
  have same : marker (ascii "ok") (ascii "true") = ascii "\"ok\":true" := by decide
  rw [same] at found
  simp only [httpOk, decide_eq_true_eq]
  constructor
  · exact fun ok => found.mp ok.2
  · intro succeeded
    have there := found.mpr succeeded
    refine ⟨?_, there⟩
    intro empty
    rw [empty, Find.isSome_find] at there
    cases List.eq_nil_of_infix_nil there

/-- What begins with no blank, sign or digit is no number. -/
lemma stoll_invalid {c : UInt8} {s : Text} (space : isSpace c = false) (digit : isDigit c = false)
    (minus : c ≠ 45) (plus : c ≠ 43) : stoll (c :: s) = .error .invalidArgument := by
  have signed : takeSign ((c :: s).dropWhile isSpace) = (false, c :: s) := by
    simp [takeSign, space, minus, plus]
  have digits : (c :: s).takeWhile isDigit = [] := by simp [digit]
  simp only [stoll, signed, digits, if_true]

/-- No character of a number is a blank. -/
lemma numeral_not_space {c : UInt8} (numeral : Doc.isNumeral c = true) : isSpace c = false := by
  have others : ∀ d ∈ [(32 : UInt8), 9, 10, 11, 12, 13], Doc.isNumeral d = false := by decide +kernel
  by_contra space
  rw [Bool.not_eq_false] at space
  have inside : c ∈ [(32 : UInt8), 9, 10, 11, 12, 13] := by
    simp only [isSpace, Bool.or_eq_true, beq_iff_eq, Bool.and_eq_true, decide_eq_true_eq] at space
    simp only [List.mem_cons, List.not_mem_nil, or_false]
    grind
  rw [others c inside] at numeral
  cases numeral

/-- What stands behind a numeral is not looked at. -/
lemma stoll_append {t s : Text} (nonempty : t ≠ []) (numerals : ∀ c ∈ t, Doc.isNumeral c = true)
    (ends : ∀ c ∈ s.head?, isDigit c = false) : stoll (t ++ s) = stoll t := by
  obtain ⟨c, rest, rfl⟩ := List.exists_cons_of_ne_nil nonempty
  have space := numeral_not_space (numerals c List.mem_cons_self)
  have whole : ((c :: rest) ++ s).dropWhile isSpace = (c :: rest) ++ s := by simp [space]
  have part : (c :: rest).dropWhile isSpace = c :: rest := by simp [space]
  have sign : takeSign ((c :: rest) ++ s) =
      ((takeSign (c :: rest)).1, (takeSign (c :: rest)).2 ++ s) := by
    by_cases minus : c = 45
    · simp [takeSign, minus]
    · by_cases plus : c = 43 <;> simp [takeSign, minus, plus]
  have stop : s.takeWhile isDigit = [] := by
    cases s with
    | nil => rfl
    | cons d s => simp [ends d rfl]
  have digits : ((takeSign (c :: rest)).2 ++ s).takeWhile isDigit =
      (takeSign (c :: rest)).2.takeWhile isDigit := by
    generalize (takeSign (c :: rest)).2 = u
    induction u with
    | nil => exact stop
    | cons d u ih =>
      rw [List.cons_append, List.takeWhile_cons, List.takeWhile_cons, ih]
  simp only [stoll, whole, part, sign, digits]

/-- The id in an answer is that of the first member named `message_id`. -/
lemma httpMessageId_text {d : Doc} (wf : d.WellFormed) : httpMessageId d.text = replyId d := by
  have found := Doc.find_member wf searched_messageId
  have same : marker (ascii "message_id") [] = ascii "\"message_id\":" := by decide
  rw [same] at found
  rw [httpMessageId, replyId]
  cases first : d.members.find? fun m => m.1 = ascii "message_id" with
  | none =>
    rw [first] at found
    rw [show Find.find d.text (ascii "\"message_id\":") = none from found]
  | some m =>
    rw [first] at found
    obtain ⟨i, ts, there, behind, tokens⟩ := found
    have value : stoll (d.text.drop (i + 13)) = stoll (Json.text (m.2.first :: ts)) :=
      congrArg stoll behind
    have proper := wf.members m (List.mem_of_find?_eq_some first)
    rw [there]
    dsimp only
    rw [value]
    obtain ⟨name, v⟩ := m
    cases proper with
    | null => exact stoll_invalid rfl rfl (by decide) (by decide)
    | bool b => cases b <;> exact stoll_invalid rfl rfl (by decide) (by decide)
    | number nonempty numerals =>
      refine stoll_append nonempty numerals fun c head => ?_
      cases tokens with
      | scalar _ closed _ =>
        have digits : ∀ d ∈ marks, isDigit d = false := by decide +kernel
        exact digits c (closed.head c head)
    | string => exact stoll_invalid rfl rfl (by decide) (by decide)
    | array => exact stoll_invalid rfl rfl (by decide) (by decide)
    | object => exact stoll_invalid rfl rfl (by decide) (by decide)

/-! ## Operations and answers -/

namespace BotOperation

variable {φ ψ : Type}

/-- What an operation posts, if it goes through the Bot API. -/
def posted (c : Sending) (chatId : ChatId) : BotOperation → Option (Text × Text)
  | .sendMessage text replyTo parseMode options =>
    if c.usesBotApi (c.effective parseMode) then
      some (c.url, botApiPayload chatId text (c.effective parseMode) replyTo options [])
    else none
  | .sendMessageWithMarkup text replyTo markup parseMode options =>
    if c.usesBotApi (c.effective parseMode) then
      some (c.url, botApiPayload chatId text (c.effective parseMode) replyTo options
        (replyMarkupToJson markup))
    else none
  | .sendRichMessage richMsg _ =>
    if c.botToken ≠ [] then
      some (ascii "https://api.telegram.org/bot" ++ c.botToken ++ ascii "/sendRichMessage",
        Sending.richMessagePayload chatId richMsg)
    else none
  | .editMessage msgId text parseMode =>
    if c.usesBotApi (c.effective parseMode) then
      some (World.editUrl c, World.editPayload chatId msgId text (c.effective parseMode))
    else none
  | .editRichMessage msgId richMsg _ =>
    if c.botToken ≠ [] then some (World.editUrl c, World.editRichPayload chatId msgId richMsg)
    else none

/-- What an operation returns whose answer says that it succeeded: a send the message with the id of the
    answer, an edit nothing. -/
def replied (w : World ψ) (chatId : ChatId) (id : Except StollFault MessageId) :
    BotOperation → Except StollFault (Option SentMessage)
  | .sendMessage text .. | .sendMessageWithMarkup text .. => do
    let id ← id
    return some { message := { id, chatId, text, date := w.now, client := some w.self } }
  | .sendRichMessage richMsg _ => do
    let id ← id
    return some {
      message := { id, chatId, date := w.now, client := some w.self }
      richMessage := some { blocks := richMsg.blocks, isRtl := richMsg.isRtl } }
  | .editMessage .. | .editRichMessage .. => .ok none

/-- The same client without its bot token. -/
def tokenless (c : Sending) : Sending := { c with botToken := [] }

@[simp] lemma usesBotApi_tokenless (c : Sending) (parseMode : ParseMode) :
    (tokenless c).usesBotApi parseMode = false := by
  simp [Sending.usesBotApi, tokenless]

@[simp] lemma effective_tokenless (c : Sending) (parseMode : ParseMode) :
    (tokenless c).effective parseMode = c.effective parseMode := rfl

@[simp] lemma botToken_tokenless (c : Sending) : (tokenless c).botToken = [] := rfl

/-- The request that an operation makes to TDLib, if it makes one. -/
def request (k : Conversions φ ψ) (c : Sending) (chatId : ChatId) : BotOperation → TdRequest ψ
  | .sendMessage text replyTo parseMode options => .sendMessage
    { chatId
      messageThreadId := options.messageThreadId.getD 0
      replyToMessageId := replyTo.getD 0
      options := some (convertSendOptions options)
      replyMarkup := none
      inputMessageContent := .text (k.parseText text (c.effective parseMode)) }
  | .sendMessageWithMarkup text replyTo markup parseMode options => .sendMessage
    { chatId
      messageThreadId := options.messageThreadId.getD 0
      replyToMessageId := replyTo.getD 0
      options := some (convertSendOptions options)
      replyMarkup := some (buildReplyMarkup markup)
      inputMessageContent := .text (k.parseText text (c.effective parseMode)) }
  | .sendRichMessage richMsg options => .sendMessage
    { chatId
      messageThreadId := options.messageThreadId.getD 0
      replyToMessageId := options.replyTo.getD 0
      options := some (convertSendOptions
        { disableNotification := options.disableNotification
          protectContent := options.protectContent
          messageThreadId := options.messageThreadId })
      replyMarkup := (renderRichMessageTdlib k richMsg options).2
      inputMessageContent := .text (renderRichMessageTdlib k richMsg options).1 }
  | .editMessage msgId text parseMode =>
    .editMessageText chatId msgId none (k.parseText text (c.effective parseMode))
  | .editRichMessage msgId richMsg options =>
    .editMessageText chatId msgId (renderRichMessageTdlib k richMsg options).2
      (renderRichMessageTdlib k richMsg options).1

/-- Without a bot token an operation makes one request, to TDLib. -/
lemma calls_tokenless (w : World ψ) (k : Conversions φ ψ) (c : Sending) (chatId : ChatId)
    (op : BotOperation) :
    (op.run w k (tokenless c) chatId).calls = [.sendSync (op.request k c chatId)] := by
  cases op with
  | sendMessage =>
    simp only [run, World.sendMessage, usesBotApi_tokenless, Bool.false_eq_true, if_false]
    rfl
  | sendMessageWithMarkup =>
    simp only [run, World.sendMessageWithMarkup, usesBotApi_tokenless, Bool.false_eq_true, if_false]
    rfl
  | sendRichMessage =>
    simp only [run, World.sendRichMessage, botToken_tokenless, ne_eq, not_true_eq_false, if_false]
    rfl
  | editMessage =>
    simp only [run, World.editMessage, usesBotApi_tokenless, Bool.false_eq_true, if_false]
    rfl
  | editRichMessage =>
    simp only [run, World.editRichMessage, botToken_tokenless, ne_eq, not_true_eq_false, if_false]
    rfl

/-- A sending through the Bot API or TDLib, as the caller gets it. -/
lemma sent_viaBotApi (w : World ψ) (url payload : Text) (f : Text → Except StollFault SentMessage)
    (tdLib : Done ψ SentMessage) :
    sent (w.viaBotApi url payload f tdLib) =
      w.viaBotApi url payload (fun resp => (f resp).map some) (sent tdLib) := by
  simp only [sent, World.viaBotApi]
  split_ifs
  · cases f (w.httpPostJson url payload) <;> rfl
  · rfl

/-- An edit through the Bot API or TDLib, as the caller gets it. -/
lemma edited_viaBotApi (w : World ψ) (url payload : Text) (f : Text → Except StollFault Unit)
    (tdLib : Done ψ Unit) :
    edited (w.viaBotApi url payload f tdLib) =
      w.viaBotApi url payload (fun resp => (f resp).map fun _ => none) (edited tdLib) := by
  simp only [edited, World.viaBotApi]
  split_ifs
  · cases f (w.httpPostJson url payload) <;> rfl
  · rfl

/-- The message that is made of an answer has its id, and otherwise what the call had. -/
lemma map_httpMessage (w : World ψ) (chatId : ChatId) (text : Text) (rich : Option RichMessage)
    (resp : Text) :
    (w.httpMessage chatId text rich resp).map some = do
      let id ← httpMessageId resp
      return some {
        message := { id, chatId, text, date := w.now, client := some w.self }
        richMessage := rich } := by
  rw [World.httpMessage]
  cases httpMessageId resp <;> rfl

/-- An operation posts its payload, and goes on like one of a client without a bot token. -/
lemma run_posted (w : World ψ) (k : Conversions φ ψ) (c : Sending) (chatId : ChatId)
    (op : BotOperation) {url payload : Text} (posts : op.posted c chatId = some (url, payload)) :
    op.run w k c chatId =
      w.viaBotApi url payload (fun resp => op.replied w chatId (httpMessageId resp))
        (op.run w k (tokenless c) chatId) := by
  cases op with
  | sendMessage text replyTo parseMode options =>
    obtain ⟨uses, same⟩ := Option.ite_none_right_eq_some.mp posts
    cases same
    simp only [run, World.sendMessage, uses, if_true, usesBotApi_tokenless, effective_tokenless,
      Bool.false_eq_true, if_false, sent_viaBotApi, map_httpMessage]
    rfl
  | sendMessageWithMarkup text replyTo markup parseMode options =>
    obtain ⟨uses, same⟩ := Option.ite_none_right_eq_some.mp posts
    cases same
    simp only [run, World.sendMessageWithMarkup, uses, if_true, usesBotApi_tokenless,
      effective_tokenless, Bool.false_eq_true, if_false, sent_viaBotApi, map_httpMessage]
    rfl
  | sendRichMessage richMsg options =>
    obtain ⟨uses, same⟩ := Option.ite_none_right_eq_some.mp posts
    cases same
    simp only [run, World.sendRichMessage, uses, if_true, botToken_tokenless, ne_eq,
      not_true_eq_false, not_false_eq_true, if_false, sent_viaBotApi, map_httpMessage]
    rfl
  | editMessage msgId text parseMode =>
    obtain ⟨uses, same⟩ := Option.ite_none_right_eq_some.mp posts
    cases same
    simp only [run, World.editMessage, uses, if_true, usesBotApi_tokenless, effective_tokenless,
      Bool.false_eq_true, if_false, edited_viaBotApi]
    rfl
  | editRichMessage msgId richMsg options =>
    obtain ⟨uses, same⟩ := Option.ite_none_right_eq_some.mp posts
    cases same
    simp only [run, World.editRichMessage, uses, if_true, botToken_tokenless, ne_eq,
      not_true_eq_false, not_false_eq_true, if_false, edited_viaBotApi]
    rfl

/-- An operation that posts nothing is one of a client without a bot token. -/
lemma run_unposted (w : World ψ) (k : Conversions φ ψ) (c : Sending) (chatId : ChatId)
    (op : BotOperation) (silent : op.posted c chatId = none) :
    op.run w k c chatId = op.run w k (tokenless c) chatId := by
  have never {uses : Prop} [Decidable uses] {post : Text × Text}
      (none : (if uses then some post else none) = none) : ¬ uses :=
    fun used => Option.some_ne_none _ (ite_eq_right_iff.mp none used)
  cases op with
  | sendMessage =>
    simp only [run, World.sendMessage, if_neg (never silent), usesBotApi_tokenless,
      effective_tokenless, Bool.false_eq_true, if_false]
  | sendMessageWithMarkup =>
    simp only [run, World.sendMessageWithMarkup, if_neg (never silent), usesBotApi_tokenless,
      effective_tokenless, Bool.false_eq_true, if_false]
  | sendRichMessage =>
    simp only [run, World.sendRichMessage, if_neg (never silent), botToken_tokenless, ne_eq,
      not_true_eq_false, if_false]
  | editMessage =>
    simp only [run, World.editMessage, if_neg (never silent), usesBotApi_tokenless,
      effective_tokenless, Bool.false_eq_true, if_false]
  | editRichMessage =>
    simp only [run, World.editRichMessage, if_neg (never silent), botToken_tokenless, ne_eq,
      not_true_eq_false, if_false]

/-- An operation that goes through the Bot API, with an answer that is a document without blanks and
    with plain names of members. If some member `ok` of it is true, one request was made, and the
    operation is over with the id that the first member `message_id` gives; otherwise it goes on with
    the one request to TDLib, and the result, that it has for a client without a bot token. What stands
    in the strings of the answer makes no difference. -/
theorem run_answered (w : World ψ) (k : Conversions φ ψ) (c : Sending) (chatId : ChatId)
    (op : BotOperation) {url payload : Text} (posts : op.posted c chatId = some (url, payload))
    {d : Doc} (wf : d.WellFormed) (answer : w.httpPostJson url payload = d.text) :
    (Succeeded d → op.run w k c chatId =
      { result := (op.replied w chatId (replyId d)).mapError .stoll
        calls := [.httpPostJson url payload] }) ∧
    (¬ Succeeded d → op.run w k c chatId =
        { result := (op.run w k (tokenless c) chatId).result
          calls := [.httpPostJson url payload, .sendSync (op.request k c chatId)] } ∧
      (op.run w k (tokenless c) chatId).calls = [.sendSync (op.request k c chatId)]) := by
  rw [run_posted w k c chatId op posts, World.viaBotApi, answer]
  constructor
  · intro succeeded
    rw [if_pos ((httpOk_text wf).mpr succeeded), httpMessageId_text wf]
  · intro failed
    have alone := calls_tokenless w k c chatId op
    refine ⟨?_, alone⟩
    rw [if_neg fun ok => failed ((httpOk_text wf).mp ok), alone]

/-- A refusal that quotes a success. -/
def refusal : Doc :=
  .object [(ascii "ok", .bool false),
    (ascii "description", .string (escapeJsonString (ascii "\"ok\":true")))]

/-- The refusal is a document of the grammar. -/
lemma refusal_wellFormed : refusal.WellFormed := by
  refine .object (by decide +kernel) ?_
  simp only [List.forall_mem_cons]
  refine ⟨.bool _, .string (Chars.flatMap spelling_escapeJsonChar _), ?_⟩
  exact fun _ inside => absurd inside List.not_mem_nil

/-- The world in which the Bot API refuses everything like this. -/
def refusing : World Unit where
  httpPostJson _ _ := refusal.text
  sendSync _ := .object none
  now := 0
  lookupChatType _ := .Unknown
  self := 0

/-- A refused message goes to TDLib with the request of a client without a bot token. -/
theorem run_answered_refused :
    let k : Conversions Unit Unit := ⟨fun _ _ => (), fun _ => .ok ()⟩
    let c : Sending := { botToken := [48] }
    ∃ url payload request,
      (run refusing k c 7 (.sendMessage [] none .HTML {})).calls =
        [.httpPostJson url payload, .sendSync request] ∧
      (run refusing k (tokenless c) 7 (.sendMessage [] none .HTML {})).calls = [.sendSync request] := by
  intro k c
  have failed : ¬ Succeeded refusal := by
    simp [Succeeded, refusal, Doc.members, Doc.memberMembers, show ascii "ok" ≠ ascii "description" by
      decide]
  obtain ⟨done, alone⟩ := (run_answered refusing k c 7 (.sendMessage [] none .HTML {}) rfl
    refusal_wellFormed rfl).2 failed
  exact ⟨_, _, _, congrArg Done.calls done, alone⟩

/-! ## Payloads -/

/-- The value that an operation posts. -/
def postedValue (c : Sending) (chatId : ChatId) : BotOperation → Json
  | .sendMessage text replyTo parseMode options =>
    .object (payloadMembers chatId text (parseModeName (c.effective parseMode)) replyTo options none)
  | .sendMessageWithMarkup text replyTo markup parseMode options =>
    .object (payloadMembers chatId text (parseModeName (c.effective parseMode)) replyTo options
      (replyMarkupValue markup))
  | .sendRichMessage richMsg _ =>
    .object [member "chat_id" (.number chatId.toInt),
      member "rich_message" (messageValue stringMember richMsg)]
  | .editMessage msgId text parseMode =>
    .object [member "chat_id" (.number chatId.toInt), member "message_id" (.number msgId.toInt),
      member "text" (.string text),
      member "parse_mode" (.string (parseModeName (c.effective parseMode)))]
  | .editRichMessage msgId richMsg _ =>
    .object [member "chat_id" (.number chatId.toInt), member "message_id" (.number msgId.toInt),
      member "rich_message" (messageValue stringMember richMsg)]

/-- The alignments of a rich message, which are written as they are, need no spelling. -/
def PlainAligns : BotOperation → Prop
  | .sendRichMessage richMsg _ | .editRichMessage _ richMsg _ => ∀ s ∈ richMsg.aligns, Plain s
  | .sendMessage .. | .sendMessageWithMarkup .. | .editMessage .. => True

/-- Rich messages with plain alignments are written as their values are printed. -/
lemma serialized (richMsg : InputRichMessage) (plain : ∀ s ∈ richMsg.aligns, Plain s) :
    serializeRichMessageJson richMsg =
      print escapeJsonChar (messageValue stringMember richMsg) :=
  serializeRichMessageJson_eq richMsg fun s inside => spelt_plain (plain s inside)

/-- What is posted is the JSON text of a value. -/
lemma posted_eq (c : Sending) (chatId : ChatId) (op : BotOperation) (plain : op.PlainAligns)
    {url payload : Text} (posts : op.posted c chatId = some (url, payload)) :
    payload = print escapeJsonChar (op.postedValue c chatId) := by
  cases op with
  | sendMessage text replyTo parseMode options =>
    obtain ⟨-, same⟩ := Option.ite_none_right_eq_some.mp posts
    cases same
    exact botApiPayload_eq chatId text _ replyTo options none
  | sendMessageWithMarkup text replyTo markup parseMode options =>
    obtain ⟨-, same⟩ := Option.ite_none_right_eq_some.mp posts
    cases same
    rw [replyMarkupToJson_eq]
    exact botApiPayload_eq chatId text _ replyTo options (replyMarkupValue markup)
  | sendRichMessage richMsg options =>
    obtain ⟨-, same⟩ := Option.ite_none_right_eq_some.mp posts
    cases same
    rw [Sending.richMessagePayload, serialized richMsg plain, postedValue, member, member,
      print_object_cons, following_singleton, print]
    simp only [List.append_assoc, List.cons_append]
    rfl
  | editMessage msgId text parseMode =>
    obtain ⟨-, same⟩ := Option.ite_none_right_eq_some.mp posts
    cases same
    simp only [World.editPayload, postedValue, member, print_object_cons, following_cons,
      following_nil, print, quoted, parseModeName_escape, escapeJsonString, List.append_assoc,
      List.cons_append, List.nil_append]
    rfl
  | editRichMessage msgId richMsg options =>
    obtain ⟨-, same⟩ := Option.ite_none_right_eq_some.mp posts
    cases same
    rw [World.editRichPayload, serialized richMsg plain]
    simp only [postedValue, member, print_object_cons, following_cons, following_nil]
    rw [print, print]
    simp only [List.append_assoc, List.cons_append, List.nil_append]
    rfl

/-- What is posted is the JSON text of a value, and is read back as that value: no text, button or cell
    makes it something else. -/
theorem read_posted (c : Sending) (chatId : ChatId) (op : BotOperation) (plain : op.PlainAligns)
    {url payload : Text} (posts : op.posted c chatId = some (url, payload)) :
    read payload = some (op.postedValue c chatId) := by
  rw [posted_eq c chatId op plain posts]
  exact read_print spells_escapeJsonChar _

/-- An edit with a quote and a backslash in its text. -/
theorem read_posted_edit :
    read (World.editPayload 7 9 (ascii "\"\\") .HTML) =
      some (postedValue { botToken := [48] } 7 (.editMessage 9 (ascii "\"\\") .HTML)) :=
  read_posted { botToken := [48] } 7 (.editMessage 9 (ascii "\"\\") .HTML) trivial rfl

end BotOperation

end CppGram.Backend
