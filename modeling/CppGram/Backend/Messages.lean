import CppGram.Backend.Entities
import CppGram.Backend.Media
import CppGram.Backend.ReceivedMarkup

/-!
# Messages

The `Message` of C++ `message.hpp`, and the two functions that make one of what TDLib says:
`convert_message`, for a message, and `ClientImpl::process_update` on an `updateMessageContent`, for a
message that was edited. Both classify the content and extract its attachments alike, but the second does
not convert the entities of a text. So they agree on a content unless it is a text with entities
(`edited_alike_iff`). What both attach is of the media type that they give (`attached_media`).

The fields of a message that none of these functions writes are left out.
-/

namespace CppGram.Backend

/-- C++ `struct ForwardInfo`. -/
structure ForwardInfo where
  originSenderId : UserId := 0
  originChatId : ChatId := 0
  originMessageId : MessageId := 0
  originSenderName : Text := []
  originDate : Timestamp := 0
  deriving DecidableEq, Repr

/-- C++ `class Message`. -/
structure Message where
  id : MessageId := 0
  chatId : ChatId := 0
  chatType : ChatType := .Unknown
  text : Text := []
  caption : Text := []
  sender : User := {}
  date : Timestamp := 0
  outgoing : Bool := false
  media : MediaType := .None
  replyTo : Option MessageId := none
  messageThreadId : Option Int64 := none
  forwardInfo : Option ForwardInfo := none
  scheduleDate : Option Timestamp := none
  entities : List MessageEntity := []
  photo : Option Photo := none
  video : Option VideoInfo := none
  document : Option DocumentInfo := none
  audio : Option AudioInfo := none
  voiceNote : Option VoiceNoteInfo := none
  videoNote : Option VideoNoteInfo := none
  animation : Option AnimationInfo := none
  sticker : Option StickerInfo := none
  poll : Option Poll := none
  location : Option Location := none
  contact : Option Contact := none
  venue : Option Venue := none
  dice : Option Dice := none
  replyMarkup : Option InlineKeyboard := none
  client : BackendPtr := none
  deriving DecidableEq

/-! ## TDLib objects -/

namespace TdApi

/-- `td_api::MessageSchedulingState`. -/
inductive MessageSchedulingState where
  | sendAtDate (sendDate : Int32)
  | other
  deriving DecidableEq, Repr

/-- `td_api::MessageSender`. -/
inductive MessageSender where
  | user (userId : Int64)
  | other
  deriving DecidableEq, Repr

/-- `td_api::MessageForwardOrigin`. -/
inductive MessageForwardOrigin where
  | user (senderUserId : Int64)
  | chat (senderChatId : Int64) (authorSignature : Text)
  | channel (chatId messageId : Int64) (authorSignature : Text)
  | hiddenUser (senderName : Text)
  | other
  deriving DecidableEq, Repr

/-- `td_api::messageForwardInfo`. -/
structure MessageForwardInfo where
  origin : Option MessageForwardOrigin
  date : Int32
  deriving DecidableEq, Repr

/-- `td_api::message`. -/
structure Message where
  id : Int64 := 0
  senderId : Option MessageSender := none
  chatId : Int64 := 0
  schedulingState : Option MessageSchedulingState := none
  isOutgoing : Bool := false
  date : Int32 := 0
  forwardInfo : Option MessageForwardInfo := none
  replyToMessageId : Int64 := 0
  messageThreadId : Int64 := 0
  content : Option MessageContent := none
  replyMarkup : Option ReplyMarkup := none
  deriving DecidableEq

/-- `td_api::updateMessageContent`. -/
structure UpdateMessageContent where
  chatId : Int64 := 0
  messageId : Int64 := 0
  newContent : Option MessageContent := none
  deriving DecidableEq

end TdApi

/-! ## Conversions -/

/-- `std::chrono::system_clock::from_time_t`. -/
def fromTimeT (t : Int32) : Timestamp := t.toInt64 * 1000000000

namespace Message

/-- `if (caption) out.caption = caption->text_`. -/
def setCaption (out : Message) (caption : Option TdApi.FormattedText) : Message :=
  { out with caption := (caption.map (·.text)).getD out.caption }

/-- `extract_media`. What is null leaves the field of the message as it is. -/
def extractMedia (out : Message) : TdApi.MessageContent → Message
  | .messagePhoto photo caption =>
    { out with photo := (photo.bind extractPhoto).or out.photo }.setCaption caption
  | .messageVideo video caption =>
    { out with video := (video.map extractVideo).or out.video }.setCaption caption
  | .messageDocument document caption =>
    { out with document := (document.map extractDocument).or out.document }.setCaption caption
  | .messageAudio audio caption =>
    { out with audio := (audio.map extractAudio).or out.audio }.setCaption caption
  | .messageVoiceNote voiceNote caption =>
    { out with voiceNote := (voiceNote.map extractVoiceNote).or out.voiceNote }.setCaption caption
  | .messageVideoNote videoNote =>
    { out with videoNote := (videoNote.map extractVideoNote).or out.videoNote }
  | .messageAnimation animation caption =>
    { out with animation := (animation.map extractAnimation).or out.animation }.setCaption caption
  | .messageSticker sticker => { out with sticker := (sticker.map extractSticker).or out.sticker }
  | .messagePoll poll => { out with poll := (poll.map extractPoll).or out.poll }
  | .messageLocation location livePeriod heading proximityAlertRadius =>
    { out with
      location :=
        (location.map (extractLocation · livePeriod heading proximityAlertRadius)).or out.location }
  | .messageContact contact => { out with contact := (contact.map extractContact).or out.contact }
  | .messageVenue venue => { out with venue := (venue.map extractVenue).or out.venue }
  | .messageDice emoji value => { out with dice := some { emoji := emoji, value := value } }
  | .messageText _ | .other => out

end Message

/-- `convert_message` on the forward info of a message, which is left out without an origin. -/
def convertForwardInfo (info : TdApi.MessageForwardInfo) : Option ForwardInfo :=
  let fi : ForwardInfo := { originDate := fromTimeT info.date }
  info.origin.map fun
    | .user senderUserId => { fi with originSenderId := senderUserId }
    | .chat senderChatId authorSignature =>
      { fi with originChatId := senderChatId, originSenderName := authorSignature }
    | .channel chatId messageId authorSignature =>
      { fi with
        originChatId := chatId
        originMessageId := messageId
        originSenderName := authorSignature }
    | .hiddenUser senderName => { fi with originSenderName := senderName }
    | .other => fi

/-- `convert_message` on the content of a message. -/
def convertContent (out : Message) (content : TdApi.MessageContent) : Message :=
  let out :=
    match content with
    | .messageText (some text) =>
      { out with text := text.text, entities := convertEntities text.entities }
    | _ => out
  { out with media := classifyMedia content }.extractMedia content

/-- `ClientImpl::process_update` on the content of an edited message. -/
def editContent (out : Message) (content : TdApi.MessageContent) : Message :=
  let out := { out with media := classifyMedia content }
  let out :=
    match content with
    | .messageText (some text) => { out with text := text.text }
    | _ => out
  out.extractMedia content

/-- `convert_message` on what does not depend on the content. -/
def convertHeader (m : TdApi.Message) (chatType : ChatType) : Message where
  id := m.id
  chatId := m.chatId
  chatType := chatType
  outgoing := m.isOutgoing
  date := fromTimeT m.date
  scheduleDate :=
    match m.schedulingState with
    | some (.sendAtDate sendDate) => some (fromTimeT sendDate)
    | some .other | none => none

/-- `convert_message`. -/
def convertMessage (m : TdApi.Message) (chatType : ChatType := .Unknown)
    (backend : BackendPtr := none) : Message :=
  let out := convertHeader m chatType
  let out :=
    match m.content with
    | some content => convertContent out content
    | none => out
  { out with
    replyMarkup := convertReplyMarkup m.replyMarkup
    replyTo := if m.replyToMessageId ≠ 0 then some m.replyToMessageId else none
    messageThreadId := if m.messageThreadId ≠ 0 then some m.messageThreadId else none
    sender :=
      match m.senderId with
      | some (.user userId) => { id := userId }
      | some .other | none => {}
    forwardInfo := m.forwardInfo.bind convertForwardInfo
    client := backend }

namespace Caches

variable (self : Nat)

/-- `ClientImpl::lookup_chat_type`. -/
def lookupChatType (c : Caches) (chatId : ChatId) : ChatType :=
  ((Tables.find Prod.fst c.chatTypeCache chatId).map Prod.snd).getD .Unknown

/-- `ClientImpl::enrich_sender`. -/
def enrichSender (c : Caches) (msg : Message) : Message :=
  match c.findUser msg.sender.id with
  | some user => { msg with sender := { user with client := some self } }
  | none => msg

/-- The message that `ClientImpl::process_update` dispatches on an `updateNewMessage`, if any. -/
def updateNewMessage (c : Caches) (message : Option TdApi.Message) : Option Message :=
  message.map fun m =>
    c.enrichSender self (convertMessage m (c.lookupChatType m.chatId) (some self))

/-- The message that `ClientImpl::process_update` dispatches on an `updateMessageContent`. -/
def updateMessageContent (c : Caches) (upd : TdApi.UpdateMessageContent) : Message :=
  let msg : Message :=
    { id := upd.messageId, chatId := upd.chatId, chatType := c.lookupChatType upd.chatId }
  let msg :=
    match upd.newContent with
    | some content => editContent msg content
    | none => msg
  { msg with client := some self }

end Caches

/-! ## Messages with the same content -/

/-- Two messages have the same text, media type and attachments. -/
structure SameContent (a b : Message) : Prop where
  text : a.text = b.text
  entities : a.entities = b.entities
  caption : a.caption = b.caption
  media : a.media = b.media
  photo : a.photo = b.photo
  video : a.video = b.video
  document : a.document = b.document
  audio : a.audio = b.audio
  voiceNote : a.voiceNote = b.voiceNote
  videoNote : a.videoNote = b.videoNote
  animation : a.animation = b.animation
  sticker : a.sticker = b.sticker
  poll : a.poll = b.poll
  location : a.location = b.location
  contact : a.contact = b.contact
  venue : a.venue = b.venue
  dice : a.dice = b.dice

namespace SameContent

variable {a b : Message}

lemma refl (a : Message) : SameContent a a := by
  constructor <;> rfl

lemma symm (alike : SameContent a b) : SameContent b a := by
  cases alike
  constructor <;> apply Eq.symm <;> assumption

/-- Two messages with the content of a third one. -/
lemma trans {d : Message} (ab : SameContent a b) (bd : SameContent b d) : SameContent a d := by
  cases ab
  cases bd
  constructor <;> apply Eq.trans <;> assumption

lemma classified (alike : SameContent a b) (media : MediaType) :
    SameContent { a with media := media } { b with media := media } :=
  { alike with media := rfl }

/-- Captions and attachments are extracted alike from messages that are alike. -/
lemma extractMedia (alike : SameContent a b) (content : TdApi.MessageContent) :
    SameContent (a.extractMedia content) (b.extractMedia content) := by
  have kept {α : Type} {x y : Option α} (set : Option α) (same : x = y) : set.or x = set.or y :=
    congrArg set.or same
  have caption (set : Option TdApi.FormattedText) :
      (set.map (·.text)).getD a.caption = (set.map (·.text)).getD b.caption :=
    congrArg _ alike.caption
  cases content with
  | messagePhoto _ c => exact { alike with photo := kept _ alike.photo, caption := caption c }
  | messageVideo _ c => exact { alike with video := kept _ alike.video, caption := caption c }
  | messageDocument _ c =>
    exact { alike with document := kept _ alike.document, caption := caption c }
  | messageAudio _ c => exact { alike with audio := kept _ alike.audio, caption := caption c }
  | messageVoiceNote _ c =>
    exact { alike with voiceNote := kept _ alike.voiceNote, caption := caption c }
  | messageVideoNote => exact { alike with videoNote := kept _ alike.videoNote }
  | messageAnimation _ c =>
    exact { alike with animation := kept _ alike.animation, caption := caption c }
  | messageSticker => exact { alike with sticker := kept _ alike.sticker }
  | messagePoll => exact { alike with poll := kept _ alike.poll }
  | messageLocation => exact { alike with location := kept _ alike.location }
  | messageContact => exact { alike with contact := kept _ alike.contact }
  | messageVenue => exact { alike with venue := kept _ alike.venue }
  | messageDice => exact { alike with dice := rfl }
  | messageText | other => exact alike

end SameContent

/-- A text with an entity that is there and has a type. -/
def Formatted : Option TdApi.MessageContent → Prop
  | some (.messageText (some text)) => ∃ entity, some entity ∈ text.entities ∧ entity.type ≠ none
  | _ => False

/-- No entities are converted where none is there that has a type. -/
lemma convertEntities_eq_nil {entities : List (Option TdApi.TextEntity)} :
    convertEntities entities = [] ↔
      ¬ ∃ entity, some entity ∈ entities ∧ entity.type ≠ none := by
  rw [convertEntities, List.filterMap_eq_nil_iff]
  constructor
  · rintro nothing ⟨⟨offset, length, type⟩, inside, typed⟩
    obtain ⟨type, rfl⟩ := Option.ne_none_iff_exists'.mp typed
    cases nothing _ inside
  · intro untyped e inside
    rcases e with _ | ⟨offset, length, _ | type⟩
    · rfl
    · rfl
    · exact absurd ⟨_, inside, Option.some_ne_none _⟩ untyped

/-- A content is converted and edited alike, unless it is a text with entities. -/
lemma editContent_alike_iff {a b : Message} (alike : SameContent a b) (plain : a.entities = [])
    (content : TdApi.MessageContent) :
    SameContent (editContent a content) (convertContent b content) ↔ ¬ Formatted (some content) := by
  have extracted := (alike.classified (classifyMedia content)).extractMedia content
  cases content with
  | messageText text =>
    cases text with
    | none => exact iff_of_true extracted not_false
    | some text =>
      have entities : SameContent (editContent a (.messageText (some text)))
          (convertContent b (.messageText (some text))) ↔ convertEntities text.entities = [] :=
        ⟨fun same => same.entities.symm.trans plain, fun nothing =>
          { alike with text := rfl, media := rfl, entities := plain.trans nothing.symm }⟩
      exact entities.trans convertEntities_eq_nil
  | _ => exact iff_of_true extracted not_false

section

variable (c : Caches) (self : Nat) (upd : TdApi.UpdateMessageContent) (m : TdApi.Message)
  (content : Option TdApi.MessageContent)

lemma enrichSender_alike (msg : Message) : SameContent (c.enrichSender self msg) msg := by
  rw [Caches.enrichSender]
  split <;> constructor <;> rfl

/-- The content of an edited message. -/
lemma updateMessageContent_content (content : TdApi.MessageContent) :
    SameContent (c.updateMessageContent self { upd with newContent := some content })
      (editContent { id := upd.messageId, chatId := upd.chatId,
                     chatType := c.lookupChatType upd.chatId } content) := by
  simp only [Caches.updateMessageContent]
  constructor <;> rfl

/-- The content of a message. -/
lemma convertMessage_content (content : TdApi.MessageContent) (chatType : ChatType)
    (backend : BackendPtr) :
    SameContent (convertMessage { m with content := some content } chatType backend)
      (convertContent (convertHeader m chatType) content) := by
  simp only [convertMessage]
  constructor <;> rfl

/-- An edited message is like any that is like the message with the same content, unless that is a text
    with entities. -/
lemma updateMessageContent_alike_iff {msg : Message} {chatType : ChatType} {backend : BackendPtr}
    (received : SameContent (convertMessage { m with content := content } chatType backend) msg) :
    SameContent (c.updateMessageContent self { upd with newContent := content }) msg ↔
      ¬ Formatted content := by
  cases content with
  | none =>
    have empty : SameContent (c.updateMessageContent self { upd with newContent := none })
        (convertMessage { m with content := none } chatType backend) := by
      constructor <;> rfl
    exact iff_of_true (empty.trans received) not_false
  | some content =>
    have edited := updateMessageContent_content c self upd content
    have converted := (convertMessage_content m content chatType backend).symm.trans received
    have start : SameContent
        { id := upd.messageId, chatId := upd.chatId, chatType := c.lookupChatType upd.chatId }
        (convertHeader m chatType) := by
      constructor <;> rfl
    rw [← editContent_alike_iff start rfl content]
    constructor
    · intro same
      exact (edited.symm.trans same).trans converted.symm
    · intro same
      exact (edited.trans same).trans converted

/-- The messages that are made of a new and an edited one are alike, unless their content is a text with
    entities. -/
theorem edited_alike_iff (chatType : ChatType) (backend : BackendPtr) :
    SameContent (c.updateMessageContent self { upd with newContent := content })
        (convertMessage { m with content := content } chatType backend) ↔
      ¬ Formatted content :=
  updateMessageContent_alike_iff c self upd m content (.refl _)

/-- So are the messages that are dispatched, with whatever is known of their senders and chats. -/
theorem updateNewMessage_alike_iff (c' : Caches) {msg : Message}
    (dispatched : c'.updateNewMessage self (some { m with content := content }) = some msg) :
    SameContent (c.updateMessageContent self { upd with newContent := content }) msg ↔
      ¬ Formatted content := by
  cases dispatched
  exact updateMessageContent_alike_iff c self upd m content (enrichSender_alike c' self _).symm

end

/-- The entities of a text are lost when it is edited. -/
theorem not_alike_bold :
    ¬ ∀ (c : Caches) (self : Nat) (upd : TdApi.UpdateMessageContent) (m : TdApi.Message)
        (content : Option TdApi.MessageContent) (chatType : ChatType) (backend : BackendPtr),
      SameContent (c.updateMessageContent self { upd with newContent := content })
        (convertMessage { m with content := content } chatType backend) := by
  intro alike
  have text := alike {} 0 {} {} (some (.messageText (some
    { text := [97], entities := [some { offset := 0, length := 1, type := some .bold }] })))
    .Private none
  cases text.entities

/-! ## Attachments -/

namespace Message

/-- An attachment of a kind is there. -/
def attached (m : Message) : MediaType → Bool
  | .None => false
  | .Photo => m.photo.isSome
  | .Video => m.video.isSome
  | .Document => m.document.isSome
  | .Audio => m.audio.isSome
  | .Voice => m.voiceNote.isSome
  | .VideoNote => m.videoNote.isSome
  | .Animation => m.animation.isSome
  | .Sticker => m.sticker.isSome
  | .Poll => m.poll.isSome
  | .Location => m.location.isSome
  | .Contact => m.contact.isSome
  | .Venue => m.venue.isSome
  | .Dice => m.dice.isSome

variable {out : Message} {content : TdApi.MessageContent} {kind : MediaType}

/-- Nothing is attached to a message but what the media type of a content says. -/
lemma attached_extractMedia (here : (out.extractMedia content).attached kind) :
    out.attached kind ∨ kind = classifyMedia content := by
  by_cases same : kind = classifyMedia content
  · exact .inr same
  · left
    cases content with
    | messageText | other => exact here
    | _ => cases kind <;> first | exact here | exact absurd rfl same

lemma extractMedia_media : (out.extractMedia content).media = out.media := by
  cases content <;> rfl

end Message

section

variable {out : Message} {content : TdApi.MessageContent} {kind : MediaType}

/-- What a converted message has attached it had before, or is of the kind of the content. -/
lemma convertContent_attached (here : (convertContent out content).attached kind) :
    out.attached kind ∨ kind = classifyMedia content := by
  refine (Message.attached_extractMedia here).imp_left fun before => ?_
  cases content with
  | messageText text => cases text <;> cases kind <;> exact before
  | _ => cases kind <;> exact before

/-- What an edited message has attached it had before, or is of the kind of the content. -/
lemma editContent_attached (here : (editContent out content).attached kind) :
    out.attached kind ∨ kind = classifyMedia content := by
  refine (Message.attached_extractMedia here).imp_left fun before => ?_
  cases content with
  | messageText text => cases text <;> cases kind <;> exact before
  | _ => cases kind <;> exact before

/-- An edit sets the kind to that of the content. -/
lemma editContent_media : (editContent out content).media = classifyMedia content := by
  refine Message.extractMedia_media.trans ?_
  cases content with
  | messageText text => cases text <;> rfl
  | _ => rfl

lemma convertContent_media : (convertContent out content).media = classifyMedia content :=
  Message.extractMedia_media

/-- Messages with the same content have the same attached. -/
lemma SameContent.attached {a b : Message} (same : SameContent a b) :
    a.attached kind = b.attached kind := by
  cases same
  cases kind <;> first | rfl | exact congrArg Option.isSome (by assumption)

end

/-- Neither a message nor an edited one has an attachment that is not of its media type. -/
theorem attached_media (c : Caches) (self : Nat) (upd : TdApi.UpdateMessageContent)
    (m : TdApi.Message) (content : Option TdApi.MessageContent) (chatType : ChatType)
    (backend : BackendPtr) (kind : MediaType) :
    let new := convertMessage { m with content := content } chatType backend
    let edited := c.updateMessageContent self { upd with newContent := content }
    (new.attached kind → kind = new.media) ∧ (edited.attached kind → kind = edited.media) := by
  intro new edited
  cases content with
  | none =>
    constructor
    all_goals
      intro here
      cases kind <;> cases here
  | some content =>
    have new_content : SameContent new _ := convertMessage_content m content chatType backend
    have edited_content : SameContent edited _ := updateMessageContent_content c self upd content
    rw [new_content.attached, new_content.media, convertContent_media, edited_content.attached,
      edited_content.media, editContent_media]
    constructor
    · intro here
      refine (convertContent_attached here).resolve_left fun before => ?_
      cases kind <;> cases before
    · intro here
      refine (editContent_attached here).resolve_left fun before => ?_
      cases kind <;> cases before

end CppGram.Backend
