import CppGram.Backend.Sending

/-!
# Options of messages

What is asked of a send operation is that the request it issues first has the options of the caller
(`Survives`). The two builders of requests do not have the same options: the payload for the Bot API has
neither a date nor a thread, and what is sent by `sendPhoto` to `sendSticker` has no thread.
`survives_iff` says for which calls this makes no difference.
-/

namespace CppGram.Backend
open Json

variable {φ ψ : Type}

/-- A request has the options of the caller, as far as they are set. -/
def Carries (options : SendMessageOptions) : FirstRequest ψ → Prop
  | .botApi _ payload =>
    ∃ value, read payload = some value ∧
      (∀ t, options.scheduleDate = some t →
        value.get? (ascii "schedule_date") = some (.number (toTimeT t).toInt)) ∧
      (∀ id, options.messageThreadId = some id →
        value.get? (ascii "message_thread_id") = some (.number id.toInt)) ∧
      (options.disableNotification = true →
        value.get? (ascii "disable_notification") = some (.bool true))
  | .tdLib request =>
    ∃ set, request.options = some set ∧
      (∀ t, options.scheduleDate = some t →
        set.sendDate.map Int32.toInt = some (toTimeT t).toInt) ∧
      (∀ id, options.messageThreadId = some id → request.messageThreadId = id) ∧
      (options.disableNotification = true → set.disableNotification = true)

/-- The request that a call issues first has the options of the caller. -/
def Survives (k : Conversions φ ψ) (c : Sending) (chatId : ChatId) (replyTo : Option MessageId)
    (op : SendOperation φ) : Prop :=
  ∀ request, op.first k c chatId replyTo = .ok request → Carries op.options request

/-- A date, in seconds, fits the field of the request. -/
def InRange (t : Timestamp) : Prop :=
  -2 ^ 31 ≤ (toTimeT t).toInt ∧ (toTimeT t).toInt < 2 ^ 31

/-- If there is a date, it fits. -/
def Dated (options : SendMessageOptions) : Prop :=
  ∀ t, options.scheduleDate = some t → InRange t

/-- What a call must meet. -/
def Kept (k : Conversions φ ψ) (c : Sending) : SendOperation φ → Prop
  | .message _ pm options | .messageWithMarkup _ _ pm options =>
    if c.usesBotApi (c.effective pm) then
      options.scheduleDate = none ∧ options.messageThreadId = none
    else Dated options
  | .formattedMessage text _ options =>
    (∃ converted, k.convertFormattedText text = .ok converted) → Dated options
  | .scheduledMessage _ date =>
    c.usesBotApi (c.effective c.defaultParseMode) = false ∧ InRange date
  | .photo _ _ _ options | .video _ _ _ options _ _ _ | .document _ _ _ options
  | .audio _ _ _ options _ _ _ | .voiceNote _ _ _ options _ | .videoNote _ options _ _
  | .animation _ _ _ options _ _ _ | .sticker _ options =>
    Dated options ∧ options.messageThreadId.getD 0 = 0

/-! ## Requests to TDLib -/

/-- An `int32_t` holds just the numbers of its range. -/
lemma toInt32_toInt_iff (x : Int64) :
    x.toInt32.toInt = x.toInt ↔ -2 ^ 31 ≤ x.toInt ∧ x.toInt < 2 ^ 31 := by
  constructor
  · intro same
    exact same ▸ ⟨x.toInt32.le_toInt, x.toInt32.toInt_lt⟩
  · rintro ⟨low, high⟩
    rw [Int64.toInt_toInt32]
    exact Int.bmod_eq_of_le (by omega) (by omega)

/-- A request to TDLib has the options exactly if the date fits and the thread is handed over. -/
lemma carries_sendContent_iff {options : SendMessageOptions} {chatId : ChatId}
    {content : InputMessageContent ψ} {replyTo : Option MessageId}
    {markup : Option TdApi.ReplyMarkup} {thread : Int64} :
    Carries options
        (sendContent chatId content replyTo markup (some (convertSendOptions options)) thread) ↔
      Dated options ∧ ∀ id, options.messageThreadId = some id → thread = id := by
  have dates : (∀ t, options.scheduleDate = some t →
      (convertSendOptions options).sendDate.map Int32.toInt = some (toTimeT t).toInt) ↔
        Dated options := by
    refine forall_congr' fun t => forall_congr' fun given => ?_
    rw [convertSendOptions, given, Option.map_some, Option.map_some, Option.some.injEq, InRange]
    exact toInt32_toInt_iff _
  constructor
  · rintro ⟨set, this, date, threads, -⟩
    cases this
    exact ⟨dates.mp date, threads⟩
  · rintro ⟨dated, threads⟩
    exact ⟨_, rfl, dates.mpr dated, threads, id⟩

/-! ## Payloads for the Bot API -/

/-- The members of a payload. -/
def payloadMembers (chatId : ChatId) (text parseModeName : Text) (replyTo : Option MessageId)
    (options : SendMessageOptions) (markup : Option Json) : List (List UInt8 × Json) :=
  member "chat_id" (.number chatId.toInt) ::
    ([member "text" (.string text), member "parse_mode" (.string parseModeName)] ++
      (replyTo.toList.map fun id =>
        member "reply_parameters" (.object [member "message_id" (.number id.toInt)])) ++
      (if options.disableNotification then [member "disable_notification" (.bool true)] else []) ++
      (if options.protectContent then [member "protect_content" (.bool true)] else []) ++
      markup.toList.map (member "reply_markup"))

/-- The name of a parse mode that the Bot API knows. -/
def parseModeName (parseMode : ParseMode) : Text :=
  if parseMode = .HTML then ascii "HTML"
  else if parseMode = .Markdown then ascii "Markdown" else ascii "MarkdownV2"

/-- The name of a parse mode is spelt as it is. -/
lemma parseModeName_escape (parseMode : ParseMode) :
    (parseModeName parseMode).flatMap escapeJsonChar = parseModeName parseMode := by
  cases parseMode <;> rfl

/-- The part that every payload begins with. -/
lemma payload_front (chatId : ChatId) (text : Text) (parseMode : ParseMode) :
    ascii "\x7b\"chat_id\":" ++ printInt chatId.toInt ++
        ascii ",\"text\":\"" ++ escapeJsonString text ++ ascii "\"" ++
        ascii ",\"parse_mode\":\"" ++ parseModeName parseMode ++ ascii "\"" =
      123 :: (quoted escapeJsonChar (ascii "chat_id") ++ 58 ::
        print escapeJsonChar (.number chatId.toInt) ++ following escapeJsonChar
          [member "text" (.string text),
            member "parse_mode" (.string (parseModeName parseMode))]) := by
  simp only [following, printMembers, member, print, quoted, parseModeName_escape, escapeJsonString,
    List.flatMap_cons, List.flatMap_nil, List.append_assoc, List.cons_append, List.nil_append]
  rfl

/-- The text of the message replied to is that of a member. -/
lemma payload_reply (id : MessageId) :
    ascii ",\"reply_parameters\":\x7b\"message_id\":" ++ printInt id.toInt ++ ascii "\x7d" =
      following escapeJsonChar
        [member "reply_parameters" (.object [member "message_id" (.number id.toInt)])] := by
  rw [member, member, following_singleton, print_object_cons, following_nil, print]
  simp only [List.append_assoc, List.cons_append, List.nil_append]
  rfl

/-- The text of the markup is that of a member, if there is one. -/
lemma payload_markup (markup : Option Json) (front : Text) :
    (if (markup.map (print escapeJsonChar)).getD [] ≠ [] then
        front ++ (ascii ",\"reply_markup\":" ++ (markup.map (print escapeJsonChar)).getD [])
      else front) =
      front ++ following escapeJsonChar (markup.toList.map (member "reply_markup")) := by
  cases markup with
  | none =>
    rw [Option.toList_none, List.map_nil, following_nil, List.append_nil]
    rfl
  | some value =>
    rw [Option.map_some, Option.getD_some, if_pos (print_ne_nil _ value), Option.toList_some,
      List.map_cons, List.map_nil, member, following_singleton]
    rfl

/-- A payload is the text of its members, since each part that is appended to it is the text of one. -/
lemma botApiPayload_eq (chatId : ChatId) (text : Text) (parseMode : ParseMode)
    (replyTo : Option MessageId) (options : SendMessageOptions) (markup : Option Json) :
    botApiPayload chatId text parseMode replyTo options
        ((markup.map (print escapeJsonChar)).getD []) =
      print escapeJsonChar (.object
        (payloadMembers chatId text (parseModeName parseMode) replyTo options markup)) := by
  have silent : ascii ",\"disable_notification\":true" =
      following escapeJsonChar [member "disable_notification" (.bool true)] := following_flag rfl
  have guarded : ascii ",\"protect_content\":true" =
      following escapeJsonChar [member "protect_content" (.bool true)] := following_flag rfl
  have front := payload_front chatId text parseMode
  unfold parseModeName at front
  rw [payloadMembers, member, print_object_cons, botApiPayload.eq_def]
  cases replyTo with
  | none =>
    simp only [front, payload_markup, following_ite _ silent, following_ite _ guarded,
      following_append, Option.toList_none, List.map_nil, List.append_nil]
    simp only [List.append_assoc, List.cons_append]
    rfl
  | some id =>
    simp only [front, payload_reply, payload_markup, following_ite _ silent, following_ite _ guarded,
      following_append, Option.toList_some, List.map_cons, List.map_nil]
    simp only [List.append_assoc, List.cons_append]
    rfl

/-- The names that members of a payload can have. -/
def payloadNames : List (List UInt8) :=
  [ascii "chat_id", ascii "text", ascii "parse_mode", ascii "reply_parameters",
    ascii "disable_notification", ascii "protect_content", ascii "reply_markup"]

/-- All members of a payload have one of the names. -/
lemma payloadMembers_names {chatId : ChatId} {text parseModeName : Text}
    {replyTo : Option MessageId} {options : SendMessageOptions} {markup : Option Json}
    {m : List UInt8 × Json}
    (inside : m ∈ payloadMembers chatId text parseModeName replyTo options markup) :
    m.1 ∈ payloadNames := by
  simp only [payloadMembers, member, List.mem_cons, List.mem_append, List.mem_map,
    List.mem_ite_nil_right, List.not_mem_nil, or_false] at inside
  obtain rfl | (((((rfl | rfl) | ⟨_, -, rfl⟩) | ⟨-, rfl⟩) | ⟨-, rfl⟩) | ⟨_, -, rfl⟩) := inside
  all_goals simp only [payloadNames, List.mem_cons, true_or, or_true]

/-- A payload has neither a date nor a thread. -/
lemma payloadMembers_get? (chatId : ChatId) (text parseModeName : Text) (replyTo : Option MessageId)
    (options : SendMessageOptions) (markup : Option Json) :
    let value : Json := .object (payloadMembers chatId text parseModeName replyTo options markup)
    value.get? (ascii "schedule_date") = none ∧
      value.get? (ascii "message_thread_id") = none ∧
      (options.disableNotification = true →
        value.get? (ascii "disable_notification") = some (.bool true)) := by
  have absent {key : List UInt8} (other : key ∉ payloadNames) :
      get? key (.object (payloadMembers chatId text parseModeName replyTo options markup)) = none := by
    refine List.lookup_eq_none_iff.mpr fun m inside => bne_iff_ne.mpr ?_
    rintro rfl
    exact other (payloadMembers_names inside)
  refine ⟨absent (by decide), absent (by decide), fun silent => ?_⟩
  rw [payloadMembers, silent]
  cases replyTo <;> rfl

/-- A payload has the options exactly if neither a date nor a thread is asked for. -/
lemma carries_botApi_iff {options : SendMessageOptions} {url : Text} {chatId : ChatId} {text : Text}
    {parseMode : ParseMode} {replyTo : Option MessageId} (markup : Option Json) :
    Carries (ψ := ψ) options (.botApi url (botApiPayload chatId text parseMode replyTo options
        ((markup.map (print escapeJsonChar)).getD []))) ↔
      options.scheduleDate = none ∧ options.messageThreadId = none := by
  obtain ⟨date, thread, silent⟩ :=
    payloadMembers_get? chatId text (parseModeName parseMode) replyTo options markup
  have whole := read_print spells_escapeJsonChar
    (.object (payloadMembers chatId text (parseModeName parseMode) replyTo options markup))
  rw [← botApiPayload_eq] at whole
  constructor
  · rintro ⟨value, this, dated, threaded, -⟩
    cases whole.symm.trans this
    refine ⟨Option.eq_none_iff_forall_ne_some.mpr fun t given => ?_,
      Option.eq_none_iff_forall_ne_some.mpr fun id given => ?_⟩
    · cases date.symm.trans (dated t given)
    · cases thread.symm.trans (threaded id given)
  · rintro ⟨undated, unthreaded⟩
    exact ⟨_, whole, fun t given => absurd (undated.symm.trans given) nofun,
      fun id given => absurd (unthreaded.symm.trans given) nofun, silent⟩

/-! ## Send operations -/

/-- `sendPhoto` to `sendSticker` send to the main thread. -/
lemma carries_sendMedia_iff {options : SendMessageOptions} {chatId : ChatId}
    {content : InputMessageContent ψ} {replyTo : Option MessageId} :
    Carries options (Sending.sendMedia chatId content replyTo options) ↔
      Dated options ∧ options.messageThreadId.getD 0 = 0 := by
  rw [Sending.sendMedia, carries_sendContent_iff]
  refine and_congr_right fun _ => ?_
  cases options.messageThreadId with
  | none => exact iff_of_true nofun rfl
  | some id =>
    rw [Option.getD_some]
    exact ⟨fun h => (h id rfl).symm, fun h id' same => h.symm.trans (Option.some.inj same)⟩

/-- The text operations that do not go through the Bot API send to the thread of the caller. -/
lemma carries_text_iff {options : SendMessageOptions} {chatId : ChatId}
    {content : InputMessageContent ψ} {replyTo : Option MessageId}
    {markup : Option TdApi.ReplyMarkup} :
    Carries options (sendContent chatId content replyTo markup (some (convertSendOptions options))
        (options.messageThreadId.getD 0)) ↔ Dated options := by
  rw [carries_sendContent_iff]
  refine and_iff_left fun id given => ?_
  rw [given, Option.getD_some]

/-- What `sendMessage` posts or sends has the options exactly under this condition. -/
lemma carries_message_iff {k : Conversions φ ψ} {c : Sending} {chatId : ChatId} {text : Text}
    {replyTo : Option MessageId} {parseMode : ParseMode} {options : SendMessageOptions} :
    Carries options (c.sendMessage k chatId text replyTo parseMode options) ↔
      if c.usesBotApi (c.effective parseMode) then
        options.scheduleDate = none ∧ options.messageThreadId = none
      else Dated options := by
  rw [Sending.sendMessage]
  split
  · exact carries_botApi_iff none
  · exact carries_text_iff

/-- `sendMessageWithMarkup` has them under the same one. -/
lemma carries_messageWithMarkup_iff {k : Conversions φ ψ} {c : Sending} {chatId : ChatId}
    {text : Text} {replyTo : Option MessageId} {markup : ReplyMarkup} {parseMode : ParseMode}
    {options : SendMessageOptions} :
    Carries options (c.sendMessageWithMarkup k chatId text replyTo markup parseMode options) ↔
      if c.usesBotApi (c.effective parseMode) then
        options.scheduleDate = none ∧ options.messageThreadId = none
      else Dated options := by
  rw [Sending.sendMessageWithMarkup]
  split
  · rw [replyMarkupToJson_eq]
    exact carries_botApi_iff _
  · exact carries_text_iff

/-- The request that a call issues first has the options of the caller exactly when the call is one of
    those that keep them. -/
theorem survives_iff (k : Conversions φ ψ) (c : Sending) (chatId : ChatId)
    (replyTo : Option MessageId) (op : SendOperation φ) :
    Survives k c chatId replyTo op ↔ Kept k c op := by
  have returned {request : FirstRequest ψ} (first : op.first k c chatId replyTo = .ok request) :
      Survives k c chatId replyTo op ↔ Carries op.options request := by
    rw [Survives, first]
    simp only [Except.ok.injEq, forall_eq']
  cases op with
  | message text pm options => exact (returned rfl).trans carries_message_iff
  | messageWithMarkup text markup pm options =>
    exact (returned rfl).trans carries_messageWithMarkup_iff
  | formattedMessage text markup options =>
    cases converts : k.convertFormattedText text with
    | error fault =>
      refine iff_of_true (fun request first => ?_) fun ⟨converted, this⟩ => ?_
      · rw [SendOperation.first, Sending.sendFormattedMessage, converts] at first
        cases first
      · cases converts.symm.trans this
    | ok converted =>
      have first : SendOperation.first k c chatId replyTo (.formattedMessage text markup options) =
          .ok (sendContent chatId (.text converted) replyTo (markup.map buildReplyMarkup)
            (some (convertSendOptions options)) (options.messageThreadId.getD 0)) := by
        rw [SendOperation.first, Sending.sendFormattedMessage, converts]
        rfl
      exact (returned first).trans
        (carries_text_iff.trans ⟨fun h _ => h, fun h => h ⟨converted, converts⟩⟩)
  | scheduledMessage text date =>
    refine (returned rfl).trans (carries_message_iff.trans ?_)
    have dated : Dated { scheduleDate := some date } ↔ InRange date :=
      ⟨fun h => h date rfl, fun h t given => Option.some.inj given ▸ h⟩
    change _ ↔ c.usesBotApi (c.effective c.defaultParseMode) = false ∧ InRange date
    cases c.usesBotApi (c.effective c.defaultParseMode) with
    | false => exact dated.trans (and_iff_right rfl).symm
    | true => exact iff_of_false (fun h => nomatch h.1) (fun h => nomatch h.1)
  | photo | video | document | audio | voiceNote | videoNote | animation | sticker =>
    exact (returned rfl).trans carries_sendMedia_iff

/-- A bot with a parse mode schedules a message, and the payload has no date. -/
theorem scheduled_message_undated :
    ¬ Survives (φ := Unit) (ψ := Unit)
      { parseText := fun _ _ => (), convertFormattedText := fun _ => .ok () }
      { botToken := ascii "123:abc", defaultParseMode := .HTML } 7 none
      (.scheduledMessage (ascii "later") 2000000000000000000) := by
  intro survives
  have kept := carries_message_iff.mp (survives _ rfl)
  rw [if_pos (by decide)] at kept
  cases kept.1

end CppGram.Backend
