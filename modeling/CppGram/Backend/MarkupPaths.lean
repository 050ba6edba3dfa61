import CppGram.Backend.SendOptions

/-!
# Reply markups on both paths

`sendMessageWithMarkup` sends a markup as JSON to the Bot API or as an object to TDLib. `botMarkup` is
what a JSON value denotes as a reply markup of the Bot API. `sameMarkup_iff` says for which markups both
paths send the same.
-/

namespace CppGram.Backend
open Json

variable {φ ψ : Type}

/-! ## Markups of the Bot API -/

/-- What pressing an inline button of the Bot API does. -/
def botInlineButtonType (j : Json) : Option TdApi.InlineKeyboardButtonType :=
  ((j.string? (ascii "callback_data")).map .callback).or <|
  ((j.string? (ascii "url")).map .url).or <|
  ((j.string? (ascii "switch_inline_query")).map (.switchInline · false)).or <|
  (j.string? (ascii "switch_inline_query_current_chat")).map (.switchInline · true)

/-- An inline button as the server reads it in the payload. -/
def botInlineButton (j : Json) : Option TdApi.InlineKeyboardButton :=
  (j.string? (ascii "text")).map fun text => ⟨text, botInlineButtonType j⟩

/-- A button of a reply keyboard as the server reads it in the payload. -/
def botButton (j : Json) : Option TdApi.KeyboardButton :=
  (j.string? (ascii "text")).map fun text =>
    { text
      type :=
        if j.flag (ascii "request_contact") then .requestPhoneNumber
        else if j.flag (ascii "request_location") then .requestLocation
        else .text }

/-- Rows of buttons. -/
def botRows {β : Type} (button : Json → Option β) (j : Json) : Option (List (List β)) :=
  j.rows?.bind fun rows => rows.mapM fun row => row.mapM button

/-- The reply markup that a value of the Bot API denotes. -/
def botMarkup (j : Json) : Option TdApi.ReplyMarkup :=
  match j.get? (ascii "inline_keyboard"), j.get? (ascii "keyboard") with
  | some rows, _ => (botRows botInlineButton rows).map .inlineKeyboard
  | none, some rows =>
    (botRows botButton rows).map fun rows =>
      .showKeyboard rows (j.flag (ascii "resize_keyboard")) (j.flag (ascii "one_time_keyboard"))
        ((j.string? (ascii "input_field_placeholder")).getD [])
  | none, none =>
    if j.flag (ascii "remove_keyboard") then some .removeKeyboard
    else if j.flag (ascii "force_reply") then
      some (.forceReply ((j.string? (ascii "input_field_placeholder")).getD []))
    else none

/-- Whatever `sendMessageWithMarkup` posts to the Bot API has a reply markup, which is the one that
    TDLib is sent. -/
def SameMarkup (k : Conversions φ ψ) (markup : ReplyMarkup) : Prop :=
  ∀ (c : Sending) chatId text replyTo parseMode options url payload,
    c.sendMessageWithMarkup k chatId text replyTo markup parseMode options = .botApi url payload →
    ∃ value json, read payload = some value ∧ value.get? (ascii "reply_markup") = some json ∧
      botMarkup json = some (buildReplyMarkup markup)

/-- The actions of a button that the JSON has as well. -/
def SpelledOut (btn : InlineKeyboardButton) : Prop :=
  btn.callbackData ≠ [] ∨ btn.url ≠ [] ∨
    btn.switchInlineQuery = [] ∧ btn.switchInlineQueryCurrentChat = []

/-- The markups that the JSON has as well. -/
def InlineOnly (markup : ReplyMarkup) : Prop :=
  ∃ k, markup = .inlineKeyboard k ∧ ∀ row ∈ k.rows, ∀ btn ∈ row, SpelledOut btn

/-! ## What is written for a markup -/

/-- The JSON has the first two of the four actions. -/
lemma botInlineButton_buttonValue (btn : InlineKeyboardButton) :
    botInlineButton (buttonValue btn) = some
      { text := btn.text
        type :=
          if btn.callbackData ≠ [] then some (.callback btn.callbackData)
          else if btn.url ≠ [] then some (.url btn.url)
          else none } := by
  rw [buttonValue]
  split_ifs <;> rfl

/-- A button of the JSON is the button of TDLib if its action is spelled out. -/
lemma botInlineButton_iff (btn : InlineKeyboardButton) :
    botInlineButton (buttonValue btn) = some (buildInlineButton btn) ↔ SpelledOut btn := by
  rw [botInlineButton_buttonValue, buildInlineButton, SpelledOut]
  by_cases callback : btn.callbackData = []
  · by_cases url : btn.url = []
    · by_cases inline : btn.switchInlineQuery = []
      · by_cases current : btn.switchInlineQueryCurrentChat = [] <;>
          simp [callback, url, inline, current]
      · simp [callback, url, inline]
    · simp [callback, url]
  · simp [callback]

/-- Reading what was written gives what is expected exactly if it does so for each item. -/
lemma mapM_map_eq_some_iff {α β γ : Type} {f : α → β} {g : β → Option γ} {h : α → γ}
    {xs : List α} : (xs.map f).mapM g = some (xs.map h) ↔ ∀ x ∈ xs, g (f x) = some (h x) := by
  induction xs with
  | nil => simp
  | cons x xs ih =>
    rw [List.map_cons, List.mapM_cons, List.map_cons, List.forall_mem_cons, ← ih]
    cases g (f x) with
    | none => exact iff_of_false (fun h => by cases h) (fun h => by cases h.1)
    | some y =>
      cases (xs.map f).mapM g with
      | none => exact iff_of_false (fun h => by cases h) (fun h => by cases h.2)
      | some ys => simp

/-- The rows of an inline keyboard in JSON are those of TDLib if each action is spelled out. -/
lemma botRows_iff (k : InlineKeyboard) :
    botRows botInlineButton (.array (k.rows.map fun row => .array (row.map buttonValue))) =
      some (k.rows.map fun row => row.map buildInlineButton) ↔
    ∀ row ∈ k.rows, ∀ btn ∈ row, SpelledOut btn := by
  have rows : rows? (.array (k.rows.map fun row => .array (row.map buttonValue))) =
      some (k.rows.map fun row => (row.map buttonValue : List Json)) := by
    rw [rows?, mapM_map_eq_some_iff]
    exact fun _ _ => rfl
  rw [botRows, rows, Option.bind_some, mapM_map_eq_some_iff]
  refine forall₂_congr fun row _ => ?_
  rw [mapM_map_eq_some_iff]
  exact forall₂_congr fun btn _ => botInlineButton_iff btn

/-- What is written for a markup denotes the markup of TDLib only if it is an inline keyboard whose
    actions are spelled out. -/
lemma denotes_iff (markup : ReplyMarkup) :
    (∃ json, replyMarkupValue markup = some json ∧
      botMarkup json = some (buildReplyMarkup markup)) ↔ InlineOnly markup := by
  cases markup with
  | inlineKeyboard k =>
    have inline : InlineOnly (.inlineKeyboard k) ↔ ∀ row ∈ k.rows, ∀ btn ∈ row, SpelledOut btn := by
      constructor
      · rintro ⟨_, same, spelled⟩
        cases same
        exact spelled
      · exact fun spelled => ⟨k, rfl, spelled⟩
    rw [inline, ← botRows_iff]
    constructor
    · rintro ⟨json, written, denotes⟩
      cases written
      obtain ⟨rows, read, same⟩ := Option.map_eq_some_iff.mp denotes
      cases same
      exact read
    · intro read
      exact ⟨_, rfl, congrArg (Option.map TdApi.ReplyMarkup.inlineKeyboard) read⟩
  | replyKeyboard k | removeKeyboard r | forceReply r =>
    refine iff_of_false ?_ ?_
    · rintro ⟨json, written, -⟩
      cases written
    · rintro ⟨k, same, -⟩
      cases same

/-- The markup of a payload is what stands under `reply_markup`. -/
lemma payloadMembers_markup (chatId : ChatId) (text parseModeName : Text)
    (replyTo : Option MessageId) (options : SendMessageOptions) (markup : Option Json) :
    get? (ascii "reply_markup")
      (.object (payloadMembers chatId text parseModeName replyTo options markup)) = markup := by
  rw [payloadMembers]
  cases replyTo <;> cases markup <;> split_ifs <;> rfl

/-- What is posted for a markup. -/
lemma read_botApiPayload (chatId : ChatId) (text : Text) (parseMode : ParseMode)
    (replyTo : Option MessageId) (options : SendMessageOptions) (markup : ReplyMarkup) :
    ∃ value, read (botApiPayload chatId text parseMode replyTo options
        (replyMarkupToJson markup)) = some value ∧
      value.get? (ascii "reply_markup") = replyMarkupValue markup := by
  rw [replyMarkupToJson_eq, botApiPayload_eq]
  exact ⟨_, read_print spells_escapeJsonChar _, payloadMembers_markup ..⟩

/-- What is posted by a bot with a parse mode denotes the markup. -/
lemma SameMarkup.inlineOnly {k : Conversions φ ψ} {markup : ReplyMarkup}
    (same : SameMarkup k markup) : InlineOnly markup := by
  obtain ⟨value, json, whole, inside, denotes⟩ :=
    same { botToken := [48] } 0 [] none .HTML {} _ _ rfl
  obtain ⟨value', whole', markup'⟩ := read_botApiPayload 0 [] .HTML none {} markup
  cases whole.symm.trans whole'
  exact (denotes_iff markup).mp ⟨json, markup'.symm.trans inside, denotes⟩

/-- Both paths send the same markup exactly if it is an inline keyboard whose buttons call back, open a
    URL or do nothing. -/
theorem sameMarkup_iff (k : Conversions φ ψ) (markup : ReplyMarkup) :
    SameMarkup k markup ↔ InlineOnly markup := by
  refine ⟨SameMarkup.inlineOnly, fun inline => ?_⟩
  intro c chatId text replyTo parseMode options url payload sent
  obtain ⟨json, written, denotes⟩ := (denotes_iff markup).mpr inline
  rw [Sending.sendMessageWithMarkup] at sent
  split at sent
  · cases sent
    obtain ⟨value, whole, inside⟩ :=
      read_botApiPayload chatId text (c.effective parseMode) replyTo options markup
    exact ⟨value, json, whole, inside.trans written, denotes⟩
  · cases sent

/-- A reply keyboard is not posted at all, and a button that switches to an inline query is posted
    without its action. -/
theorem markup_lost :
    let k : Conversions Unit Unit :=
      { parseText := fun _ _ => (), convertFormattedText := fun _ => .ok () }
    ¬ SameMarkup k (.replyKeyboard { rows := [[{ text := ascii "Yes" }]] }) ∧
    ¬ SameMarkup k
      (.inlineKeyboard { rows := [[{ text := ascii "Find", switchInlineQuery := ascii "cats" }]] }) := by
  intro k
  constructor
  · intro same
    obtain ⟨_, other, -⟩ := same.inlineOnly
    cases other
  · intro same
    obtain ⟨_, itself, spelled⟩ := same.inlineOnly
    cases itself
    have := spelled _ (List.mem_singleton_self _) _ (List.mem_singleton_self _)
    exact absurd this (by simp [SpelledOut, ascii])

end CppGram.Backend
