import CppGram.Backend.ReplyMarkup

/-!
# Received reply markups

`convert_reply_markup`, which makes an inline keyboard of the markup of a message, and what it makes of a
keyboard that `build_reply_markup` wrote. Both kinds of inline query are of one TDLib type, and a flag of
it tells them apart: `build_reply_markup` sets the flag and `convert_reply_markup` does not look at it.
So the keyboards that come back as they were sent are those without a query for the current chat
(`received_eq_iff`).
-/

namespace CppGram.Backend

/-- `convert_reply_markup` on a button. Null types and the types that it does not name leave the button
    without an action. -/
def convertInlineButton (btn : TdApi.InlineKeyboardButton) : InlineKeyboardButton :=
  match btn.type with
  | some (.url url) => { text := btn.text, url := url }
  | some (.callback data) => { text := btn.text, callbackData := data }
  | some (.switchInline query _) => { text := btn.text, switchInlineQuery := query }
  | none => { text := btn.text }

/-- `convert_reply_markup` on a row, where null buttons are left out. -/
def convertRow (row : List (Option TdApi.InlineKeyboardButton)) : List InlineKeyboardButton :=
  row.filterMap fun btn => btn.map convertInlineButton

/-- `convert_reply_markup`. -/
def convertReplyMarkup (rm : Option TdApi.ReplyMarkup) : Option InlineKeyboard :=
  match rm with
  | some (.inlineKeyboard rows) => some { rows := rows.map fun row => convertRow (row.map some) }
  | some (.showKeyboard ..) | some .removeKeyboard | some (.forceReply _) => none
  | none => none

/-! ## Round trips -/

namespace InlineKeyboardButton

/-- The actions of a button. -/
def actions (btn : InlineKeyboardButton) : List Text :=
  [btn.url, btn.callbackData, btn.switchInlineQuery, btn.switchInlineQueryCurrentChat]

/-- Exactly one action is not empty. -/
def OneAction (btn : InlineKeyboardButton) : Prop :=
  (btn.actions.filter (· ≠ [])).length = 1

instance (btn : InlineKeyboardButton) : Decidable btn.OneAction :=
  inferInstanceAs (Decidable (_ = _))

/-- What comes back of a button that is sent. -/
def received (btn : InlineKeyboardButton) : InlineKeyboardButton :=
  convertInlineButton (buildInlineButton btn)

/-- Where one text is not empty, it is the first one, or it is behind an empty one. -/
lemma one_cons {text : Text} {texts : List Text}
    (one : ((text :: texts).filter (· ≠ [])).length = 1) :
    (text ≠ [] ∧ ∀ t ∈ texts, t = []) ∨ (text = [] ∧ (texts.filter (· ≠ [])).length = 1) := by
  by_cases empty : text = []
  · refine .inr ⟨empty, ?_⟩
    rwa [List.filter_cons_of_neg (by simpa using empty)] at one
  · refine .inl ⟨empty, fun t inside => ?_⟩
    rw [List.filter_cons_of_pos (by simpa using empty), List.length_cons, Nat.add_eq_right,
      List.length_eq_zero_iff, List.filter_eq_nil_iff] at one
    simpa using one t inside

/-- The buttons with one action are those that the functions of the class make. -/
lemma OneAction.cases {btn : InlineKeyboardButton} (one : btn.OneAction) :
    ∃ action ≠ [], btn = callback btn.text action ∨ btn = link btn.text action ∨
      ∃ currentChat, btn = switchInline btn.text action currentChat := by
  obtain ⟨text, url, data, query, here⟩ := btn
  rcases one_cons one with ⟨nonempty, others⟩ | ⟨noUrl, one⟩
  · simp only [List.forall_mem_cons] at others
    obtain ⟨noData, noQuery, noHere, -⟩ := others
    subst noData noQuery noHere
    exact ⟨url, nonempty, .inr (.inl rfl)⟩
  rcases one_cons one with ⟨nonempty, others⟩ | ⟨noData, one⟩
  · simp only [List.forall_mem_cons] at others
    obtain ⟨noQuery, noHere, -⟩ := others
    subst noUrl noQuery noHere
    exact ⟨data, nonempty, .inl rfl⟩
  rcases one_cons one with ⟨nonempty, others⟩ | ⟨noQuery, one⟩
  · simp only [List.forall_mem_cons] at others
    subst noUrl noData
    obtain ⟨noHere, -⟩ := others
    subst noHere
    exact ⟨query, nonempty, .inr (.inr ⟨false, rfl⟩)⟩
  rcases one_cons one with ⟨nonempty, -⟩ | ⟨-, none⟩
  · subst noUrl noData noQuery
    exact ⟨here, nonempty, .inr (.inr ⟨true, rfl⟩)⟩
  · cases none

/-- A callback with data comes back as it was. -/
lemma received_callback (label : Text) {data : Text} (nonempty : data ≠ []) :
    (callback label data).received = callback label data := by
  rw [received, buildInlineButton, callback, if_pos nonempty]
  rfl

/-- A link with a target comes back as it was. -/
lemma received_link (label : Text) {targetUrl : Text} (nonempty : targetUrl ≠ []) :
    (link label targetUrl).received = link label targetUrl := by
  rw [received, buildInlineButton, link, if_neg fun some => some rfl, if_pos nonempty]
  rfl

/-- A query for the current chat comes back as one for a chat to be chosen. -/
lemma received_switchInline (label : Text) {query : Text} (nonempty : query ≠ [])
    (currentChat : Bool) :
    (switchInline label query currentChat).received = switchInline label query := by
  cases currentChat with
  | false =>
    rw [received, buildInlineButton, switchInline, if_neg Bool.false_ne_true,
      if_neg fun some => some rfl, if_neg fun some => some rfl, if_pos nonempty]
    rfl
  | true =>
    rw [received, buildInlineButton, switchInline, if_pos rfl, if_neg fun some => some rfl,
      if_neg fun some => some rfl, if_neg fun some => some rfl, if_pos nonempty]
    rfl

/-- A button comes back as it was, if its action is not a query for the current chat. -/
lemma OneAction.unchanged_iff {btn : InlineKeyboardButton} (one : btn.OneAction) :
    btn.received = btn ↔ btn.switchInlineQueryCurrentChat = [] := by
  obtain ⟨action, nonempty, made | made | ⟨currentChat, made⟩⟩ := one.cases
  · rw [made, received_callback _ nonempty]
    exact iff_of_true rfl rfl
  · rw [made, received_link _ nonempty]
    exact iff_of_true rfl rfl
  · rw [made, received_switchInline _ nonempty]
    cases currentChat with
    | false => exact iff_of_true rfl rfl
    | true =>
      refine iff_of_false (fun same => nonempty ?_) nonempty
      exact congrArg switchInlineQuery same

end InlineKeyboardButton

open InlineKeyboardButton (OneAction received)

/-- A row comes back button by button. -/
lemma convertRow_sent (row : List InlineKeyboardButton) :
    convertRow ((row.map buildInlineButton).map some) = row.map received := by
  rw [convertRow, List.map_map, List.filterMap_map, ← List.filterMap_eq_map]
  rfl

/-- What comes back of a keyboard that is sent. -/
lemma convertReplyMarkup_sent (k : InlineKeyboard) :
    convertReplyMarkup (some (buildReplyMarkup (.inlineKeyboard k))) =
      some { rows := k.rows.map (·.map received) } := by
  rw [buildReplyMarkup, convertReplyMarkup, List.map_map]
  exact congrArg (fun rows => some (InlineKeyboard.mk rows))
    (List.map_congr_left fun row _ => convertRow_sent row)

/-- Mapping leaves a list of lists alone, if it leaves their items alone. -/
lemma map_map_eq_iff {α : Type} {f : α → α} {rows : List (List α)} :
    rows.map (·.map f) = rows ↔ ∀ row ∈ rows, ∀ a ∈ row, f a = a := by
  have row (row : List α) : row.map f = row ↔ ∀ a ∈ row, f a = a := by
    conv_lhs => rhs; rw [← List.map_id row]
    exact List.map_inj_left
  conv_lhs => rhs; rw [← List.map_id rows]
  rw [List.map_inj_left]
  exact forall₂_congr fun r _ => row r

/-- An inline keyboard whose buttons have one action each comes back as it was sent, if no button has a
    query for the current chat. -/
theorem InlineKeyboard.received_eq_iff (k : InlineKeyboard)
    (one : ∀ row ∈ k.rows, ∀ btn ∈ row, btn.OneAction) :
    convertReplyMarkup (some (buildReplyMarkup (.inlineKeyboard k))) = some k ↔
      ∀ row ∈ k.rows, ∀ btn ∈ row, btn.switchInlineQueryCurrentChat = [] := by
  obtain ⟨rows⟩ := k
  rw [convertReplyMarkup_sent, Option.some.injEq, InlineKeyboard.mk.injEq, map_map_eq_iff]
  exact forall₂_congr fun row there => forall₂_congr fun btn inside =>
    (one row there btn inside).unchanged_iff

/-- A keyboard with a link, a callback and a query for another chat. -/
theorem InlineKeyboard.received_eq_two_rows :
    convertReplyMarkup (some (buildReplyMarkup (.inlineKeyboard
      { rows := [[.link [97] [98], .callback [99] [100]], [.switchInline [101] [102]]] }))) =
      some { rows := [[.link [97] [98], .callback [99] [100]], [.switchInline [101] [102]]] } :=
  (received_eq_iff _ (by decide)).mpr (by decide)

/-- A query for the current chat comes back as one for a chat to be chosen. -/
theorem InlineKeyboard.not_received_current_chat :
    ¬ ∀ k : InlineKeyboard, (∀ row ∈ k.rows, ∀ btn ∈ row, btn.OneAction) →
      convertReplyMarkup (some (buildReplyMarkup (.inlineKeyboard k))) = some k := by
  intro same
  have : convertReplyMarkup (some (buildReplyMarkup (.inlineKeyboard
      { rows := [[.switchInline [97] [113] true]] }))) ≠
      some { rows := [[.switchInline [97] [113] true]] } := by decide
  exact this (same _ (by decide))

end CppGram.Backend
