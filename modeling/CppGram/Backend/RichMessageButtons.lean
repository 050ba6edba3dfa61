import CppGram.Backend.RichMessageJson
import CppGram.Backend.RichMessageRender

/-!
# The buttons of a rich message

A button of a table cell or of a row of buttons is written into the JSON for the Bot API
(`richButtonToJson`), and it becomes a button of the keyboard that is sent by TDLib (`keyboardButton`).
`place_serialized` and `place_keyboard` follow it to either place, whatever stands around it. What it
does there is read from the JSON text and from the type of the TDLib button; `button_action_iff` says
when that is the same.
-/

namespace CppGram.Backend
open Json

/-! ## What a button does -/

/-- A string under a name. -/
def stringUnder (key : String) (members : List (List UInt8 × Json)) : Option Text :=
  match members.find? fun field => decide (field.1 = ascii key) with
  | some (_, .string s) => some s
  | _ => none

/-- What a JSON button does, as the type of a TDLib button. -/
def valueAction : Json → Option TdApi.InlineKeyboardButtonType
  | .object members =>
    match stringUnder "callback_data" members, stringUnder "url" members with
    | some data, _ => some (.callback data)
    | none, some url => some (.url url)
    | none, none => none
  | _ => none

/-- What the text of a JSON button says that it does, if it is one. -/
def jsonAction (text : Text) : Option (Option TdApi.InlineKeyboardButtonType) :=
  (read text).map valueAction

/-- The buttons of a TDLib keyboard, row after row. -/
def TdApi.ReplyMarkup.buttons : TdApi.ReplyMarkup → List TdApi.InlineKeyboardButton
  | .inlineKeyboard rows => rows.flatten
  | _ => []

/-- The buttons for which it does not matter where they are read: one of `url` and `callback_data` is set
    to a string that is not empty, and the other one is not set; or neither is, and there is no text. -/
def RichMessageButton.OneAction (btn : RichMessageButton) : Prop :=
  (btn.url = none ∧ ∃ data, btn.callbackData = some data ∧ data ≠ []) ∨
  (btn.callbackData = none ∧ ∃ url, btn.url = some url ∧ url ≠ []) ∨
  (btn.url = none ∧ btn.callbackData = none ∧ btn.text = [])

/-- What a button in the JSON does: its data come first, then its link. -/
lemma jsonAction_eq (btn : RichMessageButton) : jsonAction (richButtonToJson btn) =
    some (match btn.callbackData, btn.url with
      | some data, _ => some (.callback data)
      | none, some url => some (.url url)
      | none, none => none) := by
  rw [jsonAction, richButtonToJson_eq, read_print spells_escapeJsonChar, richButtonValue, actionMembers]
  cases btn.callbackData with
  | some data => rfl
  | none =>
    cases btn.url with
    | some url => rfl
    | none => rfl

lemma type_callback (label data : Text) : (buildInlineButton (.callback label data)).type =
    if data ≠ [] then some (.callback data) else none := rfl

lemma type_link (label url : Text) : (buildInlineButton (.link label url)).type =
    if url ≠ [] then some (.url url) else none := rfl

/-- The two paths take the fields in opposite orders, and only one of them has a default. -/
lemma action_iff (btn : RichMessageButton) :
    jsonAction (richButtonToJson btn) = some (buildInlineButton (keyboardButton btn)).type ↔
      btn.OneAction := by
  rw [jsonAction_eq, keyboardButton, RichMessageButton.OneAction, Option.some.injEq]
  cases btn.callbackData with
  | some data =>
    cases btn.url with
    | some url =>
      simp only [type_link]
      split <;> simp
    | none =>
      simp only [type_callback]
      split <;> simp_all
  | none =>
    cases btn.url with
    | some url =>
      simp only [type_link]
      split <;> simp_all
    | none =>
      simp only [type_callback]
      split <;> simp_all

/-! ## Places -/

/-- A place for a button: a cell of a table, or a row of buttons. -/
inductive Place where
  | cell (p : RichBlockTable) (above below : List (List RichBlockTableCell))
      (left right : List RichBlockTableCell) (there : RichBlockTableCell)
  | row (p : RichBlockButtons) (left right : List RichMessageButton)

/-- The block with a button in that place. -/
def Place.fill (btn : RichMessageButton) : Place → RichBlock
  | .cell p above below left right there =>
    ⟨.table, .table { p with
      cells := above ++ (left ++ { there with button := some btn } :: right) :: below }⟩
  | .row p left right => ⟨.buttons, .buttons { p with buttons := left ++ btn :: right }⟩

/-- A text in which the button is written in one place, where nothing else depends on it. -/
def Frames (text : RichMessageButton → Text) : Prop :=
  ∃ before after, ∀ btn, text btn = before ++ richButtonToJson btn ++ after

/-- A frame in a frame. -/
lemma Frames.within {text : RichMessageButton → Text} (frames : Frames text) (before after : Text) :
    Frames fun btn => before ++ text btn ++ after := by
  obtain ⟨front, back, same⟩ := frames
  refine ⟨before ++ front, back ++ after, fun btn => ?_⟩
  simp only [same, List.append_assoc]

/-- A text in the middle of a list stands in one place. -/
lemma separated_middle (as bs : List Text) :
    ∃ before after, ∀ text, separated (as ++ text :: bs) = before ++ text ++ after := by
  cases as with
  | nil => exact ⟨[], bs.flatMap (44 :: ·), fun text => separated_cons text bs⟩
  | cons a as =>
    refine ⟨a ++ as.flatMap (44 :: ·) ++ [44], bs.flatMap (44 :: ·), fun text => ?_⟩
    rw [List.cons_append, separated_cons, List.flatMap_append, List.flatMap_cons]
    simp only [List.append_assoc, List.cons_append, List.nil_append]

/-- Among other texts the button still stands in one place. -/
lemma Frames.separated {text : RichMessageButton → Text} (frames : Frames text)
    (as bs : List Text) : Frames fun btn => separated (as ++ text btn :: bs) := by
  obtain ⟨before, after, same⟩ := separated_middle as bs
  simp only [same]
  exact frames.within before after

/-- What is written under a condition is written behind the rest. -/
lemma append_ite (c : Prop) [Decidable c] (s t : Text) :
    (if c then s ++ t else s) = s ++ if c then t else [] := by
  split
  · rfl
  · exact (List.append_nil s).symm

/-- In the text of a cell the button stands in one place. -/
lemma frames_cell (there : RichBlockTableCell) :
    Frames fun btn => cellToJson { there with button := some btn } := by
  have written (btn : RichMessageButton) : cellToJson { there with button := some btn } =
      ascii "\x7b\"text\":\x7b\"type\":\"button\",\"button\":" ++ richButtonToJson btn ++ (ascii "\x7d" ++
        ((if there.isHeader then ascii ",\"is_header\":true" else []) ++
        (if there.align ≠ [] then ascii ",\"align\":\"" ++ there.align ++ ascii "\"" else []) ++
        (if there.valign ≠ [] then ascii ",\"valign\":\"" ++ there.valign ++ ascii "\"" else []) ++
        ascii "\x7d")) := by
    rw [cellToJson, cellTextToJson]
    simp only [append_ite]
    simp only [List.append_assoc]
    rfl
  exact ⟨_, _, written⟩

/-- In the text of a table the button stands in one place. -/
lemma frames_table (p : RichBlockTable) (above below : List (List RichBlockTableCell))
    (left right : List RichBlockTableCell) (there : RichBlockTableCell) :
    Frames fun btn => tableToJson { p with
      cells := above ++ (left ++ { there with button := some btn } :: right) :: below } := by
  have row : Frames fun btn => rowToJson (left ++ { there with button := some btn } :: right) := by
    simp only [rowToJson, List.map_append, List.map_cons]
    exact ((frames_cell there).separated _ _).within _ _
  have written (cells : List (List RichBlockTableCell)) : tableToJson { p with cells := cells } =
      (ascii "\x7b\"type\":\"table\"" ++
        (if p.isBordered then ascii ",\"is_bordered\":true" else []) ++
        (if p.isCompact then ascii ",\"is_compact\":true" else []) ++
        (if p.isStriped then ascii ",\"is_striped\":true" else []) ++ ascii ",\"cells\":[") ++
        separated (cells.map rowToJson) ++ ascii "]\x7d" := by
    rw [tableToJson]
    simp only [append_ite]
  simp only [written, List.map_append, List.map_cons]
  exact (row.separated _ _).within _ _

/-- In the text of a block the button stands in one place. -/
lemma frames_fill (place : Place) : Frames fun btn => blockToJson (place.fill btn) := by
  cases place with
  | cell p above below left right there => exact frames_table p above below left right there
  | row p left right =>
    have buttons : Frames fun btn => separated ((left ++ btn :: right).map richButtonToJson) := by
      simp only [List.map_append, List.map_cons]
      exact Frames.separated ⟨[], [], fun btn => (List.append_nil _).symm⟩ _ _
    change Frames fun btn => buttonsToJson { p with buttons := left ++ btn :: right }
    simp only [buttonsToJson]
    exact buttons.within _ _

/-- In the JSON of a message a button is written where its block is. -/
lemma place_serialized (before after : List RichBlock) (place : Place) :
    Frames fun btn => serializeRichMessageJson { blocks := before ++ place.fill btn :: after } := by
  have texts (btn : RichMessageButton) : blockTexts (before ++ place.fill btn :: after) =
      blockTexts before ++ blockToJson (place.fill btn) :: blockTexts after := by
    have nonempty : blockToJson (place.fill btn) ≠ [] := by
      obtain ⟨front, back, same⟩ := frames_fill place
      have same := same btn
      simp only at same
      rw [same, List.append_assoc]
      exact List.append_ne_nil_of_right_ne_nil _
        (List.append_ne_nil_of_left_ne_nil (List.append_ne_nil_of_right_ne_nil _ (by decide)) _)
    rw [blockTexts, List.map_append, List.filter_append, ← blockTexts]
    exact congrArg (blockTexts before ++ ·)
      ((blockTexts_cons (place.fill btn) after).trans (if_neg nonempty))
  simp only [serializeRichMessageJson, foldl_appendBlock, if_true, texts]
  exact ((frames_fill place).separated _ _).within _ _

/-! ## The keyboard -/

/-- The buttons of the keyboard so far. -/
def Rendering.buttons (out : Rendering) : List InlineKeyboardButton :=
  (out.syntheticKeyboard.getD {}).rows.flatten

/-- The buttons that a block adds. -/
def BlockView.keyboardButtons : BlockView → List InlineKeyboardButton
  | .table p => p.cells.flatMap cellButtons
  | .buttons p => p.buttons.map keyboardButton
  | _ => []

/-- A row is added behind the buttons. -/
lemma buttons_addRow (out : Rendering) (row : List InlineKeyboardButton) :
    (out.addRow row).buttons = out.buttons ++ row := by
  rw [Rendering.addRow]
  by_cases empty : row = []
  · rw [if_neg (not_not.mpr empty), empty, List.append_nil]
  · rw [if_pos empty, Rendering.buttons, Rendering.buttons]
    change ((out.syntheticKeyboard.getD {}).rows ++ [row]).flatten = _
    rw [List.flatten_append, List.flatten_singleton]

/-- Rows are added one after the other. -/
lemma buttons_addRows (out : Rendering) (rows : List (List RichBlockTableCell)) :
    (rows.foldl (fun out row => out.addRow (cellButtons row)) out).buttons =
      out.buttons ++ rows.flatMap cellButtons :=
  foldl_appends (fun out row => buttons_addRow out (cellButtons row)) out rows

/-- A table adds the buttons of its cells, row by row. -/
lemma buttons_renderTable (out : Rendering) (p : RichBlockTable) :
    (renderTable out p).buttons = out.buttons ++ p.cells.flatMap cellButtons := by
  have body : (if p.cells ≠ [] then
      p.cells.foldl (fun out row => out.addRow (cellButtons row))
        (out.append (ascii "<pre>" ++ escapeHtml (tableText p.cells) ++ ascii "</pre>\n"))
      else out).buttons = out.buttons ++ p.cells.flatMap cellButtons := by
    by_cases empty : p.cells = []
    · rw [if_neg (not_not.mpr empty), empty]
      exact (List.append_nil _).symm
    · rw [if_pos empty, buttons_addRows]
      rfl
  rw [← body, renderTable]
  cases p.caption with
  | none => rfl
  | some caption => rfl

/-- A block adds the buttons that it has. -/
lemma buttons_renderBlock (out : Rendering) (block : RichBlock) :
    (renderBlock out block).buttons = out.buttons ++ block.view.keyboardButtons := by
  rw [renderBlock_view]
  cases block.view with
  | table p => exact buttons_renderTable out p
  | buttons p => exact buttons_addRow _ _
  | _ => exact (List.append_nil _).symm

lemma buttons_renderBlocks (blocks : List RichBlock) :
    (renderBlocks blocks).buttons = blocks.flatMap fun block => block.view.keyboardButtons :=
  foldl_appends buttons_renderBlock {} blocks

/-- A button of the message is one button of the keyboard, behind those of the places before it. -/
lemma place_keyboard (before after : List RichBlock) (place : Place) : ∃ front back, ∀ btn,
    (renderBlocks (before ++ place.fill btn :: after)).buttons = front ++ keyboardButton btn :: back := by
  have here : ∃ front back, ∀ btn,
      (place.fill btn).view.keyboardButtons = front ++ keyboardButton btn :: back := by
    cases place with
    | cell p above below left right there =>
      refine ⟨above.flatMap cellButtons ++ cellButtons left,
        cellButtons right ++ below.flatMap cellButtons, fun btn => ?_⟩
      change (above ++ (left ++ { there with button := some btn } :: right) :: below).flatMap
        cellButtons = _
      rw [List.flatMap_append, List.flatMap_cons, cellButtons, List.filterMap_append,
        List.filterMap_cons]
      simp only [Option.map_some, List.append_assoc, List.cons_append]
      rfl
    | row p left right =>
      exact ⟨left.map keyboardButton, right.map keyboardButton, fun btn => List.map_append⟩
  obtain ⟨front, back, same⟩ := here
  refine ⟨before.flatMap (fun block => block.view.keyboardButtons) ++ front,
    back ++ after.flatMap (fun block => block.view.keyboardButtons), fun btn => ?_⟩
  rw [buttons_renderBlocks, List.flatMap_append, List.flatMap_cons, same]
  simp only [List.append_assoc, List.cons_append]

section

variable {φ ψ : Type}

/-- What TDLib is sent are the buttons of the keyboard. -/
lemma buttons_renderRichMessageTdlib (k : Conversions φ ψ) (richMsg : InputRichMessage)
    (options : SendRichMessageOptions) :
    ((renderRichMessageTdlib k { richMsg with html := none, markdown := none }
      { options with replyMarkup := none }).2.map TdApi.ReplyMarkup.buttons).getD [] =
      (renderBlocks richMsg.blocks).buttons.map buildInlineButton := by
  rw [renderRichMessageTdlib, Rendering.buttons]
  simp only
  cases (renderBlocks richMsg.blocks).syntheticKeyboard with
  | none => rfl
  | some keyboard =>
    simp only
    split
    · exact List.map_flatten.symm
    · next empty =>
      rw [not_not] at empty
      rw [Option.getD_some, empty]
      rfl

/-- A button in a table cell or in a row of buttons, whatever the message has around it, is one piece of
    the JSON and one button of the keyboard; what these two do is the same exactly for the buttons that
    have one action. -/
theorem button_action_iff (k : Conversions φ ψ) (richMsg : InputRichMessage)
    (options : SendRichMessageOptions) (before after : List RichBlock) (place : Place) :
    ∃ json json' front back, ∀ btn : RichMessageButton,
      let richMsg := { richMsg with
        html := none, markdown := none, blocks := before ++ place.fill btn :: after }
      let tdButton := buildInlineButton (keyboardButton btn)
      serializeRichMessageJson richMsg = json ++ richButtonToJson btn ++ json' ∧
      ((renderRichMessageTdlib k richMsg { options with replyMarkup := none }).2.map
        TdApi.ReplyMarkup.buttons).getD [] = front ++ tdButton :: back ∧
      (jsonAction (richButtonToJson btn) = some tdButton.type ↔ btn.OneAction) := by
  obtain ⟨json, json', written⟩ := place_serialized before after place
  obtain ⟨front, back, shown⟩ := place_keyboard before after place
  refine ⟨json, json', front.map buildInlineButton, back.map buildInlineButton, fun btn => ?_⟩
  refine ⟨written btn, ?_, action_iff btn⟩
  have sent := buttons_renderRichMessageTdlib k
    { richMsg with blocks := before ++ place.fill btn :: after } options
  rw [shown, List.map_append, List.map_cons] at sent
  exact sent

end

/-- With both fields set the JSON button is a callback, and the button of the keyboard a link. -/
theorem button_action_both :
    let btn : RichMessageButton :=
      { text := ascii "Docs", url := some (ascii "https://x"), callbackData := some (ascii "docs") }
    jsonAction (richButtonToJson btn) = some (some (.callback (ascii "docs"))) ∧
      (buildInlineButton (keyboardButton btn)).type = some (.url (ascii "https://x")) ∧
      ¬ ∀ btn : RichMessageButton,
        jsonAction (richButtonToJson btn) = some (buildInlineButton (keyboardButton btn)).type := by
  intro btn
  have written : jsonAction (richButtonToJson btn) = some (some (.callback (ascii "docs"))) :=
    jsonAction_eq btn
  have shown : (buildInlineButton (keyboardButton btn)).type = some (.url (ascii "https://x")) := by
    decide
  refine ⟨written, shown, fun all => ?_⟩
  have same := all btn
  rw [written, shown] at same
  cases same

end CppGram.Backend
