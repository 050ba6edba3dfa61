import CppGram.Backend.RichMessage
import CppGram.Backend.Sending

/-!
# Sending rich messages

`ClientImpl::sendRichMessage` of C++ `client.cpp`: with a bot token the JSON of the message goes to the
Bot API; without one, or if that fails, TDLib is sent what `render_rich_message_tdlib` makes of it, a
text in HTML and an inline keyboard of the buttons.
-/

namespace CppGram.Backend
open Json

/-- The bytes of a string literal. -/
def utf8 (s : String) : Text := s.toList.flatMap String.utf8EncodeChar

/-! ## Tables -/

/-- The turn of a cell in the loop that measures the columns. -/
def measureCell (colWidths : List Nat) (cell : RichBlockTableCell × Nat) : List Nat :=
  colWidths.set cell.2 (max (colWidths.getD cell.2 0) cell.1.text.length)

/-- The turn of a row; there is a width for each of its cells before they are measured. -/
def measureRow (colWidths : List Nat) (row : List RichBlockTableCell) : List Nat :=
  row.zipIdx.foldl measureCell
    (if row.length > colWidths.length then
      colWidths ++ List.replicate (row.length - colWidths.length) 0
    else colWidths)

/-- `col_widths`. -/
def colWidths (cells : List (List RichBlockTableCell)) : List Nat := cells.foldl measureRow []

/-- A cell in its line, padded with spaces. -/
def cellText (colWidths : List Nat) (cell : RichBlockTableCell × Nat) : Text :=
  let width := colWidths.getD cell.2 0
  ascii " " ++ cell.1.text ++
    (if cell.1.text.length < width then List.replicate (width - cell.1.text.length) 32 else []) ++
    ascii " |"

/-- The line of a row. -/
def rowText (colWidths : List Nat) (row : List RichBlockTableCell) : Text :=
  ascii "|" ++ row.zipIdx.flatMap (cellText colWidths) ++ ascii "\n"

/-- The line below the first row. -/
def ruleText (colWidths : List Nat) (row : List RichBlockTableCell) : Text :=
  ascii "|" ++
    row.zipIdx.flatMap (fun cell => List.replicate (colWidths.getD cell.2 0 + 2) 45 ++ ascii "|") ++
    ascii "\n"

/-- `table_str`. -/
def tableText (cells : List (List RichBlockTableCell)) : Text :=
  cells.zipIdx.flatMap fun row =>
    rowText (colWidths cells) row.1 ++
      if row.2 = 0 ∧ cells.length > 1 then ruleText (colWidths cells) row.1 else []

/-! ## Blocks -/

/-- `escape_html` on a character. -/
def escapeHtmlChar (c : UInt8) : Text :=
  if c = 38 then ascii "&amp;"
  else if c = 60 then ascii "&lt;"
  else if c = 62 then ascii "&gt;"
  else if c = 34 then ascii "&quot;"
  else [c]

/-- `escape_html`. -/
def escapeHtml (s : Text) : Text := s.flatMap escapeHtmlChar

/-- `rendered` and `synthetic_keyboard`. -/
structure Rendering where
  rendered : Text := []
  syntheticKeyboard : Option InlineKeyboard := none
  deriving DecidableEq

namespace Rendering

/-- `rendered += s`. -/
def append (out : Rendering) (s : Text) : Rendering := { out with rendered := out.rendered ++ s }

/-- A row of buttons at the end of the keyboard, which may be none yet. -/
def addRow (out : Rendering) (row : List InlineKeyboardButton) : Rendering :=
  if row ≠ [] then
    { out with syntheticKeyboard := some ((out.syntheticKeyboard.getD {}).addRow row) }
  else out

end Rendering

/-- The button of the keyboard that stands for a button of the message. -/
def keyboardButton (btn : RichMessageButton) : InlineKeyboardButton :=
  match btn.url, btn.callbackData with
  | some url, _ => .link btn.text url
  | none, some data => .callback btn.text data
  | none, none => .callback btn.text btn.text

/-- The buttons in a row of cells. -/
def cellButtons (row : List RichBlockTableCell) : List InlineKeyboardButton :=
  row.filterMap fun cell => cell.button.map keyboardButton

/-- The lines of a table between `<pre>` and `</pre>`, its buttons, and its caption or an empty line. -/
def renderTable (out : Rendering) (p : RichBlockTable) : Rendering :=
  let out :=
    if p.cells ≠ [] then
      p.cells.foldl (fun out row => out.addRow (cellButtons row))
        (out.append (ascii "<pre>" ++ escapeHtml (tableText p.cells) ++ ascii "</pre>\n"))
    else out
  match p.caption with
  | some caption => out.append (ascii "<i>" ++ escapeHtml caption ++ ascii "</i>\n\n")
  | none => out.append (ascii "\n")

/-- Preformatted text, in an element for its language if there is one. -/
def renderPreformatted (p : RichBlockPreformatted) : Text :=
  if p.language = [] then ascii "<pre>" ++ escapeHtml p.text ++ ascii "</pre>\n\n"
  else
    ascii "<pre><code class=\"language-" ++ escapeHtml p.language ++ ascii "\">" ++
      escapeHtml p.text ++ ascii "</code></pre>\n\n"

/-- A quotation, with its credit if there is one. -/
def renderQuotation (p : RichBlockExpandableBlockQuotation) : Text :=
  utf8 "<i>“" ++ escapeHtml p.text ++ utf8 "”</i>\n" ++
    (match p.credit with
    | some credit => utf8 "— <b>" ++ escapeHtml credit ++ ascii "</b>\n"
    | none => []) ++
    ascii "\n"

/-- A row of buttons; the keyboard is there even if the row is empty. -/
def renderButtons (out : Rendering) (p : RichBlockButtons) : Rendering :=
  { out with syntheticKeyboard := some (out.syntheticKeyboard.getD {}) }.addRow
    (p.buttons.map keyboardButton)

/-- The turn of a block in the loop of `render_rich_message_tdlib`. -/
def renderBlock (out : Rendering) (block : RichBlock) : Rendering :=
  match block.type, block.payload with
  | .sectionHeading, .sectionHeading p =>
    out.append (ascii "<b>" ++ escapeHtml p.text ++ ascii "</b>\n\n")
  | .paragraph, .paragraph p => out.append (escapeHtml p.text ++ ascii "\n\n")
  | .preformatted, .preformatted p => out.append (renderPreformatted p)
  | .divider, _ => out.append (utf8 "─────────────────────────\n\n")
  | .table, .table p => renderTable out p
  | .expandableBlockQuotation, .expandableBlockQuotation p => out.append (renderQuotation p)
  | .buttons, .buttons p => renderButtons out p
  | .document, .document p =>
    out.append (utf8 "📄 <b>" ++ escapeHtml (p.caption.getD (ascii "Document")) ++ ascii "</b>\n\n")
  | .thinking, .thinking p =>
    out.append (utf8 "🧠 <i>[Thinking: " ++ escapeHtml p.text ++ ascii "]</i>\n\n")
  | _, _ => out

/-- What the loop of `render_rich_message_tdlib` finds in a block: a payload of the type of the block, or
    nothing that it has a case for. -/
inductive BlockView where
  | heading (p : RichBlockSectionHeading)
  | paragraph (p : RichBlockParagraph)
  | preformatted (p : RichBlockPreformatted)
  | divider
  | table (p : RichBlockTable)
  | quotation (p : RichBlockExpandableBlockQuotation)
  | buttons (p : RichBlockButtons)
  | document (p : RichBlockDocument)
  | thinking (p : RichBlockThinking)
  | nothing

/-- A block as it is rendered: nothing if its payload is not of its type. -/
def RichBlock.view (block : RichBlock) : BlockView :=
  match block.type, block.payload with
  | .sectionHeading, .sectionHeading p => .heading p
  | .paragraph, .paragraph p => .paragraph p
  | .preformatted, .preformatted p => .preformatted p
  | .divider, _ => .divider
  | .table, .table p => .table p
  | .expandableBlockQuotation, .expandableBlockQuotation p => .quotation p
  | .buttons, .buttons p => .buttons p
  | .document, .document p => .document p
  | .thinking, .thinking p => .thinking p
  | _, _ => .nothing

/-- `renderBlock` by what is found in the block. -/
def BlockView.render (out : Rendering) : BlockView → Rendering
  | .heading p => out.append (ascii "<b>" ++ escapeHtml p.text ++ ascii "</b>\n\n")
  | .paragraph p => out.append (escapeHtml p.text ++ ascii "\n\n")
  | .preformatted p => out.append (renderPreformatted p)
  | .divider => out.append (utf8 "─────────────────────────\n\n")
  | .table p => renderTable out p
  | .quotation p => out.append (renderQuotation p)
  | .buttons p => renderButtons out p
  | .document p =>
    out.append (utf8 "📄 <b>" ++ escapeHtml (p.caption.getD (ascii "Document")) ++ ascii "</b>\n\n")
  | .thinking p =>
    out.append (utf8 "🧠 <i>[Thinking: " ++ escapeHtml p.text ++ ascii "]</i>\n\n")
  | .nothing => out

/-- A block is rendered as its view is. -/
lemma renderBlock_view (out : Rendering) (block : RichBlock) :
    renderBlock out block = block.view.render out := by
  obtain ⟨type, payload⟩ := block
  simp only [renderBlock, RichBlock.view]
  split <;> rfl

/-- What the blocks of a message are rendered to. -/
def renderBlocks (blocks : List RichBlock) : Rendering := blocks.foldl renderBlock {}

/-- `if (!rendered.empty() && rendered.back() == '\n') rendered.pop_back()`. -/
def popNewline (rendered : Text) : Text :=
  if rendered.getLast? = some 10 then rendered.dropLast else rendered

/-- C++ `struct SendRichMessageOptions`, as far as `sendRichMessage` reads it. -/
structure SendRichMessageOptions where
  messageThreadId : Option Int64 := none
  disableNotification : Bool := false
  protectContent : Bool := false
  replyTo : Option MessageId := none
  replyMarkup : Option ReplyMarkup := none
  deriving DecidableEq

section

variable {φ ψ : Type}

/-- `render_rich_message_tdlib`. -/
def renderRichMessageTdlib (k : Conversions φ ψ) (richMsg : InputRichMessage)
    (options : SendRichMessageOptions) : ψ × Option TdApi.ReplyMarkup :=
  let (text, syntheticKeyboard) :=
    match richMsg.html, richMsg.markdown with
    | some html, _ => (k.parseText html .HTML, none)
    | none, some markdown => (k.parseText markdown .MarkdownV2, none)
    | none, none =>
      let out := renderBlocks richMsg.blocks
      (k.parseText (popNewline out.rendered) .HTML, out.syntheticKeyboard)
  let rm :=
    match options.replyMarkup, syntheticKeyboard with
    | some markup, _ => some (buildReplyMarkup markup)
    | none, some keyboard =>
      if keyboard.rows ≠ [] then some (buildReplyMarkup (.inlineKeyboard keyboard)) else none
    | none, none => none
  (text, rm)

namespace Sending

/-- The payload that `sendRichMessage` puts together. -/
def richMessagePayload (chatId : ChatId) (richMsg : InputRichMessage) : Text :=
  ascii "\x7b\"chat_id\":" ++ printInt chatId.toInt ++ ascii ",\"rich_message\":" ++
    serializeRichMessageJson richMsg ++ ascii "\x7d"

/-- What `sendRichMessage` sends to TDLib. -/
def richMessageFallback (k : Conversions φ ψ) (chatId : ChatId) (richMsg : InputRichMessage)
    (options : SendRichMessageOptions) : FirstRequest ψ :=
  let (content, rm) := renderRichMessageTdlib k richMsg options
  sendContent chatId (.text content) options.replyTo rm
    (some (convertSendOptions
      { disableNotification := options.disableNotification
        protectContent := options.protectContent
        messageThreadId := options.messageThreadId }))
    (options.messageThreadId.getD 0)

/-- `ClientImpl::sendRichMessage`. -/
def sendRichMessage (k : Conversions φ ψ) (c : Sending) (chatId : ChatId)
    (richMsg : InputRichMessage) (options : SendRichMessageOptions) : FirstRequest ψ :=
  if c.botToken ≠ [] then
    .botApi (ascii "https://api.telegram.org/bot" ++ c.botToken ++ ascii "/sendRichMessage")
      (richMessagePayload chatId richMsg)
  else richMessageFallback k chatId richMsg options

end Sending

end

end CppGram.Backend
