import CppGram.Backend.ReplyMarkup

/-!
# Rich messages

The blocks of C++ `rich_message.hpp`, `RichMessageBuilder`, and the text that
`serialize_rich_message_json` writes for the Bot API. The alignments of cells and of rows of buttons are
written as they are; all other strings are escaped.
-/

namespace CppGram.Backend
open Json

/-! ## Blocks -/

/-- C++ `struct RichMessageButton`. -/
structure RichMessageButton where
  text : Text := []
  style : Text := ascii "primary"
  url : Option Text := none
  callbackData : Option Text := none
  copyText : Option Text := none
  disabled : Bool := false
  deriving DecidableEq

/-- C++ `enum class RichBlockType`. -/
inductive RichBlockType where
  | paragraph | sectionHeading | preformatted | footer | divider | mathematicalExpression | anchor
  | list | blockQuotation | expandableBlockQuotation | pullQuotation | collage | slideshow | table
  | details | map | buttons | document | animation | audio | photo | video | voiceNote | thinking
  deriving DecidableEq

/-- C++ `struct RichBlockTableCell`, without the spans. -/
structure RichBlockTableCell where
  text : Text := []
  isHeader : Bool := false
  align : Text := ascii "left"
  valign : Text := ascii "middle"
  isBold : Bool := false
  isCode : Bool := false
  button : Option RichMessageButton := none
  customEmojiId : Option Text := none
  deriving DecidableEq

/-- C++ `struct RichBlockTable`. -/
structure RichBlockTable where
  cells : List (List RichBlockTableCell) := []
  isBordered : Bool := true
  isStriped : Bool := false
  isCompact : Bool := false
  caption : Option Text := none
  deriving DecidableEq

/-- C++ `struct RichBlockExpandableBlockQuotation`. -/
structure RichBlockExpandableBlockQuotation where
  text : Text
  credit : Option Text := none
  deriving DecidableEq

/-- C++ `struct RichBlockButtons`. -/
structure RichBlockButtons where
  buttons : List RichMessageButton
  align : Text := ascii "left"
  deriving DecidableEq

/-- C++ `struct RichBlockDocument`. -/
structure RichBlockDocument where
  document : Text
  caption : Option Text := none
  deriving DecidableEq

/-- C++ `struct RichBlockSectionHeading`. -/
structure RichBlockSectionHeading where
  text : Text
  deriving DecidableEq

/-- C++ `struct RichBlockParagraph`. -/
structure RichBlockParagraph where
  text : Text := []
  deriving DecidableEq

/-- C++ `struct RichBlockPreformatted`. -/
structure RichBlockPreformatted where
  text : Text
  language : Text := []
  deriving DecidableEq

/-- C++ `struct RichBlockThinking`. -/
structure RichBlockThinking where
  text : Text
  deriving DecidableEq

/-- C++ `RichBlockPayload`. -/
inductive RichBlockPayload where
  | paragraph (p : RichBlockParagraph)
  | sectionHeading (p : RichBlockSectionHeading)
  | preformatted (p : RichBlockPreformatted)
  | divider
  | table (p : RichBlockTable)
  | expandableBlockQuotation (p : RichBlockExpandableBlockQuotation)
  | buttons (p : RichBlockButtons)
  | document (p : RichBlockDocument)
  | thinking (p : RichBlockThinking)
  deriving DecidableEq

/-- C++ `struct RichBlock`. Nothing keeps the payload to the type. -/
structure RichBlock where
  type : RichBlockType := .paragraph
  payload : RichBlockPayload := .paragraph {}
  deriving DecidableEq

/-- C++ `struct InputRichMessageMedia`. -/
structure InputRichMessageMedia where
  id : Text
  media : Text
  deriving DecidableEq

/-- C++ `struct InputRichMessage`. -/
structure InputRichMessage where
  html : Option Text := none
  markdown : Option Text := none
  blocks : List RichBlock := []
  media : List InputRichMessageMedia := []
  isRtl : Bool := false
  skipEntityDetection : Bool := false
  deriving DecidableEq

/-! ## The builder -/

/-- The calls of `RichMessageBuilder`. -/
inductive BuilderCall where
  | heading (text : Text)
  | paragraph (text : Text)
  | preformatted (code : Text) (language : Text := [])
  | divider
  | table (table : RichBlockTable)
  | expandableQuote (text : Text) (credit : Option Text := none)
  | buttons (btnList : List RichMessageButton) (align : Text := ascii "left")
  | document (docIdOrLink : Text) (caption : Option Text := none)
  | thinking (thoughtProcess : Text)
  | setRtl (rtl : Bool)
  | setSkipEntityDetection (skip : Bool)
  | addMedia (id : Text) (mediaTarget : Text)
  deriving DecidableEq

namespace BuilderCall

/-- The block that a call appends, if it is one that does. -/
def block? : BuilderCall → Option RichBlock
  | .heading text => some ⟨.sectionHeading, .sectionHeading { text }⟩
  | .paragraph text => some ⟨.paragraph, .paragraph { text }⟩
  | .preformatted code language => some ⟨.preformatted, .preformatted { text := code, language }⟩
  | .divider => some ⟨.divider, .divider⟩
  | .table p => some ⟨.table, .table p⟩
  | .expandableQuote text credit =>
    some ⟨.expandableBlockQuotation, .expandableBlockQuotation { text, credit }⟩
  | .buttons btnList align => some ⟨.buttons, .buttons { buttons := btnList, align }⟩
  | .document docIdOrLink caption =>
    some ⟨.document, .document { document := docIdOrLink, caption }⟩
  | .thinking thoughtProcess => some ⟨.thinking, .thinking { text := thoughtProcess }⟩
  | .setRtl _ | .setSkipEntityDetection _ | .addMedia _ _ => none

/-- A call on the message that is being built. -/
def run (message : InputRichMessage) (call : BuilderCall) : InputRichMessage :=
  match call with
  | .setRtl rtl => { message with isRtl := rtl }
  | .setSkipEntityDetection skip => { message with skipEntityDetection := skip }
  | .addMedia id mediaTarget =>
    { message with media := message.media ++ [{ id, media := mediaTarget }] }
  | call => { message with blocks := message.blocks ++ call.block?.toList }

/-- `RichMessageBuilder::build`, after calls on a fresh builder. -/
def build (calls : List BuilderCall) : InputRichMessage := calls.foldl run {}

/-- A call appends its block. -/
lemma run_blocks (message : InputRichMessage) (call : BuilderCall) :
    (run message call).blocks = message.blocks ++ call.block?.toList := by
  cases call with
  | setRtl | setSkipEntityDetection | addMedia => exact (List.append_nil _).symm
  | _ => rfl

/-- The blocks of a message are those that the calls appended, in their order. -/
lemma build_blocks (calls : List BuilderCall) : (build calls).blocks = calls.filterMap block? := by
  have blocks : calls.flatMap (fun call => call.block?.toList) = calls.filterMap block? :=
    (List.filterMap_eq_flatMap_toList ..).symm
  rw [← blocks]
  exact @foldl_appends _ _ _ _ InputRichMessage.blocks _ run_blocks {} calls

end BuilderCall

/-! ## JSON texts -/

/-- The member for what a button does. -/
def actionToJson (btn : RichMessageButton) : Text :=
  match btn.callbackData, btn.url with
  | some data, _ => ascii ",\"callback_data\":\"" ++ escapeJsonString data ++ ascii "\""
  | none, some url => ascii ",\"url\":\"" ++ escapeJsonString url ++ ascii "\""
  | none, none => []

/-- What `serialize_rich_message_json` writes for a button. -/
def richButtonToJson (btn : RichMessageButton) : Text :=
  ascii "\x7b\"text\":\"" ++ escapeJsonString btn.text ++ ascii "\"" ++ actionToJson btn ++
    ascii "\x7d"

/-- The member with the text of a cell. -/
def cellTextToJson (cell : RichBlockTableCell) : Text :=
  match cell.button, cell.customEmojiId with
  | some button, _ =>
    ascii "\"text\":\x7b\"type\":\"button\",\"button\":" ++ richButtonToJson button ++ ascii "\x7d"
  | none, some emojiId =>
    ascii "\"text\":\x7b\"type\":\"custom_emoji\",\"custom_emoji_id\":\"" ++
      escapeJsonString emojiId ++ ascii "\",\"alternative_text\":\"" ++
      escapeJsonString cell.text ++ ascii "\"\x7d"
  | none, none =>
    if cell.isBold then
      ascii "\"text\":\x7b\"type\":\"bold\",\"text\":\"" ++ escapeJsonString cell.text ++
        ascii "\"\x7d"
    else if cell.isCode then
      ascii "\"text\":\x7b\"type\":\"code\",\"text\":\"" ++ escapeJsonString cell.text ++
        ascii "\"\x7d"
    else ascii "\"text\":\"" ++ escapeJsonString cell.text ++ ascii "\""

/-- What `serialize_rich_message_json` writes for a cell. -/
def cellToJson (cell : RichBlockTableCell) : Text :=
  let json := ascii "\x7b" ++ cellTextToJson cell
  let json := if cell.isHeader then json ++ ascii ",\"is_header\":true" else json
  let json := if cell.align ≠ [] then json ++ (ascii ",\"align\":\"" ++ cell.align ++ ascii "\"") else json
  let json :=
    if cell.valign ≠ [] then json ++ (ascii ",\"valign\":\"" ++ cell.valign ++ ascii "\"") else json
  json ++ ascii "\x7d"

/-- What `serialize_rich_message_json` writes for a row of cells. -/
def rowToJson (row : List RichBlockTableCell) : Text :=
  ascii "[" ++ separated (row.map cellToJson) ++ ascii "]"

/-- The JSON of a heading. -/
def headingToJson (p : RichBlockSectionHeading) : Text :=
  ascii "\x7b\"type\":\"heading\",\"text\":\"" ++ escapeJsonString p.text ++ ascii "\",\"size\":2\x7d"

/-- The JSON of a paragraph. -/
def paragraphToJson (p : RichBlockParagraph) : Text :=
  ascii "\x7b\"type\":\"paragraph\",\"text\":\"" ++ escapeJsonString p.text ++ ascii "\"\x7d"

/-- The JSON of preformatted text, with its language if there is one. -/
def preformattedToJson (p : RichBlockPreformatted) : Text :=
  let json := ascii "\x7b\"type\":\"pre\",\"text\":\"" ++ escapeJsonString p.text ++ ascii "\""
  let json :=
    if p.language ≠ [] then
      json ++ (ascii ",\"language\":\"" ++ escapeJsonString p.language ++ ascii "\"")
    else json
  json ++ ascii "\x7d"

/-- The JSON of a table, row by row. -/
def tableToJson (p : RichBlockTable) : Text :=
  let json := ascii "\x7b\"type\":\"table\""
  let json := if p.isBordered then json ++ ascii ",\"is_bordered\":true" else json
  let json := if p.isCompact then json ++ ascii ",\"is_compact\":true" else json
  let json := if p.isStriped then json ++ ascii ",\"is_striped\":true" else json
  json ++ ascii ",\"cells\":[" ++ separated (p.cells.map rowToJson) ++ ascii "]\x7d"

/-- The JSON of a block of buttons, with its alignment as it is. -/
def buttonsToJson (p : RichBlockButtons) : Text :=
  ascii "\x7b\"type\":\"buttons\",\"align\":\"" ++ p.align ++ ascii "\",\"buttons\":[" ++
    separated (p.buttons.map richButtonToJson) ++ ascii "]\x7d"

/-- What `serialize_rich_message_json` writes for a block; nothing for one that it does not know. -/
def blockToJson (block : RichBlock) : Text :=
  match block.type, block.payload with
  | .sectionHeading, .sectionHeading p => headingToJson p
  | .paragraph, .paragraph p => paragraphToJson p
  | .preformatted, .preformatted p => preformattedToJson p
  | .divider, _ => ascii "\x7b\"type\":\"divider\"\x7d"
  | .table, .table p => tableToJson p
  | .buttons, .buttons p => buttonsToJson p
  | _, _ => []

/-- A turn of the loop of `serialize_rich_message_json`; the flag is `first_block`. -/
def appendBlock (out : Text × Bool) (block : RichBlock) : Text × Bool :=
  let blockJson := blockToJson block
  if blockJson ≠ [] then
    ((if !out.2 then out.1 ++ ascii "," else out.1) ++ blockJson, false)
  else out

/-- `serialize_rich_message_json`. -/
def serializeRichMessageJson (msg : InputRichMessage) : Text :=
  (msg.blocks.foldl appendBlock (ascii "\x7b\"blocks\":[", true)).1 ++ ascii "]\x7d"

/-- The texts of the blocks that have one. -/
def blockTexts (blocks : List RichBlock) : List Text := (blocks.map blockToJson).filter (· ≠ [])

/-- A block without JSON is passed over. -/
lemma blockTexts_cons (block : RichBlock) (blocks : List RichBlock) :
    blockTexts (block :: blocks) =
      if blockToJson block = [] then blockTexts blocks
      else blockToJson block :: blockTexts blocks := by
  rw [blockTexts, List.map_cons, List.filter_cons, blockTexts]
  by_cases silent : blockToJson block = [] <;> simp [silent]

/-- The loop writes what there is, with commas between. -/
lemma foldl_appendBlock (blocks : List RichBlock) (out : Text) (first : Bool) :
    (blocks.foldl appendBlock (out, first)).1 =
      out ++ if first then separated (blockTexts blocks)
        else (blockTexts blocks).flatMap (44 :: ·) := by
  induction blocks generalizing out first with
  | nil => cases first <;> exact (List.append_nil _).symm
  | cons block blocks ih =>
    rw [List.foldl_cons, blockTexts_cons]
    by_cases silent : blockToJson block = []
    · rw [appendBlock, if_neg (not_not.mpr silent), ih, if_pos silent]
    · rw [appendBlock, if_pos silent, ih, if_neg silent]
      cases first with
      | true =>
        rw [separated_cons]
        simp
      | false =>
        rw [List.flatMap_cons, List.append_assoc]
        exact (List.append_assoc out (ascii ",") _)

end CppGram.Backend
