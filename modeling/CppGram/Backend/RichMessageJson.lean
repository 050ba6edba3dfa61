import CppGram.Backend.RichMessage

/-!
# What a rich message says in JSON

`blockValue` is the JSON value of a block and `messageValue` that of a message. The text that
`serialize_rich_message_json` writes is the text of the value (`serializeRichMessageJson_eq`), if what it
writes of the alignments, which it does not escape, is the text of members.
-/

namespace CppGram.Backend
open Json

/-! ## Values -/

/-- An object with a type. -/
def typed (type : String) (members : List (List UInt8 × Json)) : Json :=
  .object (member "type" (.string (ascii type)) :: members)

/-- The members for what a button does. -/
def actionMembers (btn : RichMessageButton) : List (List UInt8 × Json) :=
  match btn.callbackData, btn.url with
  | some data, _ => [member "callback_data" (.string data)]
  | none, some url => [member "url" (.string url)]
  | none, none => []

/-- The value of a button: its text and what it does. -/
def richButtonValue (btn : RichMessageButton) : Json :=
  .object (member "text" (.string btn.text) :: actionMembers btn)

/-- The value under `text` in a cell. -/
def cellTextValue (cell : RichBlockTableCell) : Json :=
  match cell.button, cell.customEmojiId with
  | some button, _ => typed "button" [member "button" (richButtonValue button)]
  | none, some emojiId =>
    typed "custom_emoji" [member "custom_emoji_id" (.string emojiId),
      member "alternative_text" (.string cell.text)]
  | none, none =>
    if cell.isBold then typed "bold" [member "text" (.string cell.text)]
    else if cell.isCode then typed "code" [member "text" (.string cell.text)]
    else .string cell.text

/-- A member that is there if a flag is set. -/
def flagMember (key : String) (set : Bool) : List (List UInt8 × Json) :=
  if set then [member key (.bool true)] else []

/-- The member of a string. -/
def stringMember (key : String) (s : Text) : List (List UInt8 × Json) := [member key (.string s)]

section

-- The members that come of an alignment, which is more than one if it closes its string.
variable (aligned : String → Text → List (List UInt8 × Json))

/-- The value of a cell; the alignments are there if they are not empty. -/
def cellValue (cell : RichBlockTableCell) : Json :=
  .object (member "text" (cellTextValue cell) ::
    (flagMember "is_header" cell.isHeader ++
      (if cell.align ≠ [] then aligned "align" cell.align else []) ++
      (if cell.valign ≠ [] then aligned "valign" cell.valign else [])))

/-- The value of a heading. -/
def headingValue (p : RichBlockSectionHeading) : Json :=
  typed "heading" [member "text" (.string p.text), member "size" (.number 2)]

/-- The value of a paragraph. -/
def paragraphValue (p : RichBlockParagraph) : Json :=
  typed "paragraph" [member "text" (.string p.text)]

/-- The value of preformatted text; the language is there if it is not empty. -/
def preformattedValue (p : RichBlockPreformatted) : Json :=
  typed "pre" (member "text" (.string p.text) ::
    if p.language ≠ [] then stringMember "language" p.language else [])

/-- The value of a table, row by row. -/
def tableValue (p : RichBlockTable) : Json :=
  typed "table" (flagMember "is_bordered" p.isBordered ++ flagMember "is_compact" p.isCompact ++
    flagMember "is_striped" p.isStriped ++
    [member "cells" (.array (p.cells.map fun row => .array (row.map (cellValue aligned))))])

/-- The value of a block of buttons; its alignment is always there. -/
def buttonsValue (p : RichBlockButtons) : Json :=
  typed "buttons" (aligned "align" p.align ++
    [member "buttons" (.array (p.buttons.map richButtonValue))])

/-- The value of a block, if there is one. -/
def blockValue (block : RichBlock) : Option Json :=
  match block.type, block.payload with
  | .sectionHeading, .sectionHeading p => some (headingValue p)
  | .paragraph, .paragraph p => some (paragraphValue p)
  | .preformatted, .preformatted p => some (preformattedValue p)
  | .divider, _ => some (typed "divider" [])
  | .table, .table p => some (tableValue aligned p)
  | .buttons, .buttons p => some (buttonsValue aligned p)
  | _, _ => none

/-- The value of blocks. -/
def blocksValue (items : List Json) : Json := .object [member "blocks" (.array items)]

/-- The value of a message. -/
def messageValue (msg : InputRichMessage) : Json :=
  blocksValue (msg.blocks.filterMap (blockValue aligned))

end

/-- The blocks that have a place in the JSON. -/
inductive Sent : RichBlock → Prop
  | heading (p) : Sent ⟨.sectionHeading, .sectionHeading p⟩
  | paragraph (p) : Sent ⟨.paragraph, .paragraph p⟩
  | preformatted (p) : Sent ⟨.preformatted, .preformatted p⟩
  | divider (payload) : Sent ⟨.divider, payload⟩
  | table (p) : Sent ⟨.table, .table p⟩
  | buttons (p) : Sent ⟨.buttons, .buttons p⟩

/-- The alignments that are written for a block. -/
def RichBlock.aligns (block : RichBlock) : List Text :=
  match block.type, block.payload with
  | .table, .table p => p.cells.flatten.flatMap fun cell => [cell.align, cell.valign]
  | .buttons, .buttons p => [p.align]
  | _, _ => []

/-- The alignments that are written for a message. -/
def InputRichMessage.aligns (msg : InputRichMessage) : List Text :=
  msg.blocks.flatMap RichBlock.aligns

/-- A string without quotes, backslashes and control characters. -/
def Plain (s : Text) : Prop := ∀ c ∈ s, c ≠ 34 ∧ c ≠ 92 ∧ ¬ c < 32

instance : DecidablePred Plain := fun s =>
  List.decidableBAll (fun c => c ≠ 34 ∧ c ≠ 92 ∧ ¬ c < 32) s

/-! ## What is written -/

section

variable {aligned : String → Text → List (List UInt8 × Json)}

/-- An alignment as it is written is the text of its members. -/
def Spelt (aligned : String → Text → List (List UInt8 × Json)) (s : Text) : Prop :=
  ∀ key, following escapeJsonChar (aligned key s) =
    44 :: (quoted escapeJsonChar (ascii key) ++ 58 :: 34 :: (s ++ [34]))

/-- A plain string is written as it is. -/
lemma escapeJsonString_plain {s : Text} (plain : Plain s) : escapeJsonString s = s := by
  induction s with
  | nil => rfl
  | cons c s ih =>
    obtain ⟨⟨quote, backslash, printable⟩, plain⟩ := List.forall_mem_cons.mp plain
    rw [escapeJsonString, List.flatMap_cons, ← escapeJsonString, ih plain,
      escapeJsonChar_plain quote backslash printable, List.singleton_append]

/-- A plain alignment is one member. -/
lemma spelt_plain {s : Text} (plain : Plain s) : Spelt stringMember s := by
  intro key
  have same := escapeJsonString_plain plain
  rw [escapeJsonString] at same
  rw [stringMember, member, following_singleton, print, quoted, quoted, same]

/-- An object whose first member is its type. -/
lemma print_typed (type : String) (members : List (List UInt8 × Json)) :
    print escapeJsonChar (typed type members) =
      123 :: (quoted escapeJsonChar (ascii "type") ++ 58 :: quoted escapeJsonChar (ascii type) ++
        following escapeJsonChar members ++ [125]) := by
  rw [typed, member, print_object_cons, print]

/-- What a button does is printed like the members of its value. -/
lemma actionToJson_eq (btn : RichMessageButton) :
    actionToJson btn = following escapeJsonChar (actionMembers btn) := by
  rw [actionToJson, actionMembers]
  cases btn.callbackData with
  | some data =>
    simp only [member, following_singleton, print, quoted, escapeJsonString, List.append_assoc]
    rfl
  | none =>
    cases btn.url with
    | some url =>
      simp only [member, following_singleton, print, quoted, escapeJsonString, List.append_assoc]
      rfl
    | none => exact following_nil.symm

/-- A button is written as its value is printed. -/
lemma richButtonToJson_eq (btn : RichMessageButton) :
    richButtonToJson btn = print escapeJsonChar (richButtonValue btn) := by
  rw [richButtonToJson, actionToJson_eq, richButtonValue, member, print_object_cons, print]
  simp only [quoted, escapeJsonString, List.append_assoc, List.cons_append, List.nil_append]
  rfl

/-- The text of a cell, with its name. -/
lemma cellTextToJson_eq (cell : RichBlockTableCell) :
    cellTextToJson cell =
      quoted escapeJsonChar (ascii "text") ++ 58 :: print escapeJsonChar (cellTextValue cell) := by
  rw [cellTextToJson, cellTextValue]
  cases cell.button with
  | some button =>
    simp only [richButtonToJson_eq, print_typed, member, following_singleton, quoted,
      List.append_assoc, List.cons_append, List.nil_append]
    rfl
  | none =>
    cases cell.customEmojiId with
    | some emojiId =>
      simp only [print_typed, member, following_cons, following_nil, print, quoted,
        escapeJsonString, List.append_assoc, List.cons_append, List.nil_append]
      rfl
    | none =>
      simp only
      split_ifs
      all_goals
        simp only [print_typed, member, following_singleton, print, quoted, escapeJsonString,
          List.append_assoc, List.cons_append, List.nil_append]
        rfl

/-- A flag that is written if it is set. -/
lemma following_flagMember (key : String) (text : Text)
    (spelt : text = 44 :: (quoted escapeJsonChar (ascii key) ++ 58 :: ascii "true")) (set : Bool)
    (front : Text) :
    (if set then front ++ text else front) =
      front ++ following escapeJsonChar (flagMember key set) :=
  following_ite set (following_flag spelt) front

/-- A cell is written as its value is printed, if the alignments are spelt as they are written. -/
lemma cellToJson_eq (cell : RichBlockTableCell) (align : Spelt aligned cell.align)
    (valign : Spelt aligned cell.valign) :
    cellToJson cell = print escapeJsonChar (cellValue aligned cell) := by
  have header := following_flagMember "is_header" (ascii ",\"is_header\":true") rfl
  have alignText : ascii ",\"align\":\"" ++ cell.align ++ ascii "\"" =
      following escapeJsonChar (aligned "align" cell.align) := (align "align").symm
  have valignText : ascii ",\"valign\":\"" ++ cell.valign ++ ascii "\"" =
      following escapeJsonChar (aligned "valign" cell.valign) := (valign "valign").symm
  rw [cellToJson, cellValue, member, print_object_cons, cellTextToJson_eq]
  simp only [header, following_ite _ alignText, following_ite _ valignText]
  simp only [following_append, List.append_assoc]
  rfl

/-- A row is written as its value is printed, if the alignments are spelt as they are written. -/
lemma rowToJson_eq (row : List RichBlockTableCell)
    (spelt : ∀ cell ∈ row, Spelt aligned cell.align ∧ Spelt aligned cell.valign) :
    rowToJson row = print escapeJsonChar (.array (row.map (cellValue aligned))) := by
  rw [rowToJson, ← print_array_map fun cell inside =>
    cellToJson_eq cell (spelt cell inside).1 (spelt cell inside).2, List.append_assoc]
  rfl

/-- A heading is written as its value is printed. -/
lemma headingToJson_eq (p : RichBlockSectionHeading) :
    headingToJson p = print escapeJsonChar (headingValue p) := by
  rw [headingToJson, headingValue, print_typed, member, member, following_cons, following_singleton,
    print, print]
  simp only [quoted, escapeJsonString, List.append_assoc, List.cons_append, List.nil_append]
  rfl

/-- A paragraph is written as its value is printed. -/
lemma paragraphToJson_eq (p : RichBlockParagraph) :
    paragraphToJson p = print escapeJsonChar (paragraphValue p) := by
  rw [paragraphToJson, paragraphValue, print_typed, member, following_singleton, print]
  simp only [quoted, escapeJsonString, List.append_assoc, List.cons_append, List.nil_append]
  rfl

/-- Preformatted text is written as its value is printed. -/
lemma preformattedToJson_eq (p : RichBlockPreformatted) :
    preformattedToJson p = print escapeJsonChar (preformattedValue p) := by
  have language : ascii ",\"language\":\"" ++ escapeJsonString p.language ++ ascii "\"" =
      following escapeJsonChar (stringMember "language" p.language) := by
    rw [stringMember, member, following_singleton, print]
    simp only [quoted, escapeJsonString, List.append_assoc]
    rfl
  rw [preformattedToJson, preformattedValue, print_typed, member, following_cons, print]
  simp only [following_ite _ language]
  simp only [quoted, escapeJsonString, List.append_assoc, List.cons_append, List.nil_append]
  rfl

/-- A table is written as its value is printed, if the alignments are spelt as they are written. -/
lemma tableToJson_eq (p : RichBlockTable)
    (spelt : ∀ row ∈ p.cells, ∀ cell ∈ row, Spelt aligned cell.align ∧ Spelt aligned cell.valign) :
    tableToJson p = print escapeJsonChar (tableValue aligned p) := by
  have cells : 91 :: (separated (p.cells.map rowToJson) ++ [93]) =
      print escapeJsonChar (.array (p.cells.map fun row => .array (row.map (cellValue aligned)))) :=
    print_array_map fun row inside => rowToJson_eq row (spelt row inside)
  have bordered :=
    following_flagMember "is_bordered" (ascii ",\"is_bordered\":true") rfl
  have compact := following_flagMember "is_compact" (ascii ",\"is_compact\":true") rfl
  have striped := following_flagMember "is_striped" (ascii ",\"is_striped\":true") rfl
  rw [tableToJson, tableValue, print_typed]
  simp only [bordered, compact, striped]
  simp only [following_append, member, following_singleton, ← cells, List.append_assoc,
    List.cons_append, List.nil_append]
  rfl

/-- A block of buttons is written as its value is printed, if the alignment is spelt as it is written. -/
lemma buttonsToJson_eq (p : RichBlockButtons) (spelt : Spelt aligned p.align) :
    buttonsToJson p = print escapeJsonChar (buttonsValue aligned p) := by
  have align : ascii ",\"align\":\"" ++ p.align ++ ascii "\"" =
      following escapeJsonChar (aligned "align" p.align) := (spelt "align").symm
  have buttons : 91 :: (separated (p.buttons.map richButtonToJson) ++ [93]) =
      print escapeJsonChar (.array (p.buttons.map richButtonValue)) :=
    print_array_map fun btn _ => richButtonToJson_eq btn
  rw [buttonsToJson, buttonsValue, print_typed]
  simp only [following_append, member, following_singleton, ← align, ← buttons, quoted,
    List.append_assoc, List.cons_append, List.nil_append]
  rfl

/-- A block that has no place in the JSON is passed over. -/
lemma nothing_of_not_sent {block : RichBlock} (unknown : ¬ Sent block) :
    blockToJson block = [] ∧ block.aligns = [] ∧ ∀ aligned, blockValue aligned block = none := by
  obtain ⟨type, payload⟩ := block
  refine ⟨?_, ?_, fun aligned => ?_⟩
  all_goals
    simp only [blockToJson, blockValue, RichBlock.aligns]
    split
    all_goals first | rfl | exact absurd (by constructor) unknown

/-- The text of a block is that of its value, if it has one. -/
lemma blockToJson_eq (block : RichBlock) (spelt : ∀ s ∈ block.aligns, Spelt aligned s) :
    blockToJson block = ((blockValue aligned block).map (print escapeJsonChar)).getD [] := by
  by_cases sent : Sent block
  · cases sent with
    | heading p => exact headingToJson_eq p
    | paragraph p => exact paragraphToJson_eq p
    | preformatted p => exact preformattedToJson_eq p
    | divider payload =>
      change _ = print escapeJsonChar (typed "divider" [])
      rw [print_typed, following_nil]
      rfl
    | table p =>
      refine tableToJson_eq p fun row rowInside cell inside => ?_
      have written (s) (this : s = cell.align ∨ s = cell.valign) :
          s ∈ (RichBlock.mk .table (.table p)).aligns :=
        List.mem_flatMap.mpr ⟨cell, List.mem_flatten.mpr ⟨row, rowInside, inside⟩, by simpa using this⟩
      exact ⟨spelt _ (written _ (.inl rfl)), spelt _ (written _ (.inr rfl))⟩
    | buttons p => exact buttonsToJson_eq p (spelt p.align (List.mem_singleton_self _))
  · obtain ⟨text, -, value⟩ := nothing_of_not_sent sent
    rw [text, value]
    rfl

/-- Exactly the blocks of some types have a value. -/
lemma isSome_blockValue_iff (block : RichBlock) :
    (blockValue aligned block).isSome ↔ Sent block := by
  constructor
  · intro isSome
    by_contra unknown
    rw [(nothing_of_not_sent unknown).2.2] at isSome
    cases isSome
  · intro sent
    cases sent <;> rfl

/-- The text of a message is that of its value. -/
lemma serializeRichMessageJson_eq (msg : InputRichMessage)
    (spelt : ∀ s ∈ msg.aligns, Spelt aligned s) :
    serializeRichMessageJson msg = print escapeJsonChar (messageValue aligned msg) := by
  have texts (blocks : List RichBlock)
      (spelt : ∀ block ∈ blocks, ∀ s ∈ block.aligns, Spelt aligned s) :
      blockTexts blocks = (blocks.filterMap (blockValue aligned)).map (print escapeJsonChar) := by
    induction blocks with
    | nil => rfl
    | cons block blocks ih =>
      obtain ⟨here, spelt⟩ := List.forall_mem_cons.mp spelt
      rw [blockTexts_cons, blockToJson_eq block here, List.filterMap_cons, ih spelt]
      cases blockValue aligned block with
      | none => rfl
      | some j => exact if_neg (print_ne_nil _ j)
  have written := texts msg.blocks fun block inside s there =>
    spelt s (List.mem_flatMap.mpr ⟨block, inside, there⟩)
  rw [serializeRichMessageJson, foldl_appendBlock, if_pos rfl, written, messageValue, blocksValue,
    member, print_object_cons, following_nil, print, printItems_eq]
  simp only [List.append_assoc, List.cons_append]
  rfl

end

/-- The JSON text of a message whose alignments are plain says what the message says: an object for each
    block that has a place in it, in order, with the strings, the shape and the flags of the block. -/
theorem read_serializeRichMessageJson (msg : InputRichMessage)
    (plain : ∀ s ∈ msg.aligns, Plain s) :
    read (serializeRichMessageJson msg) = some (messageValue stringMember msg) ∧
      ∀ block, (blockValue stringMember block).isSome ↔ Sent block := by
  refine ⟨?_, isSome_blockValue_iff⟩
  rw [serializeRichMessageJson_eq msg fun s inside => spelt_plain (plain s inside)]
  exact read_print spells_escapeJsonChar _

/-- Two blocks with a place in the JSON, one without, and a cell with a quote in its text. -/
theorem read_serializeRichMessageJson_table :
    read (serializeRichMessageJson { blocks := [⟨.divider, .paragraph {}⟩, ⟨.footer, .divider⟩,
        ⟨.table, .table { cells := [[{ text := ascii "\"\x7d" }], []], isStriped := true }⟩] }) =
      some (.object [member "blocks" (.array [typed "divider" [],
        typed "table" [member "is_bordered" (.bool true), member "is_striped" (.bool true),
          member "cells" (.array [.array [.object [member "text" (.string (ascii "\"\x7d")),
            member "align" (.string (ascii "left")), member "valign" (.string (ascii "middle"))]],
            .array []])]])]) :=
  (read_serializeRichMessageJson _ (by decide)).1

end CppGram.Backend
