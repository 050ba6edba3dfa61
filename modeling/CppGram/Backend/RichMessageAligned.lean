import CppGram.Backend.RichMessageJson
import CppGram.Backend.RichMessageRender

/-!
# Alignments that stay in their strings

`serialize_rich_message_json` writes an alignment between quotes as it is. One that a reader takes for
the inside of a string (`Inside`) is a string of the JSON, if perhaps another one (`unquoted`), and
leaves everything else as it is: `read_inside` says what the text of a message with such alignments is
read as.
-/

namespace CppGram.Backend
open Json

/-- A reader takes the text for the inside of a string, up to the quote behind it. -/
def Inside (s : Text) : Prop := (readString (s ++ [34])).map Prod.snd = some []

instance : DecidablePred Inside := fun _ => inferInstanceAs (Decidable (_ = _))

/-- The string that such a text spells. -/
def unquoted (s : Text) : Text := ((readString (s ++ [34])).map Prod.fst).getD s

/-- The member that comes of an alignment that stays in its string. -/
def unquotedMember (key : String) (s : Text) : List (List UInt8 × Json) :=
  stringMember key (unquoted s)

/-- The inside of a string ends at the quote that is written behind it. -/
lemma Inside.reads {s : Text} (inside : Inside s) (t : Text) :
    readString (s ++ 34 :: t) = some (unquoted s, t) := by
  obtain ⟨⟨bs, rest⟩, read, rfl⟩ := Option.map_eq_some_iff.mp inside
  have whole := readString_append read t
  rw [List.append_assoc] at whole
  rw [unquoted, read]
  exact whole

/-- A plain alignment stays in its string. -/
lemma inside_plain {s : Text} (plain : Plain s) : Inside s := by
  have read := readString_quoted spells_escapeJsonChar s []
  have same := escapeJsonString_plain plain
  rw [escapeJsonString] at same
  rw [same] at read
  rw [Inside, read]
  rfl

/-! ## Members -/

/-- A member with its text. -/
abbrev Spelled := Text × (List UInt8 × Json)

/-- A member as it is printed. -/
def printed (m : List UInt8 × Json) : Spelled :=
  (quoted escapeJsonChar m.1 ++ 58 :: print escapeJsonChar m.2, m)

/-- An alignment as it is written. -/
def spelled (key : String) (s : Text) : Spelled :=
  (quoted escapeJsonChar (ascii key) ++ 58 :: 34 :: (s ++ [34]), member key (.string (unquoted s)))

/-- The texts of members that stand behind another one. -/
def behind (ms : List Spelled) : Text := (ms.map Prod.fst).flatMap (44 :: ·)

@[simp]
lemma behind_append (ms ms' : List Spelled) : behind (ms ++ ms') = behind ms ++ behind ms' := by
  rw [behind, List.map_append, List.flatMap_append, behind, behind]

/-- Printed members behind another one. -/
lemma behind_printed (members : List (List UInt8 × Json)) :
    behind (members.map printed) = following escapeJsonChar members := by
  rw [behind, following, printMembers_eq, List.map_map]
  rfl

/-- A text that ends with members or does not. -/
lemma behind_ite (given : Prop) [Decidable given] {text : Text} {ms : List Spelled}
    (same : text = behind ms) (front : Text) :
    (if given then front ++ text else front) = front ++ behind (if given then ms else []) := by
  split
  · rw [same]
  · exact (List.append_nil _).symm

/-- Each member is read from its text. -/
def Readable (ms : List Spelled) : Prop := ∀ m ∈ ms, DenotesMember m.1 m.2

/-- A member is read if its value is. -/
lemma readable_member (key : String) {text : Text} {j : Json} (value : Denotes text j) :
    Readable [(quoted escapeJsonChar (ascii key) ++ 58 :: text, member key j)] := by
  intro m here
  cases List.mem_singleton.mp here
  exact denotesMember_quoted spells_escapeJsonChar _ value

/-- Printed members are read. -/
lemma readable_printed (members : List (List UInt8 × Json)) : Readable (members.map printed) := by
  intro m inside
  obtain ⟨member, -, rfl⟩ := List.mem_map.mp inside
  exact denotesMember_quoted spells_escapeJsonChar _ (denotes_print spells_escapeJsonChar _)

lemma readable_spelled (key : String) {s : Text} (inside : Inside s) : Readable [spelled key s] :=
  readable_member key (denotes_string inside.reads)

/-- An object is read from the texts of its members. -/
lemma denotes_members {first : Spelled} {others : List Spelled} (here : Readable [first])
    (later : Readable others) :
    Denotes (123 :: (first.1 ++ behind others ++ [125]))
      (.object (first.2 :: others.map Prod.snd)) := by
  have whole := @denotes_object _ Prod.fst Prod.snd (first :: others)
    (List.forall_mem_cons.mpr ⟨here first (List.mem_singleton_self first), later⟩)
  rw [List.map_cons, separated_cons] at whole
  exact whole

/-! ## Blocks -/

/-- An alignment that is written if it is not empty. -/
def spelledIf (key : String) (s : Text) : List Spelled := if s ≠ [] then [spelled key s] else []

/-- An alignment that is written only if it is not empty is read. -/
lemma readable_spelledIf (key : String) {s : Text} (inside : Inside s) :
    Readable (spelledIf key s) := by
  rw [spelledIf]
  split
  · exact readable_spelled key inside
  · exact nofun

/-- The member that such an alignment comes to. -/
lemma snd_spelledIf (key : String) (s : Text) :
    (spelledIf key s).map Prod.snd = if s ≠ [] then unquotedMember key s else [] := by
  rw [spelledIf]
  split <;> rfl

/-- Printed members are read as what they were. -/
lemma snd_printed (members : List (List UInt8 × Json)) :
    (members.map printed).map Prod.snd = members := by
  rw [List.map_map]
  exact List.map_id members

/-- A cell is read as its value, with the alignments unquoted. -/
lemma denotes_cell (cell : RichBlockTableCell) (align : Inside cell.align)
    (valign : Inside cell.valign) :
    Denotes (cellToJson cell) (cellValue unquotedMember cell) := by
  have whole := denotes_members (readable_printed [member "text" (cellTextValue cell)])
    (List.forall_mem_append.mpr ⟨List.forall_mem_append.mpr
      ⟨readable_printed (flagMember "is_header" cell.isHeader), readable_spelledIf "align" align⟩,
      readable_spelledIf "valign" valign⟩)
  have header := following_flagMember "is_header" (ascii ",\"is_header\":true") rfl
  have alignText : ascii ",\"align\":\"" ++ cell.align ++ ascii "\"" =
      behind [spelled "align" cell.align] := (List.append_nil _).symm
  have valignText : ascii ",\"valign\":\"" ++ cell.valign ++ ascii "\"" =
      behind [spelled "valign" cell.valign] := (List.append_nil _).symm
  have text : cellToJson cell = 123 :: ((printed (member "text" (cellTextValue cell))).1 ++
      behind ((flagMember "is_header" cell.isHeader).map printed ++ spelledIf "align" cell.align ++
        spelledIf "valign" cell.valign) ++ [125]) := by
    rw [cellToJson, cellTextToJson_eq]
    simp only [header, behind_ite _ alignText, behind_ite _ valignText]
    simp only [behind_append, behind_printed, spelledIf, List.append_assoc]
    rfl
  rw [text, cellValue]
  simp only [List.map_append, snd_printed, snd_spelledIf] at whole
  exact whole

/-- A row is read as the values of its cells, with the alignments unquoted. -/
lemma denotes_row (row : List RichBlockTableCell)
    (inside : ∀ cell ∈ row, Inside cell.align ∧ Inside cell.valign) :
    Denotes (rowToJson row) (.array (row.map (cellValue unquotedMember))) := by
  rw [rowToJson, List.append_assoc]
  exact denotes_array fun cell there => denotes_cell cell (inside cell there).1 (inside cell there).2

/-- A table is read as its value, with the alignments unquoted. -/
lemma denotes_table (p : RichBlockTable)
    (inside : ∀ row ∈ p.cells, ∀ cell ∈ row, Inside cell.align ∧ Inside cell.valign) :
    Denotes (tableToJson p) (tableValue unquotedMember p) := by
  have rows := denotes_array fun row (there : row ∈ p.cells) => denotes_row row (inside row there)
  let flags := flagMember "is_bordered" p.isBordered ++ flagMember "is_compact" p.isCompact ++
    flagMember "is_striped" p.isStriped
  let cells : Spelled := (quoted escapeJsonChar (ascii "cells") ++
      58 :: 91 :: (separated (p.cells.map rowToJson) ++ [93]),
    member "cells" (.array (p.cells.map fun row => .array (row.map (cellValue unquotedMember)))))
  have whole := denotes_members (readable_printed [member "type" (.string (ascii "table"))])
    (List.forall_mem_append.mpr ⟨readable_printed flags, readable_member "cells" rows⟩)
  have bordered := following_flagMember "is_bordered" (ascii ",\"is_bordered\":true") rfl
  have compact := following_flagMember "is_compact" (ascii ",\"is_compact\":true") rfl
  have striped := following_flagMember "is_striped" (ascii ",\"is_striped\":true") rfl
  have text : tableToJson p = 123 :: ((printed (member "type" (.string (ascii "table")))).1 ++
      behind (flags.map printed ++ [cells]) ++ [125]) := by
    rw [tableToJson]
    simp only [bordered, compact, striped]
    simp only [flags, behind_append, behind_printed, following_append, List.append_assoc]
    simp only [behind, cells, List.map_cons, List.map_nil, List.flatMap_cons, List.flatMap_nil,
      List.append_assoc, List.cons_append, List.nil_append]
    rfl
  rw [text, tableValue]
  simp only [List.map_append, snd_printed] at whole
  exact whole

/-- A block of buttons is read as its value, with the alignment unquoted. -/
lemma denotes_buttons (p : RichBlockButtons) (inside : Inside p.align) :
    Denotes (buttonsToJson p) (buttonsValue unquotedMember p) := by
  let buttons := member "buttons" (.array (p.buttons.map richButtonValue))
  have whole := denotes_members (readable_printed [member "type" (.string (ascii "buttons"))])
    (List.forall_mem_append.mpr ⟨readable_spelled "align" inside, readable_printed [buttons]⟩)
  have array : 91 :: (separated (p.buttons.map richButtonToJson) ++ [93]) =
      print escapeJsonChar (.array (p.buttons.map richButtonValue)) :=
    print_array_map fun btn _ => richButtonToJson_eq btn
  have text : buttonsToJson p = 123 :: ((printed (member "type" (.string (ascii "buttons")))).1 ++
      behind ([spelled "align" p.align] ++ [buttons].map printed) ++ [125]) := by
    rw [buttonsToJson]
    simp only [behind, buttons, spelled, printed, member, ← array, List.map_cons, List.map_nil,
      List.flatMap_cons, List.flatMap_nil, List.append_assoc, List.cons_append, List.nil_append]
    rfl
  rw [text, buttonsValue]
  exact whole

/-- The text of a block with a place in the JSON is read as its value. -/
lemma denotes_block {block : RichBlock} {value : Json} (inside : ∀ s ∈ block.aligns, Inside s)
    (valued : blockValue unquotedMember block = some value) : Denotes (blockToJson block) value := by
  have sent := (isSome_blockValue_iff block).mp (Option.isSome_of_eq_some valued)
  have unaligned (none : block.aligns = []) : Denotes (blockToJson block) value := by
    rw [@blockToJson_eq unquotedMember block (by rw [none]; nofun), valued]
    exact denotes_print spells_escapeJsonChar value
  cases sent with
  | table p =>
    cases valued
    refine denotes_table p fun row rowInside cell there => ?_
    have written (s) (this : s = cell.align ∨ s = cell.valign) :
        s ∈ (RichBlock.mk .table (.table p)).aligns :=
      List.mem_flatMap.mpr ⟨cell, List.mem_flatten.mpr ⟨row, rowInside, there⟩, by simpa using this⟩
    exact ⟨inside _ (written _ (.inl rfl)), inside _ (written _ (.inr rfl))⟩
  | buttons p =>
    cases valued
    exact denotes_buttons p (inside p.align (List.mem_singleton_self _))
  | heading | paragraph | preformatted | divider => exact unaligned rfl

/-- The texts of the blocks are those of the values. -/
lemma blockTexts_eq {blocks : List RichBlock} (inside : ∀ block ∈ blocks, ∀ s ∈ block.aligns, Inside s) :
    ∃ items : List (Text × Json), blockTexts blocks = items.map Prod.fst ∧
      blocks.filterMap (blockValue unquotedMember) = items.map Prod.snd ∧
      ∀ item ∈ items, Denotes item.1 item.2 := by
  induction blocks with
  | nil => exact ⟨[], rfl, rfl, nofun⟩
  | cons block blocks ih =>
    obtain ⟨here, inside⟩ := List.forall_mem_cons.mp inside
    obtain ⟨items, texts, values, denotes⟩ := ih inside
    rw [blockTexts_cons, List.filterMap_cons]
    cases valued : blockValue unquotedMember block with
    | none =>
      have unknown : ¬ Sent block := fun sent => by
        have := (@isSome_blockValue_iff unquotedMember block).mpr sent
        rw [valued] at this
        cases this
      rw [if_pos (nothing_of_not_sent unknown).1]
      exact ⟨items, texts, values, denotes⟩
    | some value =>
      have first := denotes_block here valued
      obtain ⟨c, rest, begins, -⟩ := first.head
      rw [if_neg (begins ▸ List.cons_ne_nil c rest), texts, values]
      exact ⟨(blockToJson block, value) :: items, rfl, rfl, List.forall_mem_cons.mpr ⟨first, denotes⟩⟩

/-! ## Messages -/

/-- The text of a message whose alignments stay in their strings. -/
lemma denotes_message (msg : InputRichMessage) (inside : ∀ s ∈ msg.aligns, Inside s) :
    Denotes (serializeRichMessageJson msg) (messageValue unquotedMember msg) := by
  obtain ⟨items, texts, values, denotes⟩ := blockTexts_eq fun block there s here =>
    inside s (List.mem_flatMap.mpr ⟨block, there, here⟩)
  have whole := denotes_members (readable_member "blocks" (denotes_array denotes))
    (show Readable [] from nofun)
  rw [serializeRichMessageJson, foldl_appendBlock, if_pos rfl, texts, messageValue, blocksValue, values]
  simp only [behind, List.map_nil, List.flatMap_nil, List.append_assoc, List.cons_append] at whole ⊢
  exact whole

/-- The payload of `sendRichMessage` for such a message. -/
lemma denotes_richMessagePayload (chatId : ChatId) (msg : InputRichMessage)
    (inside : ∀ s ∈ msg.aligns, Inside s) :
    Denotes (Sending.richMessagePayload chatId msg)
      (.object [member "chat_id" (.number chatId.toInt),
        member "rich_message" (messageValue unquotedMember msg)]) := by
  have whole := denotes_members (readable_printed [member "chat_id" (.number chatId.toInt)])
    (readable_member "rich_message" (denotes_message msg inside))
  rw [Sending.richMessagePayload]
  simp only [behind, List.map_cons, List.map_nil, List.flatMap_cons, List.flatMap_nil, printed,
    member, print, List.append_assoc, List.cons_append, List.nil_append] at whole ⊢
  exact whole

end CppGram.Backend
