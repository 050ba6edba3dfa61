import CppGram.Backend.RichMessageJson

/-!
# Strings in rich messages

What is asked of `serialize_rich_message_json` is that other strings in the place of those of a message
never change the structure of the JSON (`SameStructure`). They do if a message has an alignment, which is
not escaped; `structure_kept_iff` says that nothing else can.
-/

namespace CppGram.Backend
open Json

/-! ## Messages with other strings -/

section

variable (f : Text → Text)

/-- Applies a function to each string of a button. -/
def RichMessageButton.mapStrings (btn : RichMessageButton) : RichMessageButton :=
  { btn with
    text := f btn.text
    style := f btn.style
    url := btn.url.map f
    callbackData := btn.callbackData.map f
    copyText := btn.copyText.map f }

/-- Applies a function to each string of a cell. -/
def RichBlockTableCell.mapStrings (cell : RichBlockTableCell) : RichBlockTableCell :=
  { cell with
    text := f cell.text
    align := f cell.align
    valign := f cell.valign
    button := cell.button.map (·.mapStrings f)
    customEmojiId := cell.customEmojiId.map f }

/-- Applies a function to each string of a table. -/
def RichBlockTable.mapStrings (p : RichBlockTable) : RichBlockTable :=
  { p with
    cells := p.cells.map (·.map (·.mapStrings f))
    caption := p.caption.map f }

/-- Applies a function to each string of a payload. -/
def RichBlockPayload.mapStrings : RichBlockPayload → RichBlockPayload
  | .paragraph p => .paragraph ⟨f p.text⟩
  | .sectionHeading p => .sectionHeading ⟨f p.text⟩
  | .preformatted p => .preformatted ⟨f p.text, f p.language⟩
  | .divider => .divider
  | .table p => .table (p.mapStrings f)
  | .expandableBlockQuotation p => .expandableBlockQuotation ⟨f p.text, p.credit.map f⟩
  | .buttons p => .buttons ⟨p.buttons.map (·.mapStrings f), f p.align⟩
  | .document p => .document ⟨f p.document, p.caption.map f⟩
  | .thinking p => .thinking ⟨f p.text⟩

/-- Applies a function to each string of a block. -/
def RichBlock.mapStrings (block : RichBlock) : RichBlock :=
  { block with payload := block.payload.mapStrings f }

/-- A message with each of its strings changed. -/
def InputRichMessage.mapStrings (msg : InputRichMessage) : InputRichMessage :=
  { msg with
    html := msg.html.map f
    markdown := msg.markdown.map f
    blocks := msg.blocks.map (·.mapStrings f)
    media := msg.media.map fun m => ⟨f m.id, f m.media⟩ }

end

/-- The same string in the place of every one that is not empty. -/
def fill (t s : Text) : Text := if s = [] then [] else t

/-- Messages that differ in the contents of strings only, and not in which of them are empty. -/
def Alike (msg msg' : InputRichMessage) : Prop :=
  msg.mapStrings (fill [0]) = msg'.mapStrings (fill [0])

/-- Both texts are JSON, with the same structure. -/
def SameStructure (msg msg' : InputRichMessage) : Prop :=
  ∃ value value', read (serializeRichMessageJson msg) = some value ∧
    read (serializeRichMessageJson msg') = some value' ∧ value.shape = value'.shape

section

variable {f g : Text → Text}

@[simp]
lemma RichMessageButton.mapStrings_mapStrings (btn : RichMessageButton) :
    (btn.mapStrings f).mapStrings g = btn.mapStrings (g ∘ f) := by
  simp [RichMessageButton.mapStrings]

@[simp]
lemma RichBlockTableCell.mapStrings_mapStrings (cell : RichBlockTableCell) :
    (cell.mapStrings f).mapStrings g = cell.mapStrings (g ∘ f) := by
  simp [RichBlockTableCell.mapStrings, Function.comp_def]

@[simp]
lemma RichBlock.mapStrings_mapStrings (block : RichBlock) :
    (block.mapStrings f).mapStrings g = block.mapStrings (g ∘ f) := by
  obtain ⟨type, payload⟩ := block
  cases payload <;>
    simp [RichBlock.mapStrings, RichBlockPayload.mapStrings, RichBlockTable.mapStrings,
      Function.comp_def]

lemma InputRichMessage.mapStrings_mapStrings (msg : InputRichMessage) :
    (msg.mapStrings f).mapStrings g = msg.mapStrings (g ∘ f) := by
  simp [InputRichMessage.mapStrings, Function.comp_def]

/-! ## What is the same in all of them -/

/-- Strings do not decide whether a block has a place in the JSON. -/
lemma sent_mapStrings {block : RichBlock} : Sent (block.mapStrings f) ↔ Sent block := by
  obtain ⟨type, payload⟩ := block
  constructor
  · intro sent
    cases payload <;> cases sent <;> constructor
  · intro sent
    cases sent <;> constructor

/-- The alignments of a block with its strings replaced. -/
lemma RichBlock.aligns_mapStrings (block : RichBlock) :
    (block.mapStrings f).aligns = block.aligns.map f := by
  by_cases sent : Sent block
  · cases sent with
    | table p =>
      simp [RichBlock.mapStrings, RichBlockPayload.mapStrings, RichBlockTable.mapStrings, aligns,
        RichBlockTableCell.mapStrings, List.map_flatMap, List.flatMap_map, ← List.map_flatten]
    | _ => rfl
  · rw [(nothing_of_not_sent sent).2.1, (nothing_of_not_sent (mt sent_mapStrings.mp sent)).2.1,
      List.map_nil]

/-- The alignments of a message with its strings replaced. -/
lemma InputRichMessage.aligns_mapStrings (msg : InputRichMessage) :
    (msg.mapStrings f).aligns = msg.aligns.map f := by
  rw [aligns, aligns, mapStrings, List.flatMap_map, List.map_flatMap]
  exact List.flatMap_congr fun block _ => block.aligns_mapStrings

/-- The strings of a button are not in its shape. -/
lemma shape_richButtonValue (btn : RichMessageButton) :
    (richButtonValue (btn.mapStrings f)).shape = (richButtonValue btn).shape := by
  simp only [richButtonValue, actionMembers, RichMessageButton.mapStrings]
  cases btn.callbackData <;> cases btn.url <;> simp [member]

/-- The strings of a cell are not in the shape of its text. -/
lemma shape_cellTextValue (cell : RichBlockTableCell) :
    (cellTextValue (cell.mapStrings f)).shape = (cellTextValue cell).shape := by
  simp only [cellTextValue, RichBlockTableCell.mapStrings]
  cases cell.button with
  | some btn => simp [typed, member, shape_richButtonValue]
  | none =>
    cases cell.customEmojiId with
    | some emojiId => simp [typed, member]
    | none =>
      simp only [Option.map_none]
      by_cases bold : cell.isBold = true
      · simp [bold, typed, member]
      · by_cases code : cell.isCode = true <;> simp [bold, code, typed, member]

section

variable (keeps : ∀ s, f s = [] ↔ s = [])
include keeps

/-- The strings of a cell are not in its shape, as long as none gets or stops being empty. -/
lemma shape_cellValue (cell : RichBlockTableCell) :
    (cellValue stringMember (cell.mapStrings f)).shape = (cellValue stringMember cell).shape := by
  have text := shape_cellTextValue (f := f) cell
  simp only [cellValue, RichBlockTableCell.mapStrings, shape_object, List.map_cons, List.map_append,
    member] at text ⊢
  rw [text]
  simp only [ne_eq, keeps]
  split_ifs <;> simp [stringMember, member]

/-- The strings of a table are not in its shape, as long as none gets or stops being empty. -/
lemma shape_tableValue (p : RichBlockTable) :
    (tableValue stringMember (p.mapStrings f)).shape = (tableValue stringMember p).shape := by
  simp [tableValue, typed, RichBlockTable.mapStrings, member, shape_cellValue keeps,
    Function.comp_def]

/-- The strings of a block are not in its shape, as long as none gets or stops being empty. -/
lemma shape_blockValue (block : RichBlock) :
    (blockValue stringMember (block.mapStrings f)).map shape =
      (blockValue stringMember block).map shape := by
  by_cases sent : Sent block
  · cases sent with
    | heading p | paragraph p =>
      simp [RichBlock.mapStrings, RichBlockPayload.mapStrings, blockValue, headingValue,
        paragraphValue, typed, member]
    | preformatted p =>
      simp only [RichBlock.mapStrings, RichBlockPayload.mapStrings, blockValue, preformattedValue,
        ne_eq, keeps]
      split_ifs <;> simp [typed, stringMember, member]
    | divider payload => rfl
    | table p => exact congrArg some (shape_tableValue keeps p)
    | buttons p =>
      simp [RichBlock.mapStrings, RichBlockPayload.mapStrings, blockValue, buttonsValue, typed,
        stringMember, member, shape_richButtonValue]
  · rw [(nothing_of_not_sent sent).2.2, (nothing_of_not_sent (mt sent_mapStrings.mp sent)).2.2]

/-- With alignments as members, the structure is that of the message with other strings. -/
lemma shape_messageValue (msg : InputRichMessage) :
    (messageValue stringMember (msg.mapStrings f)).shape = (messageValue stringMember msg).shape := by
  simp [messageValue, blocksValue, member, InputRichMessage.mapStrings, List.filterMap_map,
    List.map_filterMap, shape_blockValue keeps]

end

end

/-! ## Alignments that close their strings -/

/-- An alignment that closes its string and adds a member. -/
def closing : Text := ascii "a\",\"x\":\"b"

/-- The members that come of such alignments. -/
def injected (key : String) (s : Text) : List (List UInt8 × Json) :=
  if s = [] then stringMember key []
  else stringMember key (ascii "a") ++ stringMember "x" (ascii "b")

/-- An alignment that closes its string is the text of two members. -/
lemma spelt_injected (s : Text) : Spelt injected (fill closing s) := by
  intro key
  by_cases empty : s = []
  · rw [fill, if_pos empty, injected, if_pos rfl]
    exact spelt_plain (fun c inside => by cases inside) key
  · rw [fill, if_neg empty, injected, if_neg (by decide), following_append, stringMember,
      stringMember, member, member, following_singleton, following_singleton, print, print]
    simp only [List.append_assoc, List.cons_append]
    rfl

/-- How many members an object has. -/
def memberCount : Json → Nat
  | .object members => members.length
  | _ => 0

/-- The shape of an object has as many members. -/
lemma memberCount_shape (j : Json) : memberCount j.shape = memberCount j := by
  cases j with
  | array | object => simp [memberCount]
  | _ => rw [shape] <;> rfl

/-- A cell whose shape does not change with such alignments has none. -/
lemma cell_unaligned {cell : RichBlockTableCell}
    (same : (cellValue stringMember (cell.mapStrings (fill (ascii "a")))).shape =
      (cellValue injected (cell.mapStrings (fill closing))).shape) :
    cell.align = [] ∧ cell.valign = [] := by
  have count := congrArg memberCount same
  rw [memberCount_shape, memberCount_shape] at count
  have nonempty : ascii "a" ≠ [] ∧ closing ≠ [] := by decide
  by_cases align : cell.align = [] <;> by_cases valign : cell.valign = []
  all_goals
    simp [cellValue, memberCount, RichBlockTableCell.mapStrings, fill, align, valign, nonempty,
      stringMember, injected] at count ⊢

/-- A block of buttons whose shape does not change with such an alignment has none. -/
lemma buttons_unaligned {p : RichBlockButtons}
    (same : (buttonsValue stringMember
        ⟨p.buttons.map (·.mapStrings (fill (ascii "a"))), fill (ascii "a") p.align⟩).shape =
      (buttonsValue injected ⟨p.buttons.map (·.mapStrings (fill closing)), fill closing p.align⟩).shape) :
    p.align = [] := by
  have count := congrArg memberCount same
  rw [memberCount_shape, memberCount_shape] at count
  have nonempty : ascii "a" ≠ [] ∧ closing ≠ [] := by decide
  by_contra align
  simp [buttonsValue, typed, memberCount, fill, align, nonempty, stringMember, injected] at count

/-- A table whose shape does not change with such alignments has none, in any cell. -/
lemma table_unaligned {p : RichBlockTable}
    (same : (tableValue stringMember (p.mapStrings (fill (ascii "a")))).shape =
      (tableValue injected (p.mapStrings (fill closing))).shape) :
    ∀ row ∈ p.cells, ∀ cell ∈ row, cell.align = [] ∧ cell.valign = [] := by
  simp only [tableValue, typed, RichBlockTable.mapStrings, member, shape_object, shape_array,
    List.map_cons, List.map_append, List.map_nil, List.map_map, object.injEq, List.cons.injEq,
    List.append_cancel_left_eq, Prod.mk.injEq, array.injEq, true_and, and_true] at same
  intro row rowInside cell inside
  have rows := List.map_inj_left.mp same row rowInside
  simp only [Function.comp_apply, shape_array, List.map_map, array.injEq] at rows
  exact cell_unaligned (List.map_inj_left.mp rows cell inside)

/-- If the structure of a block is the same with alignments that close their strings, there are none. -/
lemma block_unaligned {block : RichBlock}
    (same : (blockValue stringMember (block.mapStrings (fill (ascii "a")))).map shape =
      (blockValue injected (block.mapStrings (fill closing))).map shape) :
    ∀ s ∈ block.aligns, s = [] := by
  by_cases sent : Sent block
  · cases sent with
    | table p =>
      intro s inside
      obtain ⟨cell, there, here⟩ := List.mem_flatMap.mp inside
      obtain ⟨row, rowInside, there⟩ := List.mem_flatten.mp there
      obtain ⟨align, valign⟩ :=
        table_unaligned (Option.some.inj same) row rowInside cell there
      simpa [align, valign] using here
    | buttons p =>
      intro s inside
      cases List.mem_singleton.mp inside
      exact buttons_unaligned (Option.some.inj same)
    | heading | paragraph | preformatted | divider =>
      intro s inside
      cases inside
  · rw [(nothing_of_not_sent sent).2.1]
    intro s inside
    cases inside

/-- Values that are there for the same blocks and make the same list are the same one by one. -/
lemma filterMap_inj {α β : Type} {f g : α → Option β} {xs : List α}
    (isSome : ∀ x ∈ xs, (f x).isSome = (g x).isSome) (same : xs.filterMap f = xs.filterMap g) :
    ∀ x ∈ xs, f x = g x := by
  induction xs with
  | nil => exact fun x inside => by cases inside
  | cons x xs ih =>
    obtain ⟨here, isSome⟩ := List.forall_mem_cons.mp isSome
    rw [List.filterMap_cons, List.filterMap_cons] at same
    cases left : f x with
    | none =>
      rw [left, Option.isSome_none, eq_comm, Option.isSome_eq_false_iff, Option.isNone_iff_eq_none]
        at here
      rw [left, here] at same
      exact List.forall_mem_cons.mpr ⟨left.trans here.symm, ih isSome same⟩
    | some y =>
      rw [left, Option.isSome_some, eq_comm, Option.isSome_iff_exists] at here
      obtain ⟨z, right⟩ := here
      rw [left, right] at same
      obtain ⟨head, tail⟩ := List.cons.inj same
      exact List.forall_mem_cons.mpr ⟨by rw [left, right, head], ih isSome tail⟩

/-! ## Other strings in a message -/

lemma Alike.aligns {msg msg' : InputRichMessage} (alike : Alike msg msg') :
    msg.aligns.map (fill [0]) = msg'.aligns.map (fill [0]) := by
  rw [← msg.aligns_mapStrings, alike, msg'.aligns_mapStrings]

/-- Filling leaves exactly the empty strings empty. -/
lemma fill_eq_nil_iff {t : Text} (nonempty : t ≠ []) (s : Text) : fill t s = [] ↔ s = [] := by
  rw [fill]
  split_ifs with empty
  · exact iff_of_true rfl empty
  · exact iff_of_false nonempty empty

/-- Whatever stands in the place of the strings that are not empty, the messages are alike. -/
lemma alike_fill {t : Text} (nonempty : t ≠ []) (msg : InputRichMessage) :
    Alike msg (msg.mapStrings (fill t)) := by
  have fills : fill [0] ∘ fill t = fill [0] := by
    funext s
    exact if_congr (fill_eq_nil_iff nonempty s) rfl rfl
  rw [Alike, msg.mapStrings_mapStrings, fills]

/-- Plain alignments keep the structure. -/
lemma Alike.sameStructure {msg msg' : InputRichMessage} (alike : Alike msg msg')
    (plain : ∀ s ∈ msg.aligns, Plain s) (plain' : ∀ s ∈ msg'.aligns, Plain s) :
    SameStructure msg msg' := by
  have keeps := fill_eq_nil_iff (List.cons_ne_nil 0 [])
  refine ⟨_, _, (read_serializeRichMessageJson msg plain).1,
    (read_serializeRichMessageJson msg' plain').1, ?_⟩
  rw [← shape_messageValue keeps, alike, shape_messageValue keeps]

/-- A message keeps its structure whatever its strings only if it has no alignments. -/
lemma unaligned_of_sameStructure {msg : InputRichMessage}
    (same : ∀ msg', Alike msg msg' → SameStructure msg msg') : ∀ s ∈ msg.aligns, s = [] := by
  obtain ⟨value, first, whole, read₁, shape₁⟩ :=
    same (msg.mapStrings (fill (ascii "a"))) (alike_fill (by decide) msg)
  obtain ⟨value', second, whole', read₂, shape₂⟩ :=
    same (msg.mapStrings (fill closing)) (alike_fill (by decide) msg)
  cases whole.symm.trans whole'
  have short : read (serializeRichMessageJson (msg.mapStrings (fill (ascii "a")))) =
      some (messageValue stringMember (msg.mapStrings (fill (ascii "a")))) := by
    refine (read_serializeRichMessageJson _ fun s inside => ?_).1
    rw [msg.aligns_mapStrings] at inside
    obtain ⟨s, -, rfl⟩ := List.mem_map.mp inside
    rw [fill]
    split_ifs <;> decide
  have closed : read (serializeRichMessageJson (msg.mapStrings (fill closing))) =
      some (messageValue injected (msg.mapStrings (fill closing))) := by
    rw [serializeRichMessageJson_eq _ fun s inside => ?_]
    · exact read_print spells_escapeJsonChar _
    · rw [msg.aligns_mapStrings] at inside
      obtain ⟨s, -, rfl⟩ := List.mem_map.mp inside
      exact spelt_injected s
  cases short.symm.trans read₁
  cases closed.symm.trans read₂
  have shapes := shape₁.symm.trans shape₂
  simp only [messageValue, blocksValue, member, InputRichMessage.mapStrings, shape_object,
    shape_array, List.map_cons, List.map_nil, List.filterMap_map, List.map_filterMap,
    object.injEq, List.cons.injEq, Prod.mk.injEq, array.injEq, true_and, and_true] at shapes
  intro s inside
  obtain ⟨block, there, here⟩ := List.mem_flatMap.mp inside
  have isSome (block : RichBlock) :
      ((blockValue stringMember (block.mapStrings (fill (ascii "a")))).map shape).isSome =
        ((blockValue injected (block.mapStrings (fill closing))).map shape).isSome := by
    rw [Option.isSome_map, Option.isSome_map, Bool.eq_iff_iff, isSome_blockValue_iff,
      isSome_blockValue_iff, sent_mapStrings, sent_mapStrings]
  exact block_unaligned (filterMap_inj (fun block _ => isSome block) shapes block there) s here

/-- A message keeps its structure, whatever its strings, exactly if no alignment is written for it. Two
    messages that are alike always have the same structure if their alignments are plain. -/
theorem structure_kept_iff (msg : InputRichMessage) :
    ((∀ msg', Alike msg msg' → SameStructure msg msg') ↔ ∀ s ∈ msg.aligns, s = []) ∧
      ∀ msg', Alike msg msg' → (∀ s ∈ msg.aligns, Plain s) → (∀ s ∈ msg'.aligns, Plain s) →
        SameStructure msg msg' := by
  refine ⟨⟨unaligned_of_sameStructure, fun unaligned msg' alike => ?_⟩,
    fun msg' alike => alike.sameStructure⟩
  have plain (s : Text) (empty : s = []) : Plain s := by
    rw [empty]
    exact fun c inside => by cases inside
  refine alike.sameStructure (fun s inside => plain s (unaligned s inside)) fun s inside => plain s ?_
  have : fill [0] s ∈ msg.aligns.map (fill [0]) := alike.aligns ▸ List.mem_map_of_mem inside
  obtain ⟨r, there, same⟩ := List.mem_map.mp this
  rw [unaligned r there] at same
  exact (fill_eq_nil_iff (List.cons_ne_nil 0 []) s).mp same.symm

/-- Cells with other texts and alignments. -/
theorem structure_kept_cell :
    SameStructure
      { blocks := [⟨.table, .table { cells := [[{ text := ascii "\"\x7d" }]] }⟩] }
      { blocks := [⟨.table, .table { cells := [[{ text := ascii "x", align := ascii "center" }]] }⟩] } :=
  (structure_kept_iff _).2 _ rfl (by decide) (by decide)

/-- A quote in the place of an alignment leaves no JSON at all. -/
theorem structure_lost :
    Alike { blocks := [⟨.buttons, .buttons { buttons := [] }⟩] }
        { blocks := [⟨.buttons, .buttons { buttons := [], align := ascii "\"" }⟩] } ∧
      ¬ SameStructure { blocks := [⟨.buttons, .buttons { buttons := [] }⟩] }
        { blocks := [⟨.buttons, .buttons { buttons := [], align := ascii "\"" }⟩] } := by
  refine ⟨rfl, ?_⟩
  rintro ⟨value, value', -, whole, -⟩
  have malformed : (read (serializeRichMessageJson
      { blocks := [⟨.buttons, .buttons { buttons := [], align := ascii "\"" }⟩] })).isNone = true := by
    decide +kernel
  rw [whole] at malformed
  cases malformed

end CppGram.Backend
