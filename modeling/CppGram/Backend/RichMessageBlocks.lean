import CppGram.Backend.RichMessageAligned
import CppGram.Lib.JsonLength

/-!
# The blocks of a rich message

What is asked of `serialize_rich_message_json` is that there is an item for each block that a call of
`RichMessageBuilder` appends, in the order of the calls (`OnePerCall`). There is none for quotations,
documents and thoughts, which TDLib is sent (`renderBlock_longer`). `onePerCall_iff` says for which calls
it holds, as long as the alignments stay in their strings, and for which the items are the values of the
blocks.
-/

namespace CppGram.Backend
open Json

/-- An item is an object, which has the type that the JSON has for the block, if it has one. -/
def ItemFor (block : RichBlock) (item : Json) : Prop :=
  (∃ members, item = .object members) ∧ ∀ value, blockValue stringMember block = some value →
    item.get? (ascii "type") = value.get? (ascii "type")

/-- An item is what the JSON says of a block, or any object if it has no place for such a block. -/
def Presents (block : RichBlock) (item : Json) : Prop :=
  match blockValue stringMember block with
  | some value => item = value
  | none => ∃ members, item = .object members

/-- The JSON of the message, which is that in the payload of `sendRichMessage`, has these items. -/
def Listed (msg : InputRichMessage) (items : List Json) : Prop :=
  read (serializeRichMessageJson msg) = some (blocksValue items) ∧
    ∀ chatId, read (Sending.richMessagePayload chatId msg) =
      some (.object [member "chat_id" (.number chatId.toInt),
        member "rich_message" (blocksValue items)])

/-- There is one item for each call that appends a block, in order. -/
def OnePerCall (calls : List BuilderCall) : Prop :=
  ∃ items, Listed (BuilderCall.build calls) items ∧
    List.Forall₂ ItemFor (calls.filterMap BuilderCall.block?) items

/-- The items are the values of the blocks that the calls append. -/
def AsBuilt (calls : List BuilderCall) : Prop :=
  ∃ items, Listed (BuilderCall.build calls) items ∧
    List.Forall₂ Presents (calls.filterMap BuilderCall.block?) items

/-- The calls whose blocks have a place in the JSON. -/
def BuilderCall.Kept : BuilderCall → Prop
  | expandableQuote .. | document .. | thinking .. => False
  | _ => True

/-! ## Lengths -/

/-- How much longer escaping makes a string. -/
def growth (s : Text) : Nat := (s.map fun c => (escapeJsonChar c).length - 1).sum

/-- Escaping never makes a character shorter, and leaves only plain ones as long as they are. -/
lemma length_escapeJsonChar (c : UInt8) :
    1 ≤ (escapeJsonChar c).length ∧
      ((escapeJsonChar c).length = 1 → c ≠ 34 ∧ c ≠ 92 ∧ ¬ c < 32) := by
  rw [escapeJsonChar]
  split_ifs with quote backslash
  case neg => exact ⟨Nat.le_refl 1, fun _ => ⟨quote, backslash, by assumption⟩⟩
  all_goals exact ⟨Nat.succ_le_succ (Nat.zero_le _), fun long => absurd long (by simp [ascii])⟩

/-- `escape_json_string` never writes more than a reader needs. -/
lemma shortest_escapeJsonChar : Shortest escapeJsonChar where
  plain := fun quote backslash printable => by
    rw [escapeJsonChar_plain quote backslash printable, List.length_singleton]
  named := by
    intro e c names
    rw [unescape] at names
    split_ifs at names with itself
    · cases names
      rcases itself with rfl | rfl | rfl <;> decide
    all_goals
      cases names
      decide
  hex := by
    intro c
    rw [escapeJsonChar]
    split_ifs <;> simp [ascii]

/-- How long a string is once it is escaped. -/
lemma length_escapeJsonString (s : Text) : (escapeJsonString s).length = s.length + growth s := by
  induction s with
  | nil => rfl
  | cons c s ih =>
    have := (length_escapeJsonChar c).1
    rw [growth] at ih
    rw [escapeJsonString, List.flatMap_cons, List.length_append, ← escapeJsonString, ih, growth,
      List.map_cons, List.sum_cons, List.length_cons]
    omega

/-- A string that does not grow is plain. -/
lemma plain_of_growth {s : Text} (same : growth s = 0) : Plain s := by
  intro c inside
  have := List.sum_eq_zero_iff_forall_eq_nat.mp same _ (List.mem_map_of_mem inside)
  have := (length_escapeJsonChar c).1
  exact (length_escapeJsonChar c).2 (by omega)

/-- An alignment as it is written, and as it would be if it were escaped. -/
lemma length_stringMember (key : String) (s : Text) :
    (following escapeJsonChar (stringMember key s)).length =
      (44 :: (quoted escapeJsonChar (ascii key) ++ 58 :: 34 :: (s ++ [34]))).length + growth s := by
  have long := length_escapeJsonString s
  rw [escapeJsonString] at long
  rw [stringMember, member, following_singleton, print, quoted, quoted]
  simp only [List.length_cons, List.length_append, List.length_nil, long]
  omega

/-- Texts that grow let their list grow by as much. -/
lemma length_separated_map {α : Type} {text text' : α → Text} {more : α → Nat} {as : List α}
    (longer : ∀ a ∈ as, (text' a).length = (text a).length + more a) :
    (separated (as.map text')).length = (separated (as.map text)).length + (as.map more).sum := by
  induction as with
  | nil => rfl
  | cons a as ih =>
    obtain ⟨here, longer⟩ := List.forall_mem_cons.mp longer
    have := ih longer
    cases as with
    | nil => simpa [separated] using here
    | cons b as =>
      simp only [List.map_cons, separated, List.length_append, List.length_cons, List.sum_cons] at *
      omega

/-- The value of a cell is as much longer than its text as the alignments grow. -/
lemma length_cellToJson (cell : RichBlockTableCell) :
    (print escapeJsonChar (cellValue stringMember cell)).length =
      (cellToJson cell).length + (growth cell.align + growth cell.valign) := by
  have header := following_flagMember "is_header" (ascii ",\"is_header\":true") rfl
  have align : (following escapeJsonChar (stringMember "align" cell.align)).length =
      (ascii ",\"align\":\"" ++ cell.align ++ ascii "\"").length + growth cell.align :=
    length_stringMember "align" cell.align
  have valign : (following escapeJsonChar (stringMember "valign" cell.valign)).length =
      (ascii ",\"valign\":\"" ++ cell.valign ++ ascii "\"").length + growth cell.valign :=
    length_stringMember "valign" cell.valign
  rw [cellToJson, cellValue, member, print_object_cons, cellTextToJson_eq]
  simp only [header, following_append]
  have brace : (ascii "\x7b").length = 1 ∧ (ascii "\x7d").length = 1 := by decide
  by_cases left : cell.align = [] <;> by_cases top : cell.valign = []
  all_goals
    simp only [left, top, ne_eq, not_true_eq_false, not_false_eq_true, if_true, if_false,
      following_nil, List.length_append, List.length_cons, List.length_nil, brace, align, valign,
      growth, List.map_nil, List.sum_nil] at *
    omega

/-- The value of a row is as much longer than its text as the alignments grow. -/
lemma length_rowToJson (row : List RichBlockTableCell) :
    (print escapeJsonChar (.array (row.map (cellValue stringMember)))).length =
      (rowToJson row).length +
        (row.map fun cell => growth cell.align + growth cell.valign).sum := by
  have cells := length_separated_map fun cell (_ : cell ∈ row) => length_cellToJson cell
  have brackets : (ascii "[").length = 1 ∧ (ascii "]").length = 1 := by decide
  rw [← print_array_map fun _ _ => rfl, rowToJson]
  simp only [List.length_cons, List.length_append, List.length_nil, brackets] at *
  omega

/-- The value of a table is as much longer than its text as the alignments grow. -/
lemma length_tableToJson (p : RichBlockTable) :
    (print escapeJsonChar (tableValue stringMember p)).length =
      (tableToJson p).length + (p.cells.map fun row =>
        (row.map fun cell => growth cell.align + growth cell.valign).sum).sum := by
  have rows := length_separated_map fun row (_ : row ∈ p.cells) => length_rowToJson row
  have bordered := following_flagMember "is_bordered" (ascii ",\"is_bordered\":true") rfl
  have compact := following_flagMember "is_compact" (ascii ",\"is_compact\":true") rfl
  have striped := following_flagMember "is_striped" (ascii ",\"is_striped\":true") rfl
  have parts : (ascii "\x7b\"type\":\"table\"").length = 15 ∧ (ascii ",\"cells\":[").length = 10 ∧
      (ascii "]\x7d").length = 2 ∧ (quoted escapeJsonChar (ascii "type")).length = 6 ∧
      (quoted escapeJsonChar (ascii "table")).length = 7 ∧
      (quoted escapeJsonChar (ascii "cells")).length = 7 := by decide
  rw [tableToJson, tableValue, print_typed]
  simp only [bordered, compact, striped, following_append, member, following_singleton]
  rw [← print_array_map fun _ _ => rfl]
  simp only [List.length_cons, List.length_append, List.length_nil, parts] at *
  omega

/-- The value of a block of buttons is as much longer than its text as the alignment grows. -/
lemma length_buttonsToJson (p : RichBlockButtons) :
    (print escapeJsonChar (buttonsValue stringMember p)).length =
      (buttonsToJson p).length + growth p.align := by
  have align : (following escapeJsonChar (stringMember "align" p.align)).length =
      (ascii ",\"align\":\"" ++ p.align ++ ascii "\"").length + growth p.align :=
    length_stringMember "align" p.align
  have buttons : 91 :: (separated (p.buttons.map richButtonToJson) ++ [93]) =
      print escapeJsonChar (.array (p.buttons.map richButtonValue)) :=
    print_array_map fun btn _ => richButtonToJson_eq btn
  have parts : (ascii "\x7b\"type\":\"buttons\",\"align\":\"").length = 27 ∧
      (ascii "\",\"buttons\":[").length = 13 ∧ (ascii "]\x7d").length = 2 ∧
      (ascii ",\"align\":\"").length = 10 ∧ (ascii "\"").length = 1 ∧
      (quoted escapeJsonChar (ascii "type")).length = 6 ∧
      (quoted escapeJsonChar (ascii "buttons")).length = 9 := by decide
  rw [buttonsToJson, buttonsValue, print_typed]
  simp only [following_append, member, following_singleton, ← buttons, List.length_cons,
    List.length_append, List.length_nil, parts] at *
  omega

/-- The alignments of a table grow cell by cell. -/
lemma sum_growth (cells : List (List RichBlockTableCell)) :
    ((cells.flatten.flatMap fun cell => [cell.align, cell.valign]).map growth).sum =
      (cells.map fun row => (row.map fun cell => growth cell.align + growth cell.valign).sum).sum := by
  simp [List.flatMap_def, List.sum_flatten, List.map_flatten, Function.comp_def]

/-- An item is as much longer than what is written for the block as its alignments get. -/
lemma length_blockToJson {block : RichBlock} {value : Json}
    (valued : blockValue stringMember block = some value) :
    (print escapeJsonChar value).length =
      (blockToJson block).length + (block.aligns.map growth).sum := by
  have sent := (isSome_blockValue_iff block).mp (Option.isSome_of_eq_some valued)
  have text := @blockToJson_eq stringMember block
  cases sent with
  | table p =>
    cases valued
    rw [length_tableToJson, RichBlock.aligns, sum_growth]
    rfl
  | buttons p =>
    cases valued
    exact length_buttonsToJson p
  | heading p | paragraph p | preformatted p | divider p =>
    rw [text (fun s inside => by cases inside), valued]
    rfl

/-- The length of texts with a comma behind each of them. -/
def total (texts : List Text) : Nat := (texts.map fun text => text.length + 1).sum

lemma total_cons (text : Text) (texts : List Text) :
    total (text :: texts) = text.length + 1 + total texts := by
  rw [total, List.map_cons, List.sum_cons, total]

/-- A list of texts has one comma less. -/
lemma length_separated_eq (texts : List Text) : (separated texts).length = total texts - 1 := by
  induction texts with
  | nil => rfl
  | cons text texts ih =>
    cases texts with
    | nil => rfl
    | cons second texts =>
      have := total_cons second texts
      rw [total_cons, separated, List.length_append, List.length_cons]
      · omega
      · exact fun this => by cases this

/-- No item is shorter than what is written for its block; if none is longer, every block has its place
    and plain alignments. -/
lemma total_items {blocks : List RichBlock} {items : List Json}
    (presented : List.Forall₂ Presents blocks items) :
    total (blockTexts blocks) ≤ total (items.map (print escapeJsonChar)) ∧
      (total (items.map (print escapeJsonChar)) ≤ total (blockTexts blocks) →
        ∀ block ∈ blocks, Sent block ∧ ∀ s ∈ block.aligns, Plain s) := by
  induction presented with
  | nil => exact ⟨Nat.le_refl _, fun _ block inside => by cases inside⟩
  | @cons block item blocks items here others ih =>
    obtain ⟨enough, exact⟩ := ih
    rw [blockTexts_cons, List.map_cons, total_cons]
    rw [Presents] at here
    cases valued : blockValue stringMember block with
    | none =>
      have unknown : ¬ Sent block := fun sent => by
        have := (@isSome_blockValue_iff stringMember block).mpr sent
        rw [valued] at this
        cases this
      rw [if_pos (nothing_of_not_sent unknown).1]
      exact ⟨by omega, fun short => by omega⟩
    | some value =>
      rw [valued] at here
      cases here
      have long := length_blockToJson valued
      have sent := (isSome_blockValue_iff block).mp (Option.isSome_of_eq_some valued)
      split_ifs
      · exact ⟨by omega, fun short => by omega⟩
      · rw [total_cons]
        refine ⟨by omega, fun short => List.forall_mem_cons.mpr ⟨⟨sent, fun s inside => ?_⟩, exact ?_⟩⟩
        · have none : (block.aligns.map growth).sum = 0 := by omega
          exact plain_of_growth
            (List.sum_eq_zero_iff_forall_eq_nat.mp none _ (List.mem_map_of_mem inside))
        · omega

/-! ## Calls -/

/-- A call is kept exactly if the block that it appends has a place in the JSON. -/
lemma BuilderCall.kept_iff (call : BuilderCall) :
    call.Kept ↔ ∀ block, call.block? = some block → Sent block := by
  constructor
  · intro kept block appends
    cases call with
    | expandableQuote | document | thinking => exact kept.elim
    | setRtl | setSkipEntityDetection | addMedia => cases appends
    | _ =>
      cases appends
      constructor
  · intro sent
    cases call with
    | expandableQuote | document | thinking =>
      have := sent _ rfl
      cases this
    | _ => trivial

/-- All calls are kept exactly if all blocks of the message have a place. -/
lemma BuilderCall.forall_kept_iff (calls : List BuilderCall) :
    (∀ call ∈ calls, call.Kept) ↔ ∀ block ∈ (build calls).blocks, Sent block := by
  rw [build_blocks]
  constructor
  · intro kept block inside
    obtain ⟨call, there, appends⟩ := List.mem_filterMap.mp inside
    exact call.kept_iff.mp (kept call there) block appends
  · intro sent call inside
    exact call.kept_iff.mpr fun block appends =>
      sent block (List.mem_filterMap.mpr ⟨call, inside, appends⟩)

/-- The alignments of a message are those of its blocks. -/
lemma InputRichMessage.forall_aligns_iff (msg : InputRichMessage) :
    (∀ s ∈ msg.aligns, Plain s) ↔ ∀ block ∈ msg.blocks, ∀ s ∈ block.aligns, Plain s := by
  simp only [aligns, List.mem_flatMap]
  exact ⟨fun plain block inside s there => plain s ⟨block, inside, there⟩,
    fun plain s ⟨block, inside, there⟩ => plain block inside s there⟩

/-- The text of a message has no room for other items. -/
lemma total_le_of_read {msg : InputRichMessage} {items : List Json}
    (whole : read (serializeRichMessageJson msg) = some (blocksValue items)) :
    total (items.map (print escapeJsonChar)) ≤ total (blockTexts msg.blocks) := by
  have short := length_print_le shortest_escapeJsonChar whole
  have parts : (ascii "\x7b\"blocks\":[").length = 11 ∧ (ascii "]\x7d").length = 2 ∧
      (quoted escapeJsonChar (ascii "blocks")).length = 8 := by decide
  rw [serializeRichMessageJson, foldl_appendBlock, if_pos rfl, blocksValue, member, print_object_cons,
    following_nil, print, printItems_eq] at short
  simp only [List.length_append, List.length_cons, List.length_nil, parts, length_separated_eq]
    at short
  cases items with
  | nil => exact Nat.zero_le _
  | cons item items =>
    have nonempty := List.length_pos_iff.mpr (print_ne_nil escapeJsonChar item)
    rw [List.map_cons, total_cons] at short ⊢
    omega

/-- The values of blocks with a place in the JSON, one for each. -/
lemma forall₂_filterMap {aligned : String → Text → List (List UInt8 × Json)}
    {R : RichBlock → Json → Prop} {blocks : List RichBlock}
    (each : ∀ block value, blockValue aligned block = some value → R block value)
    (sent : ∀ block ∈ blocks, Sent block) :
    List.Forall₂ R blocks (blocks.filterMap (blockValue aligned)) := by
  induction blocks with
  | nil => exact .nil
  | cons block blocks ih =>
    obtain ⟨here, sent⟩ := List.forall_mem_cons.mp sent
    obtain ⟨value, valued⟩ :=
      Option.isSome_iff_exists.mp ((@isSome_blockValue_iff aligned block).mpr here)
    rw [List.filterMap_cons, valued]
    exact .cons (each block value valued) (ih sent)

/-- The value of a block is an object whose type does not depend on the alignments. -/
lemma itemFor_blockValue {aligned : String → Text → List (List UInt8 × Json)} (block : RichBlock)
    (value : Json) (valued : blockValue aligned block = some value) : ItemFor block value := by
  have sent := (isSome_blockValue_iff block).mp (Option.isSome_of_eq_some valued)
  cases sent
  all_goals
    cases valued
    refine ⟨⟨_, rfl⟩, fun value other => ?_⟩
    cases other
    rfl

/-- The items of a message whose alignments stay in their strings. -/
lemma listed_of_inside {msg : InputRichMessage} (inside : ∀ s ∈ msg.aligns, Inside s) :
    Listed msg (msg.blocks.filterMap (blockValue unquotedMember)) :=
  ⟨(denotes_message msg inside).read,
    fun chatId => (denotes_richMessagePayload chatId msg inside).read⟩

/-- With plain alignments they are the values of the blocks. -/
lemma listed_of_plain {msg : InputRichMessage} (plain : ∀ s ∈ msg.aligns, Plain s) :
    Listed msg (msg.blocks.filterMap (blockValue stringMember)) := by
  have listed := listed_of_inside fun s there => inside_plain (plain s there)
  have whole := listed.1.symm.trans (read_serializeRichMessageJson msg plain).1
  simp only [messageValue, blocksValue, member, Option.some.injEq, object.injEq, List.cons.injEq,
    Prod.mk.injEq, array.injEq, true_and, and_true] at whole
  exact whole ▸ listed

/-- With alignments that stay in their strings there is one item for each call exactly if none of the
    calls appends a quotation, a document or a thought, and the number of items alone tells. They are the
    values of the blocks exactly if the alignments are plain too. -/
theorem onePerCall_iff (calls : List BuilderCall) :
    ((∀ s ∈ (BuilderCall.build calls).aligns, Inside s) →
      (OnePerCall calls ↔ ∀ call ∈ calls, call.Kept) ∧
      ((∃ items, read (serializeRichMessageJson (BuilderCall.build calls)) = some (blocksValue items) ∧
          items.length = (calls.filterMap BuilderCall.block?).length) ↔
        ∀ call ∈ calls, call.Kept)) ∧
    (AsBuilt calls ↔
      (∀ call ∈ calls, call.Kept) ∧ ∀ s ∈ (BuilderCall.build calls).aligns, Plain s) := by
  rw [BuilderCall.forall_kept_iff, OnePerCall, AsBuilt, ← BuilderCall.build_blocks]
  refine ⟨fun inside => ?_, ?_, ?_⟩
  · have listed := listed_of_inside inside
    -- items as many as the blocks have a value for each of them
    have counted {items} (whole : read (serializeRichMessageJson (BuilderCall.build calls)) =
        some (blocksValue items)) (count : items.length = (BuilderCall.build calls).blocks.length)
        (block) (there : block ∈ (BuilderCall.build calls).blocks) : Sent block := by
      cases whole.symm.trans listed.1
      exact (isSome_blockValue_iff block).mp (List.filterMap_length_eq_length.mp count block there)
    have each (sent : ∀ block ∈ (BuilderCall.build calls).blocks, Sent block) :=
      forall₂_filterMap (@itemFor_blockValue unquotedMember) sent
    refine ⟨⟨?_, fun sent => ⟨_, listed, each sent⟩⟩, ⟨?_, fun sent => ⟨_, listed.1, ?_⟩⟩⟩
    · rintro ⟨items, ⟨whole, -⟩, items_for⟩
      exact counted whole items_for.length_eq.symm
    · rintro ⟨items, whole, count⟩
      exact counted whole count
    · exact (each sent).length_eq.symm
  · rintro ⟨items, ⟨whole, -⟩, presented⟩
    have each := (total_items presented).2 (total_le_of_read whole)
    exact ⟨fun block there => (each block there).1,
      (InputRichMessage.forall_aligns_iff _).mpr fun block there => (each block there).2⟩
  · rintro ⟨sent, plain⟩
    refine ⟨_, listed_of_plain plain, forall₂_filterMap (fun block value valued => ?_) sent⟩
    rw [Presents, valued]

/-- An alignment with a backslash that the reader takes for an escape. -/
theorem onePerCall_report :
    OnePerCall [.heading (ascii "Live \"report\""), .setRtl true,
      .table { cells := [[{ text := ascii "a" }, { text := ascii "b" }]] },
      .buttons [{ text := ascii "Go", callbackData := some (ascii "go") }] (ascii "a\\/b"),
      .paragraph []] :=
  ((onePerCall_iff _).1 (by decide +kernel)).1.mpr (by simp [BuilderCall.Kept])

/-- A document is rendered for TDLib, and the JSON has no block at all. -/
theorem document_lost :
    ¬ OnePerCall [.document (ascii "report")] ∧
      read (serializeRichMessageJson (BuilderCall.build [.document (ascii "report")])) =
        some (blocksValue []) ∧
      (renderBlocks (BuilderCall.build [.document (ascii "report")]).blocks).rendered =
        utf8 "📄 <b>Document</b>\n\n" := by
  have whole := (read_serializeRichMessageJson (BuilderCall.build [.document (ascii "report")])
    (by decide)).1
  refine ⟨?_, whole, by decide⟩
  rintro ⟨items, ⟨this, -⟩, items_for⟩
  cases whole.symm.trans this
  cases items_for

end CppGram.Backend
