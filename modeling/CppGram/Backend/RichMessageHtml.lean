import CppGram.Backend.RichMessageRender
import CppGram.Lib.Html

/-!
# The HTML of a rich message

What `render_rich_message_tdlib` makes of the blocks of a message, read back as HTML. A block says what
tokens it should be read as (`blockTokens`): its own strings as characters or as the value of an
attribute, among the tags and the decorations of the renderer. The tags are a function of the shape of
the block, which has no string in it. `rendered_html` is that the whole text is read as the tokens of its
blocks, so no string brings a tag of its own.
-/

namespace CppGram.Backend
open Json (ascii)
open Html (Token Tag Reads Balanced Undoes element decorated)

/-- What is below a table. -/
def captionText (p : RichBlockTable) : Text :=
  match p.caption with
  | some caption => ascii "<i>" ++ escapeHtml caption ++ ascii "</i>\n\n"
  | none => ascii "\n"

/-- What a block adds to `rendered`. -/
def BlockView.text : BlockView → Text
  | .heading p => ascii "<b>" ++ escapeHtml p.text ++ ascii "</b>\n\n"
  | .paragraph p => escapeHtml p.text ++ ascii "\n\n"
  | .preformatted p => renderPreformatted p
  | .divider => utf8 "─────────────────────────\n\n"
  | .table p =>
    (if p.cells ≠ [] then ascii "<pre>" ++ escapeHtml (tableText p.cells) ++ ascii "</pre>\n" else []) ++
      captionText p
  | .quotation p => renderQuotation p
  | .buttons _ => []
  | .document p => utf8 "📄 <b>" ++ escapeHtml (p.caption.getD (ascii "Document")) ++ ascii "</b>\n\n"
  | .thinking p => utf8 "🧠 <i>[Thinking: " ++ escapeHtml p.text ++ ascii "]</i>\n\n"
  | .nothing => []

/-- A row of buttons writes no text. -/
lemma rendered_addRow (out : Rendering) (row : List InlineKeyboardButton) :
    (out.addRow row).rendered = out.rendered := by
  rw [Rendering.addRow]
  split
  · rfl
  · rfl

/-- Any number of rows of buttons write no text. -/
lemma rendered_addRows (out : Rendering) (rows : List (List RichBlockTableCell)) :
    (rows.foldl (fun out row => out.addRow (cellButtons row)) out).rendered = out.rendered := by
  induction rows generalizing out with
  | nil => rfl
  | cons row rows ih =>
    rw [List.foldl_cons, ih, rendered_addRow]

/-- A table writes its text behind what is there. -/
lemma rendered_renderTable (out : Rendering) (p : RichBlockTable) :
    (renderTable out p).rendered = out.rendered ++ (BlockView.table p).text := by
  have body : (if p.cells ≠ [] then
      p.cells.foldl (fun out row => out.addRow (cellButtons row))
        (out.append (ascii "<pre>" ++ escapeHtml (tableText p.cells) ++ ascii "</pre>\n"))
      else out).rendered = out.rendered ++ (if p.cells ≠ [] then
        ascii "<pre>" ++ escapeHtml (tableText p.cells) ++ ascii "</pre>\n" else []) := by
    split
    · rw [rendered_addRows]
      rfl
    · exact (List.append_nil _).symm
  rw [BlockView.text, ← List.append_assoc, ← body, renderTable, captionText]
  cases p.caption with
  | none => rfl
  | some caption => rfl

/-- A block writes its text behind what is there. -/
lemma rendered_renderBlock (out : Rendering) (block : RichBlock) :
    (renderBlock out block).rendered = out.rendered ++ block.view.text := by
  rw [renderBlock_view]
  cases block.view with
  | table p => exact rendered_renderTable out p
  | buttons p =>
    rw [BlockView.render, renderButtons, rendered_addRow, BlockView.text, List.append_nil]
  | nothing => exact (List.append_nil _).symm
  | _ => rfl

/-- The text of a message is that of its blocks. -/
lemma rendered_renderBlocks (blocks : List RichBlock) :
    (renderBlocks blocks).rendered = blocks.flatMap fun block => block.view.text :=
  Json.foldl_appends rendered_renderBlock {} blocks

/-! ## Tokens -/

/-- What the text of a block should be read as. -/
def BlockView.tokens : BlockView → List Token
  | .heading p => decorated (ascii "b") [] [] p.text [] (ascii "\n\n")
  | .paragraph p => Html.text (p.text ++ ascii "\n\n")
  | .preformatted p =>
    if p.language = [] then decorated (ascii "pre") [] [] p.text [] (ascii "\n\n")
    else
      element (ascii "pre") []
        (element (ascii "code") [(ascii "class", ascii "language-" ++ p.language)]
          (Html.text p.text)) ++
        Html.text (ascii "\n\n")
  | .divider => Html.text (utf8 "─────────────────────────\n\n")
  | .table p =>
    (if p.cells ≠ [] then decorated (ascii "pre") [] [] (tableText p.cells) [] (ascii "\n") else []) ++
      match p.caption with
      | some caption => decorated (ascii "i") [] [] caption [] (ascii "\n\n")
      | none => Html.text (ascii "\n")
  | .quotation p =>
    decorated (ascii "i") [] (utf8 "“") p.text (utf8 "”") (ascii "\n") ++
      (match p.credit with
      | some credit => decorated (ascii "b") (utf8 "— ") [] credit [] (ascii "\n")
      | none => []) ++
      Html.text (ascii "\n")
  | .buttons _ => []
  | .document p =>
    decorated (ascii "b") (utf8 "📄 ") [] (p.caption.getD (ascii "Document")) [] (ascii "\n\n")
  | .thinking p =>
    decorated (ascii "i") (utf8 "🧠 ") (ascii "[Thinking: ") p.text (ascii "]") (ascii "\n\n")
  | .nothing => []

/-- A reader of HTML gets back every character that `escape_html` writes. -/
lemma undoes_escapeHtmlChar : Undoes escapeHtmlChar := by
  intro c
  rw [escapeHtmlChar]
  split_ifs with and less greater quote
  · exact and ▸ ⟨rfl, fun _ _ _ _ => rfl⟩
  · exact less ▸ ⟨rfl, fun _ _ _ _ => rfl⟩
  · exact greater ▸ ⟨rfl, fun _ _ _ _ => rfl⟩
  · exact quote ▸ ⟨rfl, fun _ _ _ _ => rfl⟩
  · constructor
    · rw [Reads, Html.scans, Html.scan, if_neg less, if_neg and]
      rfl
    · intro tag attributes name val
      rw [Html.scans, Html.scan, if_neg quote, if_neg and]
      rfl

lemma reads_escapeHtml (s : Text) : Reads (escapeHtml s) (Html.text s) :=
  undoes_escapeHtmlChar.reads s

/-- A string in an element. -/
lemma reads_decorated {name opening closing front before behind after : Text}
    (opens : Reads opening (Html.text front ++ .start name [] :: Html.text before))
    (closes : Reads closing (Html.text behind ++ .stop name :: Html.text after)) (s : Text) :
    Reads (opening ++ escapeHtml s ++ closing) (decorated name front before s behind after) :=
  undoes_escapeHtmlChar.decorated opens closes s

/-- The language stays inside the value of the attribute. -/
lemma reads_language (language : Text) :
    Reads (ascii "<pre><code class=\"language-" ++ escapeHtml language ++ ascii "\">")
      [.start (ascii "pre") [],
        .start (ascii "code") [(ascii "class", ascii "language-" ++ language)]] := by
  have front : Html.scans (ascii "<pre><code class=\"language-") .text =
      some (.value (ascii "code") [] (ascii "class") (ascii "language-"),
        [.start (ascii "pre") []]) := rfl
  have value := undoes_escapeHtmlChar.value language (ascii "code") [] (ascii "class")
    (ascii "language-")
  have back : Html.scans (ascii "\">")
      (.value (ascii "code") [] (ascii "class") (ascii "language-" ++ language)) =
      some (.text, [.start (ascii "code") [(ascii "class", ascii "language-" ++ language)]]) := rfl
  exact Html.scans_append (Html.scans_append front value) back

/-- Preformatted text is read as its tokens. -/
lemma reads_preformatted (p : RichBlockPreformatted) :
    Reads (renderPreformatted p) (BlockView.preformatted p).tokens := by
  rw [renderPreformatted, BlockView.tokens]
  split
  · exact reads_decorated (by rfl) (by rfl) p.text
  · have closes : Reads (ascii "</code></pre>\n\n")
      ([.stop (ascii "code"), .stop (ascii "pre")] ++ Html.text (ascii "\n\n")) := rfl
    have whole := ((reads_language p.language).append (reads_escapeHtml p.text)).append closes
    simpa only [element, List.append_assoc, List.cons_append, List.nil_append] using whole

/-- A quotation is read as its tokens. -/
lemma reads_quotation (p : RichBlockExpandableBlockQuotation) :
    Reads (renderQuotation p) (BlockView.quotation p).tokens := by
  have quoted : Reads (utf8 "<i>“" ++ escapeHtml p.text ++ utf8 "”</i>\n")
      (decorated (ascii "i") [] (utf8 "“") p.text (utf8 "”") (ascii "\n")) :=
    reads_decorated (by rfl) (by rfl) p.text
  have newline : Reads (ascii "\n") (Html.text (ascii "\n")) := rfl
  rw [renderQuotation, BlockView.tokens]
  cases p.credit with
  | none => exact (quoted.append (t := []) rfl).append newline
  | some credit =>
    exact (quoted.append (reads_decorated (by rfl) (by rfl) credit)).append newline

/-- A table is read as its tokens. -/
lemma reads_table (p : RichBlockTable) : Reads (BlockView.table p).text (BlockView.table p).tokens := by
  rw [BlockView.text, BlockView.tokens, captionText]
  apply Reads.append
  · split
    · exact reads_decorated (by rfl) (by rfl) _
    · rfl
  · cases p.caption with
    | none => rfl
    | some caption => exact reads_decorated (by rfl) (by rfl) caption

/-- What a block adds to the text is read as its tokens. -/
lemma reads_view (view : BlockView) : Reads view.text view.tokens := by
  cases view with
  | heading p => exact reads_decorated (by rfl) (by rfl) p.text
  | paragraph p =>
    have newlines : Reads (ascii "\n\n") (Html.text (ascii "\n\n")) := rfl
    have whole := (reads_escapeHtml p.text).append newlines
    rwa [Html.text, Html.text, ← List.map_append] at whole
  | preformatted p => exact reads_preformatted p
  | divider => exact Reads.plain (by decide +kernel)
  | table p => exact reads_table p
  | quotation p => exact reads_quotation p
  | buttons => rfl
  | document p => exact reads_decorated (by rfl) (by rfl) _
  | thinking p => exact reads_decorated (by rfl) (by rfl) p.text
  | nothing => rfl

/-- What a block opens it closes. -/
lemma balanced_view (view : BlockView) : Balanced view.tokens := by
  cases view with
  | paragraph => exact Balanced.text
  | divider => exact Balanced.text
  | preformatted p =>
    rw [BlockView.tokens]
    split
    · exact Balanced.decorated
    · exact (Balanced.element _ _ (Balanced.element _ _ Balanced.text)).append Balanced.text
  | table p =>
    rw [BlockView.tokens]
    apply Balanced.append
    · split
      · exact Balanced.decorated
      · exact .nil
    · cases p.caption with
      | none => exact Balanced.text
      | some caption => exact Balanced.decorated
  | quotation p =>
    rw [BlockView.tokens]
    cases p.credit with
    | none => exact (Balanced.decorated.append Balanced.nil).append Balanced.text
    | some credit =>
      exact (Balanced.decorated.append Balanced.decorated).append Balanced.text
  | heading | document | thinking => exact Balanced.decorated
  | buttons | nothing => exact .nil

lemma last_append {s t : Text} (last : t.getLast? = some 10) : (s ++ t).getLast? = some 10 := by
  rw [List.getLast?_append, last]
  rfl

/-- The text of a block ends with a newline, if there is any. -/
lemma last_view (view : BlockView) : view.text = [] ∨ view.text.getLast? = some 10 := by
  cases view with
  | buttons | nothing => exact .inl rfl
  | heading | paragraph | document | thinking => exact .inr (last_append rfl)
  | divider => exact .inr (by decide)
  | quotation => exact .inr (last_append rfl)
  | preformatted p =>
    right
    rw [BlockView.text, renderPreformatted]
    split
    · exact last_append rfl
    · exact last_append rfl
  | table p =>
    right
    apply last_append
    rw [captionText]
    cases p.caption with
    | none => rfl
    | some caption => exact last_append rfl

/-! ## Tags -/

/-- The type of a block and which of its optional fields are present; whether the language of
    preformatted text is empty. -/
structure FieldShape where
  type : RichBlockType
  optional : Bool
  plain : Bool
  deriving DecidableEq

/-- Also whether the payload is of the type, and whether a table has rows. -/
structure BlockShape extends FieldShape where
  fits : Bool
  rows : Bool
  deriving DecidableEq

/-- The type and the optional fields of a block. -/
def RichBlock.fieldShape (block : RichBlock) : FieldShape where
  type := block.type
  optional :=
    match block.payload with
    | .table p => p.caption.isSome
    | .expandableBlockQuotation p => p.credit.isSome
    | .document p => p.caption.isSome
    | _ => false
  plain :=
    match block.payload with
    | .preformatted p => p.language.isEmpty
    | _ => false

/-- The fields of a block, whether its payload is of its type, and whether it is a table with rows. -/
def RichBlock.shape (block : RichBlock) : BlockShape where
  toFieldShape := block.fieldShape
  fits :=
    match block.view with
    | .nothing => false
    | _ => true
  rows :=
    match block.payload with
    | .table p => !p.cells.isEmpty
    | _ => false

/-- A start tag and its end tag. -/
def tagPair (name : Text) (attributes : List Text) (inner : List Tag) : List Tag :=
  .start name attributes :: (inner ++ [.stop name])

/-- The tags of a block. -/
def BlockShape.tags (s : BlockShape) : List Tag :=
  if s.fits then
    match s.type with
    | .sectionHeading | .document => tagPair (ascii "b") [] []
    | .preformatted =>
      tagPair (ascii "pre") []
        (if s.plain then [] else tagPair (ascii "code") [ascii "class"] [])
    | .table =>
      (if s.rows then tagPair (ascii "pre") [] [] else []) ++
        if s.optional then tagPair (ascii "i") [] [] else []
    | .expandableBlockQuotation =>
      tagPair (ascii "i") [] [] ++ if s.optional then tagPair (ascii "b") [] [] else []
    | .thinking => tagPair (ascii "i") [] []
    | _ => []
  else []

/-- The tags of preformatted text depend on whether it has a language. -/
lemma tags_preformatted (p : RichBlockPreformatted) :
    Html.tags (BlockView.preformatted p).tokens = tagPair (ascii "pre") []
      (if p.language.isEmpty then [] else tagPair (ascii "code") [ascii "class"] []) := by
  rw [BlockView.tokens]
  by_cases empty : p.language = []
  · rw [if_pos empty, if_pos (List.isEmpty_iff.mpr empty)]
    exact Html.tags_decorated ..
  · rw [if_neg empty, if_neg (List.isEmpty_iff.not.mpr empty)]
    simp only [Html.tags_append, Html.tags_element, Html.tags_text]
    rfl

/-- The tags of a table depend on whether it has rows and a caption. -/
lemma tags_table (p : RichBlockTable) : Html.tags (BlockView.table p).tokens =
    (if !p.cells.isEmpty then tagPair (ascii "pre") [] [] else []) ++
      if p.caption.isSome then tagPair (ascii "i") [] [] else [] := by
  rw [BlockView.tokens, Html.tags_append]
  congr 1
  · by_cases empty : p.cells = []
    · rw [empty]
      rfl
    · have rows : (!p.cells.isEmpty) = true := by
        rw [List.isEmpty_eq_false_iff.mpr empty]
        rfl
      rw [if_pos empty, if_pos rows]
      exact Html.tags_decorated ..
  · cases p.caption with
    | none => rfl
    | some caption => exact Html.tags_decorated ..

/-- The tags of a quotation depend on whether it has a credit. -/
lemma tags_quotation (p : RichBlockExpandableBlockQuotation) :
    Html.tags (BlockView.quotation p).tokens = tagPair (ascii "i") [] [] ++
      if p.credit.isSome then tagPair (ascii "b") [] [] else [] := by
  rw [BlockView.tokens, Html.tags_append, Html.tags_append, Html.tags_decorated, Html.tags_text,
    List.append_nil]
  cases p.credit with
  | none => rfl
  | some credit => exact congrArg (tagPair (ascii "i") [] [] ++ ·) (Html.tags_decorated ..)

/-- The tags of a block do not depend on its strings. -/
lemma tags_view (block : RichBlock) : Html.tags block.view.tokens = block.shape.tags := by
  obtain ⟨type, payload⟩ := block
  simp only [RichBlock.shape, RichBlock.fieldShape, RichBlock.view]
  split
  case h_1 p => exact Html.tags_decorated ..
  case h_2 p => exact Html.tags_text _
  case h_3 p => exact tags_preformatted p
  case h_4 => exact Html.tags_text _
  case h_5 p => exact tags_table p
  case h_6 p => exact tags_quotation p
  case h_7 => rfl
  case h_8 p => exact Html.tags_decorated ..
  case h_9 p => exact Html.tags_decorated ..
  case h_10 => rfl

/-- The tokens of a message, with the newline at its end. -/
def blockTokens (blocks : List RichBlock) : List Token := blocks.flatMap fun block => block.view.tokens

/-- What is rendered is read as the tokens of the blocks. -/
lemma reads_renderBlocks (blocks : List RichBlock) :
    Reads (renderBlocks blocks).rendered (blockTokens blocks) := by
  rw [rendered_renderBlocks]
  exact Reads.flatMap fun block _ => reads_view block.view

/-- What is rendered ends with a newline, if there is anything. -/
lemma last_renderBlocks (blocks : List RichBlock) :
    (renderBlocks blocks).rendered = [] ∨ (renderBlocks blocks).rendered.getLast? = some 10 := by
  rw [rendered_renderBlocks]
  induction blocks with
  | nil => exact .inl rfl
  | cons block blocks ih =>
    rw [List.flatMap_cons]
    rcases ih with empty | last
    · rw [empty, List.append_nil]
      exact last_view block.view
    · exact .inr (last_append last)

/-- The newline that is taken off at the end is a token of its own. -/
lemma reads_popNewline (blocks : List RichBlock) : ∃ tokens,
    Reads (popNewline (renderBlocks blocks).rendered) tokens ∧
    (blockTokens blocks = tokens ∧ tokens = [] ∨ blockTokens blocks = tokens ++ [.char 10]) := by
  have reads := reads_renderBlocks blocks
  have last := last_renderBlocks blocks
  generalize blockTokens blocks = tokens at reads ⊢
  generalize (renderBlocks blocks).rendered = rendered at reads last ⊢
  rcases last with rfl | last
  · cases Option.some.inj reads
    exact ⟨[], rfl, .inl ⟨rfl, rfl⟩⟩
  · obtain ⟨front, rfl⟩ := List.getLast?_eq_some_iff.mp last
    obtain ⟨before, shorter, rfl⟩ := reads.of_concat (by decide)
    rw [popNewline, if_pos last, List.dropLast_concat]
    exact ⟨before, shorter, .inr rfl⟩

section

variable {φ ψ : Type}

/-- The text of a message without HTML and Markdown is well nested. Read back, it is the characters and
    attribute values of its blocks in their order, and its tags are those of their shapes. -/
theorem rendered_html (k : Conversions φ ψ) {richMsg : InputRichMessage}
    (options : SendRichMessageOptions) (noHtml : richMsg.html = none)
    (noMarkdown : richMsg.markdown = none) :
    let html := popNewline (renderBlocks richMsg.blocks).rendered
    (renderRichMessageTdlib k richMsg options).1 = k.parseText html .HTML ∧
      ∃ tokens, Html.lex html = some tokens ∧
        Html.WellNested tokens ∧
        tokens = (blockTokens richMsg.blocks).dropLast ∧
        Html.tags tokens = richMsg.blocks.flatMap fun block => block.shape.tags := by
  intro html
  obtain ⟨tokens, reads, shape⟩ := reads_popNewline richMsg.blocks
  have balanced : Balanced (blockTokens richMsg.blocks) :=
    Balanced.flatMap fun block _ => balanced_view block.view
  have tags : Html.tags (blockTokens richMsg.blocks) =
      richMsg.blocks.flatMap fun block => block.shape.tags := by
    rw [blockTokens, Html.tags_flatMap]
    exact List.flatMap_congr fun block _ => tags_view block
  refine ⟨?_, tokens, reads.lex, ?_⟩
  · rw [renderRichMessageTdlib, noHtml, noMarkdown]
  · rcases shape with ⟨same, rfl⟩ | same
    · rw [same] at balanced tags ⊢
      exact ⟨balanced.wellNested, rfl, tags⟩
    · rw [same] at balanced tags ⊢
      rw [Html.tags_append] at tags
      refine ⟨balanced.of_concat.wellNested, List.dropLast_concat.symm, ?_⟩
      rw [← tags]
      exact (List.append_nil _).symm

/-- A message with a heading that tries to bring a tag of its own. -/
theorem rendered_html_script : ∃ tokens,
    Html.lex (popNewline (renderBlocks [⟨.sectionHeading, .sectionHeading ⟨ascii "<i>\""⟩⟩]).rendered) =
      some tokens ∧ Html.tags tokens = [.start (ascii "b") [], .stop (ascii "b")] := by
  have read := (@rendered_html Unit Text ⟨fun s _ => s, fun _ => .ok []⟩
    { blocks := [⟨.sectionHeading, .sectionHeading ⟨ascii "<i>\""⟩⟩] } {} rfl rfl).2
  obtain ⟨tokens, lexed, -, -, tags⟩ := read
  exact ⟨tokens, lexed, tags⟩

end

/-- The tags are no function of the types of the blocks and of the fields that are present: a table
    without rows has none. -/
theorem rendered_tags_rows : ¬ ∃ tagsOf : List FieldShape → List Tag,
    ∀ blocks tokens, Html.lex (popNewline (renderBlocks blocks).rendered) = some tokens →
      Html.tags tokens = tagsOf (blocks.map RichBlock.fieldShape) := by
  rintro ⟨tagsOf, all⟩
  have empty := all [⟨.table, .table {}⟩] [] (by decide)
  have row := all [⟨.table, .table { cells := [[]] }⟩]
    (blockTokens [⟨.table, .table { cells := [[]] }⟩]).dropLast (by decide)
  have same := empty.trans row.symm
  revert same
  decide

end CppGram.Backend
