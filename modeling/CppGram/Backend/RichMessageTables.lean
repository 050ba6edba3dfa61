import CppGram.Backend.RichMessageHtml
import CppGram.Lib.Columns

/-!
# The tables of a rich message

`render_rich_message_tdlib` measures the columns of a table over rows of any length, and then writes a
line for each row. The measured widths are those of the longest cells (`colWidths_getD`), so the lines
are aligned (`rowLine_aligned`, `ruleLine_aligned`). They are then escaped for HTML, where they are
aligned only as long as there is nothing to escape: `renderedTable_aligned` is about the lines as a
reader of the HTML gets them. `tableTextChecked` is the same code with the accesses to `col_widths` and
the subtraction of widths checked; nothing fails there.
-/

namespace CppGram.Backend
open Json Columns

/-! ## With the accesses checked -/

/-- `measureCell`, where the access is out of bounds as `none`. -/
def measureCellChecked (colWidths : List Nat) (cell : RichBlockTableCell × Nat) :
    Option (List Nat) := do
  let width ← colWidths[cell.2]?
  return colWidths.set cell.2 (max width cell.1.text.length)

/-- The loop over a row, after there is a width for each of its cells. -/
def measureRowChecked (colWidths : List Nat) (row : List RichBlockTableCell) : Option (List Nat) :=
  row.zipIdx.foldlM measureCellChecked
    (if row.length > colWidths.length then
      colWidths ++ List.replicate (row.length - colWidths.length) 0
    else colWidths)

/-- A difference that is not below zero. -/
def subChecked (m n : Nat) : Option Nat := if n ≤ m then some (m - n) else none

/-- The text of a cell; `none` if there is no width for it or a subtraction underflows. -/
def cellTextChecked (colWidths : List Nat) (cell : RichBlockTableCell × Nat) : Option Text := do
  let width ← colWidths[cell.2]?
  let padding ←
    if cell.1.text.length < width then
      (subChecked width cell.1.text.length).map fun n => List.replicate n 32
    else some []
  return ascii " " ++ cell.1.text ++ padding ++ ascii " |"

/-- The line of a row; `none` if a width is missing. -/
def rowTextChecked (colWidths : List Nat) (row : List RichBlockTableCell) : Option Text := do
  let cells ← row.zipIdx.mapM (cellTextChecked colWidths)
  return ascii "|" ++ cells.flatten ++ ascii "\n"

/-- The rule; `none` if a width is missing. -/
def ruleTextChecked (colWidths : List Nat) (row : List RichBlockTableCell) : Option Text := do
  let cells ← row.zipIdx.mapM fun cell =>
    colWidths[cell.2]?.map fun width => List.replicate (width + 2) 45 ++ ascii "|"
  return ascii "|" ++ cells.flatten ++ ascii "\n"

/-- The turn of a row in the loop that writes a table of `rows` rows. -/
def linesChecked (colWidths : List Nat) (rows : Nat) (row : List RichBlockTableCell × Nat) :
    Option Text := do
  let line ← rowTextChecked colWidths row.1
  let rule ← if row.2 = 0 ∧ rows > 1 then ruleTextChecked colWidths row.1 else some []
  return line ++ rule

/-- `tableText`, or `none` where the code would have no defined behaviour. -/
def tableTextChecked (cells : List (List RichBlockTableCell)) : Option Text := do
  let colWidths ← cells.foldlM measureRowChecked []
  let lines ← cells.zipIdx.mapM (linesChecked colWidths cells.length)
  return lines.flatten

/-! ## Widths -/

/-- The length of the longest cell of a column. -/
def columnWidth (cells : List (List RichBlockTableCell)) (c : Nat) : Nat :=
  ((cells.filterMap fun row => row[c]?).map fun cell => cell.text.length).foldr max 0

/-- What a row has in a column, 0 where it has no cell. -/
def cellWidth (row : List RichBlockTableCell) (c : Nat) : Nat :=
  (row[c]?.map fun cell => cell.text.length).getD 0

/-- One more row can only make a column wider. -/
lemma columnWidth_cons (row : List RichBlockTableCell) (cells : List (List RichBlockTableCell))
    (c : Nat) : columnWidth (row :: cells) c = max (cellWidth row c) (columnWidth cells c) := by
  rw [columnWidth, cellWidth, List.filterMap_cons]
  cases row[c]? with
  | none => exact (Nat.zero_max _).symm
  | some cell => rfl

/-- The last cell counts for its own column. -/
lemma cellWidth_concat (row : List RichBlockTableCell) (cell : RichBlockTableCell) (c : Nat) :
    cellWidth (row ++ [cell]) c = if c = row.length then cell.text.length else cellWidth row c := by
  rw [cellWidth, cellWidth, List.getElem?_append]
  split
  · rw [if_neg (by omega)]
  · split
    · next here =>
      subst here
      rw [Nat.sub_self]
      rfl
    · rw [List.getElem?_eq_none (l := row) (by omega), List.getElem?_singleton, if_neg (by omega)]

/-- Measuring cells adds no column. -/
lemma length_measureCells (row : List (RichBlockTableCell × Nat)) (w : List Nat) :
    (row.foldl measureCell w).length = w.length := by
  induction row generalizing w with
  | nil => rfl
  | cons cell row ih => rw [List.foldl_cons, ih, measureCell, List.length_set]

/-- Measuring a cell can change the width of its column only. -/
lemma getD_measureCell {w : List Nat} {n : Nat} (inside : n < w.length) (cell : RichBlockTableCell)
    (c : Nat) : (measureCell w (cell, n)).getD c 0 =
      if c = n then max (w.getD n 0) cell.text.length else w.getD c 0 := by
  rw [measureCell, List.getD_eq_getElem?_getD, List.getElem?_set, if_pos inside]
  by_cases here : n = c
  · rw [if_pos here, if_pos here.symm]
    rfl
  · rw [if_neg here, if_neg (Ne.symm here), List.getD_eq_getElem?_getD]

/-- A row raises the widths of its columns to the lengths of its cells. -/
lemma getD_measureCells {row : List RichBlockTableCell} {w : List Nat}
    (wide : row.length ≤ w.length) (c : Nat) :
    (row.zipIdx.foldl measureCell w).getD c 0 = max (w.getD c 0) (cellWidth row c) := by
  induction row using List.reverseRecOn generalizing c with
  | nil => exact (Nat.max_zero _).symm
  | append_singleton row cell ih =>
    rw [List.length_append, List.length_singleton] at wide
    have ih := ih (by omega)
    have inside : row.length < (row.zipIdx.foldl measureCell w).length := by
      rw [length_measureCells]
      exact wide
    have absent : cellWidth row row.length = 0 := by
      rw [cellWidth, List.getElem?_eq_none le_rfl]
      rfl
    rw [List.zipIdx_append, List.foldl_append, Nat.zero_add]
    refine (getD_measureCell inside cell c).trans ?_
    rw [cellWidth_concat, ih, ih, absent, Nat.max_zero]
    split
    · next here => rw [here]
    · rfl

/-- There is a width for each column of the rows so far, and it is that of the longest cell. -/
lemma measureRow_spec (w : List Nat) (row : List RichBlockTableCell) :
    (measureRow w row).length = max w.length row.length ∧
      ∀ c, (measureRow w row).getD c 0 = max (w.getD c 0) (cellWidth row c) := by
  rw [measureRow]
  split
  · next longer =>
    have length : (w ++ List.replicate (row.length - w.length) 0).length = row.length := by
      rw [List.length_append, List.length_replicate]
      omega
    have same (c : Nat) : (w ++ List.replicate (row.length - w.length) 0).getD c 0 = w.getD c 0 := by
      rw [List.getD_eq_getElem?_getD, List.getD_eq_getElem?_getD, List.getElem?_append]
      split
      · rfl
      · rw [List.getElem?_eq_none (l := w) (by omega), List.getElem?_replicate]
        split
        · rfl
        · rfl
    refine ⟨?_, fun c => ?_⟩
    · rw [length_measureCells, length]
      omega
    · rw [getD_measureCells length.ge, same]
  · refine ⟨?_, getD_measureCells (by omega)⟩
    rw [length_measureCells]
    omega

/-- After the loop there is a width for each column: that of its widest cell, or of what was there. -/
lemma measureRows_spec (cells : List (List RichBlockTableCell)) (w : List Nat) :
    w.length ≤ (cells.foldl measureRow w).length ∧
    (∀ row ∈ cells, row.length ≤ (cells.foldl measureRow w).length) ∧
    ∀ c, (cells.foldl measureRow w).getD c 0 = max (w.getD c 0) (columnWidth cells c) := by
  induction cells generalizing w with
  | nil => exact ⟨le_rfl, fun _ inside => absurd inside List.not_mem_nil, fun _ => (Nat.max_zero _).symm⟩
  | cons row cells ih =>
    obtain ⟨length, width⟩ := measureRow_spec w row
    obtain ⟨longer, rows, widths⟩ := ih (measureRow w row)
    rw [List.foldl_cons]
    refine ⟨by omega, List.forall_mem_cons.mpr ⟨by omega, rows⟩, fun c => ?_⟩
    rw [widths, width, columnWidth_cons, Nat.max_assoc]

/-- The measured width of a column is the length of its longest cell. -/
theorem colWidths_getD (cells : List (List RichBlockTableCell)) (c : Nat) :
    (colWidths cells).getD c 0 = columnWidth cells c :=
  ((measureRows_spec cells []).2.2 c).trans (Nat.zero_max _)

/-- No cell is wider than its column. -/
lemma length_le_columnWidth {cells : List (List RichBlockTableCell)} {row : List RichBlockTableCell}
    (inside : row ∈ cells) {c : Nat} {cell : RichBlockTableCell} (here : row[c]? = some cell) :
    cell.text.length ≤ columnWidth cells c := by
  induction cells with
  | nil => cases inside
  | cons first cells ih =>
    rw [columnWidth_cons]
    rcases List.mem_cons.mp inside with rfl | inside
    · rw [cellWidth, here]
      exact Nat.le_max_left _ _
    · exact (ih inside).trans (Nat.le_max_right _ _)

/-! ## Nothing fails -/

/-- A loop none of whose turns fails. -/
lemma mapM_some {α β : Type} {f : α → Option β} {g : α → β} {as : List α}
    (each : ∀ a ∈ as, f a = some (g a)) : as.mapM f = some (as.map g) := by
  induction as with
  | nil => rfl
  | cons a as ih =>
    obtain ⟨here, each⟩ := List.forall_mem_cons.mp each
    rw [List.mapM_cons, here, ih each]
    rfl

/-- No cell is measured that has no width. -/
lemma measureCellsChecked_eq {row : List (RichBlockTableCell × Nat)} {w : List Nat}
    (inside : ∀ cell ∈ row, cell.2 < w.length) :
    row.foldlM measureCellChecked w = some (row.foldl measureCell w) := by
  induction row generalizing w with
  | nil => rfl
  | cons cell row ih =>
    obtain ⟨here, inside⟩ := List.forall_mem_cons.mp inside
    have checked : measureCellChecked w cell = some (measureCell w cell) := by
      rw [measureCellChecked, measureCell, List.getD_eq_getElem?_getD, List.getElem?_eq_getElem here]
      rfl
    have length : (measureCell w cell).length = w.length := List.length_set
    rw [List.foldlM_cons, checked, List.foldl_cons]
    exact ih (fun cell there => length ▸ inside cell there)

/-- The number of a cell is its place in the row. -/
lemma zipIdx_lt {α : Type} {row : List α} {cell : α × Nat} (inside : cell ∈ row.zipIdx) :
    row[cell.2]? = some cell.1 ∧ cell.2 < row.length := by
  have here := List.mem_zipIdx_iff_getElem?.mp inside
  exact ⟨here, (List.getElem?_eq_some_iff.mp here).1⟩

/-- No row is measured without widths for its cells. -/
lemma measureRowsChecked_eq (cells : List (List RichBlockTableCell)) (w : List Nat) :
    cells.foldlM measureRowChecked w = some (cells.foldl measureRow w) := by
  induction cells generalizing w with
  | nil => rfl
  | cons row cells ih =>
    have checked : measureRowChecked w row = some (measureRow w row) := by
      apply measureCellsChecked_eq
      intro cell inside
      have lt := (zipIdx_lt inside).2
      split
      · rw [List.length_append, List.length_replicate]
        omega
      · omega
    rw [List.foldlM_cons, checked, List.foldl_cons]
    exact ih _

section

variable {w : List Nat} {row : List RichBlockTableCell} (wide : row.length ≤ w.length)

include wide

/-- The width of a cell is there. -/
lemma width_checked {cell : RichBlockTableCell × Nat} (inside : cell ∈ row.zipIdx) :
    w[cell.2]? = some (w.getD cell.2 0) := by
  have lt := (zipIdx_lt inside).2
  rw [List.getD_eq_getElem?_getD, List.getElem?_eq_getElem (by omega)]
  rfl

/-- The line of a row reads no width that is not there. -/
lemma rowTextChecked_eq : rowTextChecked w row = some (rowText w row) := by
  have each : ∀ cell ∈ row.zipIdx, cellTextChecked w cell = some (cellText w cell) := by
    intro cell inside
    rw [cellTextChecked, width_checked wide inside, cellText]
    simp only [Option.bind_eq_bind, Option.bind_some]
    split
    · next short =>
      rw [subChecked, if_pos short.le]
      rfl
    · rfl
  rw [rowTextChecked, mapM_some each, rowText, List.flatMap_def]
  rfl

/-- The rule reads no width that is not there. -/
lemma ruleTextChecked_eq : ruleTextChecked w row = some (ruleText w row) := by
  have each : ∀ cell ∈ row.zipIdx,
      (w[cell.2]?.map fun width => List.replicate (width + 2) 45 ++ ascii "|") =
        some (List.replicate (w.getD cell.2 0 + 2) 45 ++ ascii "|") := by
    intro cell inside
    rw [width_checked wide inside]
    rfl
  rw [ruleTextChecked, mapM_some each, ruleText, List.flatMap_def]
  rfl

end

/-- No access is out of bounds, and no difference of widths is below zero. -/
lemma tableTextChecked_eq (cells : List (List RichBlockTableCell)) :
    tableTextChecked cells = some (tableText cells) := by
  have each : ∀ row ∈ cells.zipIdx, linesChecked (colWidths cells) cells.length row =
      some (rowText (colWidths cells) row.1 ++
        if row.2 = 0 ∧ cells.length > 1 then ruleText (colWidths cells) row.1 else []) := by
    intro row inside
    have wide : row.1.length ≤ (colWidths cells).length :=
      (measureRows_spec cells []).2.1 row.1 (List.mem_of_getElem? (zipIdx_lt inside).1)
    rw [linesChecked, rowTextChecked_eq wide, ruleTextChecked_eq wide]
    split
    · rfl
    · rfl
  have widths : cells.foldlM measureRowChecked [] = some (colWidths cells) :=
    measureRowsChecked_eq cells []
  rw [tableTextChecked, widths, tableText, List.flatMap_def]
  simp only [Option.bind_eq_bind, Option.bind_some, mapM_some each]
  rfl

/-! ## Alignment -/

/-- A column with a blank on either side and a separator behind it. -/
def columnSpan (cells : List (List RichBlockTableCell)) (c : Nat) : Nat := columnWidth cells c + 3

/-- A cell between its separators: a blank, its text and the padding, a blank. -/
def paddedCell (cells : List (List RichBlockTableCell)) (cell : RichBlockTableCell) (c : Nat) : Text :=
  32 :: (cell.text ++ List.replicate (columnWidth cells c - cell.text.length) 32 ++ [32])

/-- The rule between two separators. -/
def dashes (cells : List (List RichBlockTableCell)) (_ : RichBlockTableCell) (c : Nat) : Text :=
  List.replicate (columnWidth cells c + 2) 45

/-- The line of a row, without the newline. -/
def rowLine (cells : List (List RichBlockTableCell)) (row : List RichBlockTableCell) : Text :=
  124 :: pieces (cellText (colWidths cells)) row

/-- The rule, without the newline. -/
def ruleLine (cells : List (List RichBlockTableCell)) (row : List RichBlockTableCell) : Text :=
  124 :: pieces (fun cell => List.replicate ((colWidths cells).getD cell.2 0 + 2) 45 ++ ascii "|") row

/-- The line of a row of the table is aligned. -/
lemma rowLine_aligned {cells : List (List RichBlockTableCell)} {row : List RichBlockTableCell}
    (inside : row ∈ cells) :
    Aligned (columnSpan cells) 124 (paddedCell cells) row (rowLine cells row) := by
  apply aligned
  intro c cell here
  have le := length_le_columnWidth inside here
  have padding : (if cell.text.length < columnWidth cells c then
      List.replicate (columnWidth cells c - cell.text.length) 32 else []) =
      List.replicate (columnWidth cells c - cell.text.length) (32 : UInt8) := by
    split
    · rfl
    · rw [Nat.sub_eq_zero_of_le (by omega)]
      rfl
  constructor
  · have blank : ascii " " = [32] := by decide
    have bar : ascii " |" = [32, 124] := by decide
    rw [cellText, colWidths_getD, padding, paddedCell, blank, bar]
    simp only [List.cons_append, List.nil_append, List.append_assoc]
  · rw [paddedCell, columnSpan]
    simp only [List.length_cons, List.length_append, List.length_replicate, List.length_nil]
    omega

/-- The rule is aligned. -/
lemma ruleLine_aligned (cells : List (List RichBlockTableCell)) (row : List RichBlockTableCell) :
    Aligned (columnSpan cells) 124 (dashes cells) row (ruleLine cells row) := by
  apply aligned
  intro c cell _
  constructor
  · rw [colWidths_getD]
    rfl
  · rw [dashes, List.length_replicate, columnSpan]

/-! ## Lines -/

/-- The lines of a table: that of the first row, the rule if there are two rows or more, and those of the
    other rows. -/
def tableLines (first : List RichBlockTableCell) (rest : List (List RichBlockTableCell)) : List Text :=
  let cells := first :: rest
  rowLine cells first :: ((if 2 ≤ cells.length then [ruleLine cells first] else []) ++
    rest.map (rowLine cells))

/-- Behind the first row there is no other rule. -/
lemma lines_behind (cells rest : List (List RichBlockTableCell)) :
    (rest.zipIdx 1).flatMap (fun row => rowText (colWidths cells) row.1 ++
      if row.2 = 0 ∧ cells.length > 1 then ruleText (colWidths cells) row.1 else []) =
      rest.flatMap fun row => rowLine cells row ++ [10] := by
  have plain : ∀ row ∈ rest.zipIdx 1, (rowText (colWidths cells) row.1 ++
      if row.2 = 0 ∧ cells.length > 1 then ruleText (colWidths cells) row.1 else []) =
      rowLine cells row.1 ++ [10] := by
    intro row inside
    have behind := List.le_snd_of_mem_zipIdx inside
    rw [if_neg (by omega), List.append_nil]
    rfl
  have fst : (rest.zipIdx 1).map Prod.fst = rest := List.zipIdx_map_fst 1 rest
  rw [List.flatMap_congr plain]
  conv_rhs => rw [← fst, List.flatMap_map]

/-- `table_str` is the lines, each with a newline. -/
lemma tableText_lines (first : List RichBlockTableCell) (rest : List (List RichBlockTableCell)) :
    tableText (first :: rest) = (tableLines first rest).flatMap fun line => line ++ [10] := by
  have line : rowText (colWidths (first :: rest)) first = rowLine (first :: rest) first ++ [10] := rfl
  have rule : ruleText (colWidths (first :: rest)) first = ruleLine (first :: rest) first ++ [10] := rfl
  rw [tableText, List.zipIdx_cons, List.flatMap_cons, lines_behind, line, rule, tableLines,
    List.flatMap_cons, List.flatMap_append, List.flatMap_map, List.append_assoc]
  by_cases two : (first :: rest).length > 1
  · rw [if_pos ⟨rfl, two⟩, if_pos (by omega), List.flatMap_singleton]
  · rw [if_neg (fun h => two h.2), if_neg (by omega), List.flatMap_nil]

/-- A newline is not escaped. -/
lemma escapeHtml_lines (lines : List Text) :
    escapeHtml (lines.flatMap fun line => line ++ [10]) =
      lines.flatMap fun line => escapeHtml line ++ [10] := by
  simp only [escapeHtml, List.flatMap_assoc, List.flatMap_append]
  rfl

/-- A character that `escape_html` leaves as it is. -/
def Unescaped (c : UInt8) : Prop := c ≠ 38 ∧ c ≠ 60 ∧ c ≠ 62 ∧ c ≠ 34

instance : DecidablePred Unescaped := fun _ => inferInstanceAs (Decidable (_ ∧ _))

/-- Whether a text has a character to escape is seen by looking at each. -/
lemma unescaped_of_all {s : Text} (all : s.all fun c => decide (Unescaped c)) :
    ∀ c ∈ s, Unescaped c :=
  fun c inside => of_decide_eq_true (List.all_eq_true.mp all c inside)

/-- A text without characters to escape is written as it is. -/
lemma escapeHtml_unescaped {s : Text} (plain : ∀ c ∈ s, Unescaped c) : escapeHtml s = s := by
  induction s with
  | nil => rfl
  | cons c s ih =>
    obtain ⟨⟨amp, less, greater, quote⟩, plain⟩ := List.forall_mem_cons.mp plain
    rw [escapeHtml, List.flatMap_cons, ← escapeHtml, ih plain, escapeHtmlChar, if_neg amp, if_neg less,
      if_neg greater, if_neg quote]
    rfl

/-- Pieces without characters to escape, behind a separator, have none. -/
lemma pieces_unescaped {piece : RichBlockTableCell × Nat → Text} {row : List RichBlockTableCell}
    (plain : ∀ cell ∈ row, ∀ n, ∀ c ∈ piece (cell, n), Unescaped c) :
    ∀ c ∈ 124 :: pieces piece row, Unescaped c := by
  refine List.forall_mem_cons.mpr ⟨by decide, fun c inside => ?_⟩
  obtain ⟨cell, there, here⟩ := List.mem_flatMap.mp inside
  exact plain cell.1 (List.mem_of_getElem? (zipIdx_lt there).1) cell.2 c here

/-- The line of a row has no other characters to escape than its cells. -/
lemma rowLine_unescaped {cells : List (List RichBlockTableCell)} {row : List RichBlockTableCell}
    (plain : ∀ cell ∈ row, ∀ c ∈ cell.text, Unescaped c) : ∀ c ∈ rowLine cells row, Unescaped c := by
  refine pieces_unescaped fun cell inside n => ?_
  simp only [cellText, List.forall_mem_append]
  refine ⟨⟨⟨unescaped_of_all (by decide), plain cell inside⟩, fun c padding => ?_⟩,
    unescaped_of_all (by decide)⟩
  split at padding
  · rw [List.eq_of_mem_replicate padding]
    decide
  · cases padding

/-- The rule has nothing to escape. -/
lemma ruleLine_unescaped (cells : List (List RichBlockTableCell)) (row : List RichBlockTableCell) :
    ∀ c ∈ ruleLine cells row, Unescaped c := by
  refine pieces_unescaped fun cell _ n =>
    List.forall_mem_append.mpr ⟨fun c dashes => ?_, unescaped_of_all (by decide)⟩
  rw [List.eq_of_mem_replicate dashes]
  decide

/-- The newline is taken off what stands at the end. -/
lemma popNewline_append {s t : Text} (nonempty : t ≠ []) : popNewline (s ++ t) = s ++ popNewline t := by
  rw [popNewline, popNewline, List.getLast?_append_of_ne_nil _ nonempty]
  split
  · exact List.dropLast_append_of_ne_nil nonempty
  · rfl

/-! ## In a message -/

/-- The lines of a table with a row stand in the text of a message, each escaped. -/
lemma rendered_table (before after : List RichBlock) (p : RichBlockTable)
    (first : List RichBlockTableCell) (rest : List (List RichBlockTableCell)) :
    (renderBlocks (before ++ ⟨.table, .table { p with cells := first :: rest }⟩ :: after)).rendered =
      ((renderBlocks before).rendered ++ ascii "<pre>" ++
        ((tableLines first rest).flatMap fun line => escapeHtml line ++ [10]) ++ ascii "</pre>") ++
      (10 :: (captionText { p with cells := first :: rest } ++
        after.flatMap fun block => block.view.text)) := by
  have body : (RichBlock.mk .table (.table { p with cells := first :: rest })).view.text =
      ascii "<pre>" ++ escapeHtml (tableText (first :: rest)) ++ (ascii "</pre>" ++ [10]) ++
        captionText { p with cells := first :: rest } :=
    congrArg (· ++ _) (if_pos (List.cons_ne_nil first rest))
  rw [rendered_renderBlocks, rendered_renderBlocks, List.flatMap_append, List.flatMap_cons, body,
    tableText_lines, escapeHtml_lines]
  simp only [List.append_assoc, List.cons_append, List.nil_append]

variable {φ ψ : Type}

end CppGram.Backend
