import Mathlib.Algebra.BigOperators.Group.Finset.Basic
import CppGram.Lib.Bytes

/-!
# Columns

A row of items is written piece after piece. Where the length of a piece depends on its column only,
so does the place of the piece in the line: `length_pieces` and `span_pieces`. `aligned` is that for
pieces with a separator between them and at both ends.
-/

namespace Columns

/-- Where column `c` starts, if column `i` is `w i` wide. -/
def start (w : Nat → Nat) (c : Nat) : Nat := ∑ i ∈ Finset.range c, w i

lemma start_zero (w : Nat → Nat) : start w 0 = 0 := Finset.sum_range_zero w

lemma start_succ (w : Nat → Nat) (c : Nat) : start w (c + 1) = start w c + w c :=
  Finset.sum_range_succ w c

variable {α β : Type} {piece : α × Nat → List β} {w : Nat → Nat} {row : List α}

/-- The pieces of a row are as wide as their columns. -/
def Fits (piece : α × Nat → List β) (w : Nat → Nat) (row : List α) : Prop :=
  ∀ c a, row[c]? = some a → (piece (a, c)).length = w c

/-- The pieces of a row. -/
def pieces (piece : α × Nat → List β) (row : List α) : List β := row.zipIdx.flatMap piece

/-- The piece of a last cell stands at the end. -/
lemma pieces_concat (row : List α) (a : α) :
    pieces piece (row ++ [a]) = pieces piece row ++ piece (a, row.length) := by
  rw [pieces, List.zipIdx_append, List.flatMap_append, Nat.zero_add]
  exact congrArg (_ ++ ·) (List.append_nil _)

/-- A row that fits does so without its last cell, and the piece of that cell fits its column. -/
lemma Fits.concat {a : α} (fits : Fits piece w (row ++ [a])) :
    Fits piece w row ∧ (piece (a, row.length)).length = w row.length := by
  constructor
  · intro c b here
    have inside := (List.getElem?_eq_some_iff.mp here).1
    exact fits c b ((List.getElem?_append_left inside).trans here)
  · exact fits row.length a List.getElem?_concat_length

/-- A line is as long as its columns. -/
lemma length_pieces (fits : Fits piece w row) : (pieces piece row).length = start w row.length := by
  induction row using List.reverseRecOn with
  | nil => rfl
  | append_singleton row a ih =>
    obtain ⟨before, last⟩ := fits.concat
    rw [pieces_concat, List.length_append, ih before, last, List.length_append, List.length_singleton,
      start_succ]

/-- In a line the piece of a column is where that column starts. -/
theorem span_pieces (fits : Fits piece w row) {c : Nat} {a : α} (here : row[c]? = some a) :
    Bytes.span (pieces piece row) (start w c) (w c) = piece (a, c) := by
  obtain ⟨inside, rfl⟩ := List.getElem?_eq_some_iff.mp here
  have before : Fits piece w (row.take c) := by
    intro i b there
    have left := (List.getElem?_eq_some_iff.mp there).1
    rw [List.length_take] at left
    rw [List.getElem?_take, if_pos (by omega)] at there
    exact fits i b there
  have length : (row.take c).length = c := List.length_take_of_le inside.le
  have split : pieces piece row = pieces piece (row.take c) ++ (piece (row[c], c) ++
      ((row.drop (c + 1)).zipIdx (c + 1)).flatMap piece) := by
    conv_lhs => rw [← List.take_append_drop c row, List.drop_eq_getElem_cons inside]
    rw [pieces, List.zipIdx_append, List.flatMap_append, length, Nat.zero_add, List.zipIdx_cons,
      List.flatMap_cons]
    rfl
  have start := length_pieces before
  rw [length] at start
  rw [split]
  exact Bytes.span_middle start.symm (fits c _ here).symm

/-- A line with a separator in front of every column and at the end, and the contents of the row
    between them. -/
structure Aligned (w : Nat → Nat) (sep : β) (content : α → Nat → List β) (row : List α)
    (text : List β) : Prop where
  length : text.length = 1 + start w row.length
  separators : ∀ c ≤ row.length, text[start w c]? = some sep
  contents : ∀ c a, row[c]? = some a → Bytes.span text (start w c + 1) (w c - 1) = content a c

/-- A separator, and pieces that end with it. -/
theorem aligned {sep : β} {content : α → Nat → List β}
    (each : ∀ c a, row[c]? = some a →
      piece (a, c) = content a c ++ [sep] ∧ (content a c).length + 1 = w c) :
    Aligned w sep content row (sep :: pieces piece row) := by
  have fits : Fits piece w row := by
    intro c a here
    obtain ⟨shape, width⟩ := each c a here
    rw [shape, List.length_append, width.symm]
    rfl
  constructor
  · rw [List.length_cons, length_pieces fits, Nat.add_comm]
  · intro c le
    cases c with
    | zero => rw [start_zero]; rfl
    | succ c =>
      -- the separator ends the piece of the column before
      have here := List.getElem?_eq_getElem (l := row) le
      obtain ⟨shape, width⟩ := each c _ here
      have there := span_pieces fits here
      rw [shape] at there
      have last : (content row[c] c ++ [sep])[(content row[c] c).length]? = some sep :=
        List.getElem?_concat_length
      rw [← there, Bytes.span, List.getElem?_take, if_pos (by omega), List.getElem?_drop] at last
      rw [start_succ, ← width, ← Nat.add_assoc, List.getElem?_cons_succ]
      exact last
  · intro c a here
    obtain ⟨shape, width⟩ := each c a here
    have there := span_pieces fits here
    rw [shape] at there
    have front := congrArg (List.take (w c - 1)) there
    rw [Bytes.span, List.take_take, Nat.min_eq_left (Nat.sub_le _ _),
      List.take_left' (by omega)] at front
    exact front

end Columns
