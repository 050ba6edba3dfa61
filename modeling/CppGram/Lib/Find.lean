import Mathlib.Data.List.Infix
import Mathlib.Tactic.Lemma

/-!
# Substrings

The first place at which a list stands in another one (`find`), and where to look for it in lists that
are put together with a separator it does not contain (`infix_append_iff`).
-/

namespace Find

variable {α : Type} {s needle a b : List α}

/-- What has no separator in it ends before it. -/
lemma prefix_of_other {c : α} (other : c ∉ needle) (front : needle <+: a ++ c :: b) :
    needle <+: a := by
  rcases Nat.lt_or_ge a.length needle.length with long | short
  · have whole : a ++ [c] <+: a ++ c :: b := ⟨b, by rw [List.append_assoc]; rfl⟩
    have inside : a ++ [c] <+: needle :=
      List.prefix_of_prefix_length_le whole front (by rw [List.length_append]; exact long)
    exact absurd (inside.subset (List.mem_append_right a List.mem_cons_self)) other
  · exact List.prefix_of_prefix_length_le front (List.prefix_append a _) short

/-- What has no separator in it stands on one side of it. -/
theorem infix_append_iff {c : α} (other : c ∉ needle) :
    needle <:+: a ++ c :: b ↔ needle <:+: a ∨ needle <:+: b := by
  constructor
  · intro inside
    induction a with
    | nil =>
      rcases List.infix_cons_iff.mp inside with front | inside
      · exact .inl (prefix_of_other other front).isInfix
      · exact .inr inside
    | cons d a ih =>
      rcases List.infix_cons_iff.mp inside with front | inside
      · exact .inl (prefix_of_other (a := d :: a) other front).isInfix
      · exact (ih inside).imp_left List.infix_cons
  · rintro (left | right)
    · exact left.trans (List.prefix_append _ _).isInfix
    · exact right.trans ((List.suffix_cons c b).trans (List.suffix_append a _)).isInfix

variable [DecidableEq α]

/-- The first position at which `needle` stands in `s` (C++ `std::string::find`). -/
def find (s needle : List α) : Option Nat :=
  (List.range (s.length + 1)).find? fun i => decide (needle <+: s.drop i)

/-- It is found where it stands and did not stand before. -/
lemma find_append {rest : List α}
    (first : ∀ j < a.length, ¬ needle <+: (a ++ (needle ++ rest)).drop j) :
    find (a ++ (needle ++ rest)) needle = some a.length := by
  refine List.find?_range_eq_some.mpr ⟨?_, ?_, fun j before => ?_⟩
  · rw [List.drop_left]
    exact decide_eq_true (List.prefix_append _ _)
  · rw [List.mem_range, List.length_append]
    omega
  · rw [decide_eq_false (first j before)]
    rfl

/-- It is found exactly when it stands somewhere. -/
lemma isSome_find : (find s needle).isSome ↔ needle <:+: s := by
  rw [find, List.find?_isSome]
  constructor
  · rintro ⟨i, -, here⟩
    exact (of_decide_eq_true here).isInfix.trans (List.drop_suffix i s).isInfix
  · rintro ⟨front, back, rfl⟩
    refine ⟨front.length, List.mem_range.mpr ?_, ?_⟩
    · simp only [List.length_append]
      omega
    · rw [List.append_assoc, List.drop_left]
      exact decide_eq_true (List.prefix_append _ _)

end Find
