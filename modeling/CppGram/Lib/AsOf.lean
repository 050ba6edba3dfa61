import Mathlib.Data.List.Forall2
import Mathlib.Data.List.Infix
import Mathlib.Tactic.Lemma

/-!
# Reads of what others write

A history is the list of what has been written, the latest first; it grows at the front, and what it was
before is a suffix of it. A reader who begins at one moment and is done at another, while others write,
has read as of some moment between the two.

`AsOf since now P` says that the history has been at a moment with `P` between `since` and `now`.
-/

/-- At some moment between two, what has been written satisfies `P`. -/
def AsOf {α : Type} (since now : List α) (P : List α → Prop) : Prop :=
  ∃ past, since <:+ past ∧ past <:+ now ∧ P past

namespace AsOf

variable {α : Type} {since now : List α} {P Q : List α → Prop}

/-- A read that is made now. -/
lemma here (begun : since <:+ now) (holds : P now) : AsOf since now P :=
  ⟨now, begun, List.suffix_rfl, holds⟩

/-- More is written afterwards. -/
lemma later {after : List α} (h : AsOf since now P) (more : now <:+ after) : AsOf since after P := by
  obtain ⟨past, begun, done, holds⟩ := h
  exact ⟨past, begun, done.trans more, holds⟩

lemma imp (h : AsOf since now P) (implies : ∀ past, P past → Q past) : AsOf since now Q := by
  obtain ⟨past, begun, done, holds⟩ := h
  exact ⟨past, begun, done, implies past holds⟩

/-- Reads one after the other, each as of its own moment, stay so when more is written. -/
lemma forall₂_later {β γ : Type} {R : β → γ → List α → Prop} {after : List α} {l : List β} {r : List γ}
    (h : List.Forall₂ (fun b c => AsOf since now (R b c)) l r) (more : now <:+ after) :
    List.Forall₂ (fun b c => AsOf since after (R b c)) l r :=
  h.imp fun _ _ read => read.later more

end AsOf
