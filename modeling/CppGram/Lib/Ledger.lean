import Mathlib.Data.List.Nodup
import Mathlib.Data.List.Perm.Basic
import Mathlib.Tactic.Lemma

/-!
# Ledgers

Items are entered, each with a number of its own. An item that is entered is held, and its start is
under way; the start succeeds (the item is granted) or fails. Held items may be removed, and each item
that is removed is owed once. A start that fails may take a held item away; if it is ever another item
than the one that failed, the ledger is spoilt, otherwise whatever was granted is held or removed
(`stays`). There is one lemma for each thing that can happen to a ledger.
-/

variable {ι : Type} {number : ι → Nat} {held held' removed granted starting starting' owed owed' : List ι}
  {failed : List (ι × Option ι)} {next : Nat} {r : ι}

/-- A failed start has taken nothing away but its own item. -/
def Ledger.OwnOnly (failed : List (ι × Option ι)) : Prop := ∀ f ∈ failed, ∀ taken ∈ f.2, taken = f.1

/-- Where the items are. -/
structure Ledger (number : ι → Nat) (held removed granted starting owed : List ι)
    (failed : List (ι × Option ι)) (next : Nat) : Prop where
  fresh : ∀ r ∈ (held ++ removed) ++ (granted ++ starting) ++ failed.map Prod.fst, number r < next
  apart : (held ++ removed).Nodup
  single : (granted ++ starting).Nodup
  owes : removed.Perm owed
  gone : ∀ f ∈ failed, f.1 ∉ held
  stays : Ledger.OwnOnly failed → ∀ r ∈ granted ++ starting, r ∈ held ∨ r ∈ removed

namespace Ledger

/-- Nothing owed, nothing held. -/
lemma empty : Ledger number [] [] [] [] [] [] 0 where
  fresh := fun _ h => absurd h List.not_mem_nil
  apart := List.nodup_nil
  single := List.nodup_nil
  owes := List.Perm.refl []
  gone := fun _ h => absurd h List.not_mem_nil
  stays := fun _ _ h => absurd h List.not_mem_nil

/-- Only the order has changed. -/
lemma perm (h : Ledger number held removed granted starting owed failed next)
    (starts : starting.Perm starting') (owes : owed.Perm owed') :
    Ledger number held removed granted starting' owed' failed next where
  fresh r inside := by
    refine h.fresh r ?_
    simpa only [List.mem_append, starts.mem_iff] using inside
  apart := h.apart
  single := (starts.append_left granted).nodup_iff.mp h.single
  owes := h.owes.trans owes
  gone := h.gone
  stays own r inside := h.stays own r ((starts.append_left granted).mem_iff.mpr inside)

/-- An item with the next number is nowhere yet. -/
lemma unknown (h : Ledger number held removed granted starting owed failed next)
    (new : number r = next) : r ∉ (held ++ removed) ++ (granted ++ starting) ++ failed.map Prod.fst :=
  fun inside => absurd (h.fresh r inside) (new ▸ Nat.lt_irrefl _)

/-- An item is entered. -/
lemma enter (h : Ledger number held removed granted starting owed failed next)
    (new : number r = next) :
    Ledger number (held ++ [r]) removed granted (r :: starting) owed failed (next + 1) := by
  have unknown := h.unknown new
  simp only [List.mem_append, not_or] at unknown
  obtain ⟨⟨⟨unheld, unremoved⟩, ungranted, unstarted⟩, unfailed⟩ := unknown
  refine ⟨?_, ?_, ?_, h.owes, ?_, ?_⟩
  · intro x inside
    by_cases same : x = r
    · rw [same, new]
      exact Nat.lt_succ_self _
    · refine Nat.lt_succ_of_lt (h.fresh x ?_)
      simpa only [List.mem_append, List.mem_cons, List.not_mem_nil, or_false, same, false_or] using inside
  · rw [List.append_assoc, List.singleton_append]
    refine List.perm_middle.nodup_iff.mpr (List.nodup_cons.mpr ⟨?_, h.apart⟩)
    simp only [List.mem_append, not_or]
    exact ⟨unheld, unremoved⟩
  · refine List.perm_middle.nodup_iff.mpr (List.nodup_cons.mpr ⟨?_, h.single⟩)
    simp only [List.mem_append, not_or]
    exact ⟨ungranted, unstarted⟩
  · intro f failure inside
    rcases List.mem_append.mp inside with before | now
    · exact h.gone f failure before
    · rw [← List.mem_singleton.mp now] at unfailed
      exact unfailed (List.mem_map_of_mem failure)
  · intro own x inside
    rcases List.mem_cons.mp (List.perm_middle.mem_iff.mp inside) with rfl | before
    · exact .inl (List.mem_append_right _ (List.mem_singleton_self x))
    · exact (h.stays own x before).imp_left (List.mem_append_left _)

/-- Held items are removed, and owed. -/
lemma remove (h : Ledger number held removed granted starting owed failed next) {l : List ι}
    (out : held.Perm (l ++ held')) (owes : (l ++ owed).Perm owed') :
    Ledger number held' (l ++ removed) granted starting owed' failed next := by
  have moved : (held' ++ (l ++ removed)).Perm (held ++ removed) := by
    rw [← List.append_assoc]
    exact (List.perm_append_comm.trans out.symm).append_right removed
  refine ⟨?_, moved.nodup_iff.mpr h.apart, h.single, (h.owes.append_left l).trans owes, ?_, ?_⟩
  · intro x inside
    exact h.fresh x (((moved.append_right _).append_right _).mem_iff.mp inside)
  · intro f failure inside
    exact h.gone f failure (out.mem_iff.mpr (List.mem_append_right l inside))
  · intro own x inside
    have place := List.mem_append.mpr (h.stays own x inside)
    rcases List.mem_append.mp (moved.mem_iff.mpr place) with there | out
    · exact .inl there
    · exact .inr out

/-- A start succeeds. -/
lemma grant (h : Ledger number held removed granted starting owed failed next)
    (ends : starting.Perm (r :: starting')) :
    Ledger number held removed (r :: granted) starting' owed failed next := by
  have moved : (r :: granted ++ starting').Perm (granted ++ starting) :=
    List.perm_middle.symm.trans (ends.symm.append_left granted)
  refine ⟨?_, h.apart, moved.nodup_iff.mpr h.single, h.owes, h.gone, ?_⟩
  · intro x inside
    exact h.fresh x (((moved.append_left _).append_right _).mem_iff.mp inside)
  · intro own x inside
    exact h.stays own x (moved.mem_iff.mp inside)

/-- A start fails, and takes away a held item or none; its own item is not held any more. -/
lemma fail (h : Ledger number held removed granted starting owed failed next) {taken : Option ι}
    (ends : starting.Perm (r :: starting')) (out : held.Perm (taken.toList ++ held'))
    (lost : r ∉ held') :
    Ledger number held' removed granted starting' owed ((r, taken) :: failed) next := by
  have kept {x} (inside : x ∈ held') : x ∈ held := out.mem_iff.mpr (List.mem_append_right _ inside)
  have old : (r :: (granted ++ starting')).Perm (granted ++ starting) :=
    List.perm_middle.symm.trans (ends.symm.append_left granted)
  obtain ⟨ended, single⟩ := List.nodup_cons.mp (old.nodup_iff.mpr h.single)
  refine ⟨?_, ?_, single, h.owes, ?_, ?_⟩
  · intro x inside
    refine h.fresh x ?_
    have begun : x = r ∨ x ∈ granted ++ starting' → x ∈ granted ++ starting := fun place =>
      old.mem_iff.mp (List.mem_cons.mpr place)
    simp only [List.map_cons, List.mem_append, List.mem_cons] at inside begun ⊢
    tauto
  · have whole := (out.append_right removed).nodup_iff.mp h.apart
    rw [List.append_assoc] at whole
    exact whole.of_append_right
  · intro f failure inside
    rcases List.mem_cons.mp failure with rfl | before
    · exact lost inside
    · exact h.gone f before (kept inside)
  · intro own x inside
    have before : OwnOnly failed := fun f failure => own f (List.mem_cons_of_mem _ failure)
    refine (h.stays before x (old.mem_iff.mp (List.mem_cons_of_mem r inside))).imp_left fun there => ?_
    rcases List.mem_append.mp (out.mem_iff.mp there) with erased | there
    · -- what was taken away is the item that failed, whose start is over
      have itself : x = r := own (r, taken) List.mem_cons_self x (Option.mem_toList.mp erased)
      exact absurd (itself ▸ inside) ended
    · exact there

end Ledger
