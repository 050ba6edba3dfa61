import Mathlib.Data.List.Basic
import Mathlib.Data.List.Nodup
import Mathlib.Data.Set.Insert

/-!
# Tables with a key, and logs of records

A table is a list of rows no two of which have one key (`Unique`). `upsert` writes a row over the row
with its key, or behind the others; `find?` by the key reads it back.

A log is the list of the records written, the latest first. `current` is what a table holds that the
records have been written to, `lastWith` the last record with a property, wherever its key has been
written since. `latestIn_standing` is for the case that this record still stands.
-/

namespace Tables

variable {ρ κ : Type} [DecidableEq κ] (key : ρ → κ)

/-- Write `row` over the row with its key, or behind the others. -/
def upsert (row : ρ) : List ρ → List ρ
  | [] => [row]
  | r :: rows => if key r = key row then row :: rows else r :: upsert row rows

/-- The row with a key. -/
def find (rows : List ρ) (k : κ) : Option ρ := rows.find? (key · = k)

/-- Take out the row with a key. -/
def delete (rows : List ρ) (k : κ) : List ρ := rows.filter (key · ≠ k)

/-- No two rows have one key. -/
def Unique (rows : List ρ) : Prop := (rows.map key).Nodup

variable {key} {rows : List ρ}

lemma find_key {k : κ} {r : ρ} (h : find key rows k = some r) : key r = k :=
  of_decide_eq_true (List.find?_some (p := fun x => decide (key x = k)) h)

lemma mem_of_find {k : κ} {r : ρ} (h : find key rows k = some r) : r ∈ rows :=
  List.mem_of_find?_eq_some h

/-- In a table the row that stands under its key is the only one with it. -/
lemma mem_iff_find (unique : Unique key rows) (r : ρ) :
    r ∈ rows ↔ find key rows (key r) = some r := by
  refine ⟨fun h => ?_, mem_of_find⟩
  induction rows with
  | nil => cases h
  | cons x xs ih =>
    obtain ⟨fresh, unique⟩ := List.nodup_cons.mp unique
    rw [find, List.find?_cons]
    by_cases hk : key x = key r
    · rcases List.mem_cons.mp h with rfl | inside
      · rw [decide_eq_true hk]
      · exact absurd (hk ▸ List.mem_map_of_mem inside) fresh
    · rcases List.mem_cons.mp h with rfl | inside
      · exact absurd rfl hk
      · rw [decide_eq_false hk]
        exact ih unique inside

/-- Behind an upsert, the new row is found under its key and the other rows as before. -/
lemma find_upsert (row : ρ) (k : κ) :
    find key (upsert key row rows) k = if key row = k then some row else find key rows k := by
  induction rows with
  | nil => by_cases hk : key row = k <;> simp [upsert, find, hk]
  | cons r rows ih =>
    rw [upsert]
    by_cases same : key r = key row
    · rw [if_pos same]
      by_cases hk : key row = k
      · simp [find, hk]
      · have other : key r ≠ k := fun h => hk (same.symm.trans h)
        simp [find, hk, other]
    · rw [if_neg same]
      by_cases hk : key r = k
      · have other : key row ≠ k := fun h => same (hk.trans h.symm)
        simp [find, hk, other]
      · rw [find, List.find?_cons, decide_eq_false hk, find, List.find?_cons, decide_eq_false hk]
        exact ih

/-- Behind a delete, nothing is found under the key and the other rows as before. -/
lemma find_delete (k j : κ) :
    find key (delete key rows k) j = if k = j then none else find key rows j := by
  rw [find, delete, List.find?_filter]
  by_cases same : k = j
  · rw [if_pos same, List.find?_eq_none]
    intro r _
    rw [same]
    simp
  · rw [if_neg same, find]
    congr 1
    funext r
    by_cases hk : key r = j
    · have other : key r ≠ k := fun h => same (h.symm.trans hk)
      simp [hk, Ne.symm same]
    · simp [hk]

/-- A row whose key is not there goes behind the others. -/
lemma upsert_absent {row : ρ} (absent : find key rows (key row) = none) :
    upsert key row rows = rows ++ [row] := by
  induction rows with
  | nil => rfl
  | cons r rows ih =>
    rw [find, List.find?_cons] at absent
    by_cases same : key r = key row
    · rw [decide_eq_true same] at absent
      cases absent
    · rw [decide_eq_false same] at absent
      rw [upsert, if_neg same, ih absent, List.cons_append]

lemma isSome_find {k : κ} : (find key rows k).isSome ↔ k ∈ rows.map key := by
  rw [find, List.find?_isSome, List.mem_map]
  simp only [decide_eq_true_eq]

/-- Writing a row adds its key behind the others, unless it is there. -/
lemma map_upsert {row : ρ} : (upsert key row rows).map key =
    if key row ∈ rows.map key then rows.map key else rows.map key ++ [key row] := by
  induction rows with
  | nil => rfl
  | cons r rows ih =>
    rw [upsert]
    by_cases same : key r = key row
    · rw [if_pos same, List.map_cons, List.map_cons, same, if_pos List.mem_cons_self]
    · have elsewhere : key row ∈ (r :: rows).map key ↔ key row ∈ rows.map key :=
        List.mem_cons.trans (or_iff_right (Ne.symm same))
      rw [if_neg same, List.map_cons, ih, if_congr elsewhere rfl rfl]
      split <;> rfl

lemma map_delete {k : κ} : (delete key rows k).map key = (rows.map key).filter (· ≠ k) := by
  rw [delete, List.filter_map]
  rfl

/-- An upsert adds no key but its own. -/
lemma mem_keys_upsert {row : ρ} {k : κ} (h : k ∈ (upsert key row rows).map key) :
    k = key row ∨ k ∈ rows.map key := by
  induction rows with
  | nil => exact .inl (List.mem_singleton.mp h)
  | cons r rows ih =>
    rw [upsert] at h
    split at h
    · rcases List.mem_cons.mp h with here | later
      · exact .inl here
      · exact .inr (List.mem_cons_of_mem _ later)
    · rcases List.mem_cons.mp h with here | later
      · exact .inr (here ▸ List.mem_cons_self)
      · exact (ih later).imp_right (List.mem_cons_of_mem _)

/-- An upsert keeps the keys unique. -/
lemma Unique.upsert (unique : Unique key rows) (row : ρ) : Unique key (upsert key row rows) := by
  induction rows with
  | nil => exact List.nodup_singleton _
  | cons r rows ih =>
    obtain ⟨fresh, rest⟩ := List.nodup_cons.mp unique
    rw [Tables.upsert]
    split
    · next same => exact List.nodup_cons.mpr ⟨same ▸ fresh, rest⟩
    · next other =>
      refine List.nodup_cons.mpr ⟨fun inside => ?_, ih rest⟩
      rcases mem_keys_upsert inside with same | inside
      · exact other same
      · exact fresh inside

/-- The row that is taken out, and the others. -/
lemma perm_cons_delete {k : κ} {r : ρ} (unique : Unique key rows) (found : find key rows k = some r) :
    rows.Perm (r :: delete key rows k) := by
  induction rows with
  | nil => cases found
  | cons x xs ih =>
    obtain ⟨fresh, unique⟩ := List.nodup_cons.mp unique
    rw [find, List.find?_cons] at found
    by_cases here : key x = k
    · rw [decide_eq_true here] at found
      cases found
      have others : delete key xs k = xs := by
        refine List.filter_eq_self.mpr fun y inside => decide_eq_true fun same => fresh ?_
        exact here.trans same.symm ▸ List.mem_map_of_mem inside
      have kept : delete key (r :: xs) k = delete key xs k := by
        rw [delete, List.filter_cons_of_neg (by simp [here]), delete]
      rw [kept, others]
    · rw [decide_eq_false here] at found
      have kept : delete key (x :: xs) k = x :: delete key xs k := by
        rw [delete, List.filter_cons_of_pos (by simp [here]), delete]
      rw [kept]
      exact ((ih unique found).cons x).trans (List.Perm.swap r x _)

lemma Unique.delete (unique : Unique key rows) (k : κ) : Unique key (delete key rows k) :=
  unique.sublist (List.filter_sublist.map key)

/-! ## Queries -/

/-- Which of the rows that match comes first when no order is asked for: one of them, if there is
    any. -/
structure FirstRow (ρ : Type) where
  pick : List ρ → Option ρ
  pick_mem : ∀ {rows r}, pick rows = some r → r ∈ rows
  pick_none : ∀ {rows}, pick rows = none → rows = []

/-- Take the row that is stored first. -/
def FirstRow.stored {ρ : Type} : FirstRow ρ where
  pick := List.head?
  pick_mem := List.mem_of_head?
  pick_none := List.head?_eq_none_iff.mp

instance {ρ : Type} : Inhabited (FirstRow ρ) := ⟨.stored⟩

/-- Take a given row where it matches. -/
def FirstRow.preferring {ρ : Type} [DecidableEq ρ] (r : ρ) : FirstRow ρ where
  pick rows := if r ∈ rows then some r else rows.head?
  pick_mem {rows s} h := by
    split at h
    · next inside => exact Option.some.inj h ▸ inside
    · exact List.mem_of_head? h
  pick_none {rows} h := by
    split at h
    · cases h
    · exact List.head?_eq_none_iff.mp h

/-- The answer is settled whatever row comes first exactly when it is the only one there is. -/
lemma FirstRow.forall_pick_iff {ρ : Type} [DecidableEq ρ] {rows : List ρ} {answer : Option ρ} :
    (∀ first : FirstRow ρ, first.pick rows = answer) ↔ ∀ r, r ∈ rows ↔ answer = some r := by
  constructor
  · intro same r
    refine ⟨fun inside => ?_, fun h => FirstRow.stored.pick_mem ((same _).trans h)⟩
    exact (same (preferring r)).symm.trans (if_pos inside)
  · intro only first
    cases picked : first.pick rows with
    | some r => exact ((only r).mp (first.pick_mem picked)).symm
    | none =>
      cases answer with
      | none => rfl
      | some r =>
        have inside := (only r).mpr rfl
        rw [first.pick_none picked] at inside
        cases inside

/-- `SELECT … WHERE`: the first of the rows that match. -/
def select (first : FirstRow ρ) (rows : List ρ) (p : ρ → Bool) : Option ρ :=
  first.pick (rows.filter p)

/-- A query by the key does not depend on the order. -/
lemma select_key (first : FirstRow ρ) (unique : Unique key rows) (k : κ) :
    select first rows (key · = k) = find key rows k := by
  cases picked : select first rows (key · = k) with
  | some r =>
    obtain ⟨inside, has⟩ := List.mem_filter.mp (first.pick_mem picked)
    rw [← of_decide_eq_true has]
    exact ((mem_iff_find unique r).mp inside).symm
  | none =>
    refine (List.find?_eq_none.mpr fun r inside has => ?_).symm
    have found : r ∈ rows.filter (key · = k) := List.mem_filter.mpr ⟨inside, has⟩
    rw [first.pick_none picked] at found
    cases found

/-! ## Logs -/

/-- What stands under a key: the last record with it. -/
abbrev current (key : ρ → κ) (log : List ρ) (k : κ) : Option ρ := find key log k

lemma current_cons (r : ρ) (log : List ρ) (k : κ) :
    current key (r :: log) k = if key r = k then some r else current key log k := by
  by_cases hk : key r = k <;> simp [current, find, hk]

/-- The last record with a property. -/
def lastWith (log : List ρ) (p : ρ → Bool) : Option ρ := log.find? p

/-- The records with a property that still stand. -/
def standing (key : ρ → κ) (log : List ρ) (p : ρ → Bool) : Set ρ :=
  {r | current key log (key r) = some r ∧ p r = true}

variable {log : List ρ} {p : ρ → Bool}

/-- A record with a property that still stands was written, so some record was the last such. -/
lemma exists_lastWith {r : ρ} (h : r ∈ standing key log p) : ∃ l, lastWith log p = some l := by
  obtain ⟨stands, has⟩ := h
  exact Option.isSome_iff_exists.mp (List.find?_isSome.mpr ⟨r, mem_of_find stands, has⟩)

lemma lastWith_prop {l : ρ} (last : lastWith log p = some l) : p l = true :=
  List.find?_some last

/-- What stands under the key of the last record with a property has the property only if it is that
    record. -/
lemma eq_lastWith {l r : ρ} (last : lastWith log p = some l)
    (stands : current key log (key l) = some r) (has : p r = true) : r = l := by
  induction log with
  | nil => cases last
  | cons x xs ih =>
    rw [current_cons] at stands
    rw [lastWith, List.find?_cons] at last
    cases hp : p x with
    | true =>
      rw [hp] at last
      cases last
      rw [if_pos rfl] at stands
      exact (Option.some.inj stands).symm
    | false =>
      rw [hp] at last
      by_cases hk : key x = key l
      · rw [if_pos hk] at stands
        cases stands
        rw [hp] at has
        cases has
      · rw [if_neg hk] at stands
        exact ih last stands

/-- A record was written, so something stands under its key. -/
lemma exists_current (key : ρ → κ) {r : ρ} (h : r ∈ log) : ∃ s, current key log (key r) = some s :=
  Option.isSome_iff_exists.mp (List.find?_isSome.mpr ⟨r, h, decide_eq_true rfl⟩)

/-- `l` is the record of a log that was written last among those in `S`. -/
def LatestIn (log : List ρ) (S : Set ρ) (l : ρ) : Prop :=
  l ∈ S ∧ ∃ newer older, log = newer ++ l :: older ∧ ∀ r ∈ newer, r ∉ S

/-- If the last record with a property still stands, it is the latest of those that stand. -/
lemma latestIn_standing {l : ρ} (last : lastWith log p = some l)
    (stands : current key log (key l) = some l) : LatestIn log (standing key log p) l := by
  rw [lastWith, List.find?_eq_some_iff_append] at last
  obtain ⟨has, newer, older, rfl, without⟩ := last
  refine ⟨⟨stands, has⟩, newer, older, rfl, fun r hr h => ?_⟩
  have lacks := without r hr
  rw [h.2] at lacks
  cases lacks

end Tables
