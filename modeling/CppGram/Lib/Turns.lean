import Mathlib.Data.List.Nodup
import Mathlib.Tactic.ByContra
import Mathlib.Tactic.Lemma

/-!
# Taking turns

Members are selected one after the other while members come and go. A `Turn` is what is seen of a
step, and a trace lists the turns, the latest first. It is `Fair` if between two selections of a
member every other one is selected that was there all the time.

A member owes another a turn (`Owes`) that was there when it was last selected, has been there since
and has not been selected since. A line in which nobody stands in front of whom they owe a turn is
`InOrder`. To select the head of such a line and send it to the end is fair, and leaves the line in
order (`InOrder.serve`).
-/

namespace Turns

/-- Who is selected at a step, if anyone, and who is there after it. -/
structure Turn (κ : Type) where
  selected : Option κ
  present : List κ
  deriving DecidableEq, Repr

variable {κ : Type} {trace : List (Turn κ)} {line : List κ} {t : Turn κ} {a b x : κ}

/-- Between any two selections of `a`, whoever was there throughout has been selected. -/
def Fair (trace : List (Turn κ)) : Prop :=
  ∀ later second between first earlier a b,
    trace = later ++ second :: (between ++ first :: earlier) →
    second.selected = some a → first.selected = some a → b ≠ a →
    (∀ t ∈ between ++ [first], b ∈ t.present) → ∃ t ∈ between, t.selected = some b

/-- `b` is there, and has not been selected since `a` was last selected. -/
def Owes : List (Turn κ) → κ → κ → Prop
  | [], _, _ => False
  | t :: before, a, b =>
    b ∈ t.present ∧ (t.selected = some a ∨ t.selected ≠ some b ∧ Owes before a b)

/-- In the line `b` stands in front of `a`. -/
def Precedes (line : List κ) (b a : κ) : Prop := List.Sublist [b, a] line

/-- Nobody in the line stands in front of somebody they owe a turn. -/
def InOrder (trace : List (Turn κ)) (line : List κ) : Prop :=
  ∀ a ∈ line, ∀ b ∈ line, b ≠ a → Owes trace a b → Precedes line b a

lemma fair_nil : Fair ([] : List (Turn κ)) := by
  intro later second between first earlier a b split
  cases later <;> cases split

/-- Whoever has been there since a selection of `a` and has not been selected is owed a turn. -/
lemma owes_of_waiting {between first earlier} (chosen : first.selected = some a)
    (there : ∀ t ∈ between ++ [first], b ∈ t.present)
    (never : ∀ t ∈ between, t.selected ≠ some b) :
    Owes (between ++ first :: earlier) a b := by
  induction between with
  | nil => exact ⟨there first (List.mem_singleton_self _), .inl chosen⟩
  | cons t between ih =>
    have now := there t List.mem_cons_self
    have rest := ih (fun t h => there t (List.mem_cons_of_mem _ h))
      (fun t h => never t (List.mem_cons_of_mem _ h))
    exact ⟨now, .inr ⟨never t List.mem_cons_self, rest⟩⟩

/-- A trace stays fair when nobody is selected who owes a turn. -/
lemma Fair.cons (fair : Fair trace)
    (served : ∀ a, t.selected = some a → ∀ b, b ≠ a → ¬ Owes trace a b) : Fair (t :: trace) := by
  intro later second between first earlier a b split again chosen other there
  cases later with
  | nil =>
    obtain ⟨rfl, rfl⟩ := List.cons.inj split
    by_contra skipped
    have never : ∀ t ∈ between, t.selected ≠ some b := fun t h e => skipped ⟨t, h, e⟩
    exact served a again b other (owes_of_waiting chosen there never)
  | cons t' later =>
    obtain ⟨-, split⟩ := List.cons.inj split
    exact fair later second between first earlier a b split again chosen other there

/-- A step at which nobody is selected makes no debts. -/
lemma owes_idle (idle : t.selected = none) :
    Owes (t :: trace) a b ↔ b ∈ t.present ∧ Owes trace a b := by
  rw [Owes, idle]
  constructor
  · rintro ⟨there, chosen | ⟨-, owes⟩⟩
    · cases chosen
    · exact ⟨there, owes⟩
  · rintro ⟨there, owes⟩
    exact ⟨there, .inr ⟨(fun chosen => by cases chosen), owes⟩⟩

/-- A turn that selects nobody changes nothing. -/
lemma Fair.idle (fair : Fair trace) (idle : t.selected = none) : Fair (t :: trace) := by
  refine fair.cons fun a chosen => ?_
  rw [idle] at chosen
  cases chosen

/-- The head of a line that is in order owes nobody in it a turn. -/
lemma InOrder.head (ordered : InOrder trace (x :: line)) (nodup : (x :: line).Nodup)
    (inside : b ∈ line) : ¬ Owes trace x b := by
  intro owes
  have other : b ≠ x := by
    rintro rfl
    exact (List.nodup_cons.mp nodup).1 inside
  have ahead := ordered x List.mem_cons_self b (List.mem_cons_of_mem x inside) other owes
  have behind : x ∈ line := by
    cases ahead with
    | cons _ rest => exact rest.subset (by simp)
    | cons_cons _ _ => exact absurd rfl other
  exact (List.nodup_cons.mp nodup).1 behind

/-- The head of a line that is in order is selected and sent to its end. -/
lemma InOrder.serve (ordered : InOrder trace (x :: line)) (nodup : (x :: line).Nodup)
    (fair : Fair trace) (known : ∀ b, Owes trace x b → b ∈ x :: line) (present : List κ) :
    Fair (⟨some x, present⟩ :: trace) ∧ InOrder (⟨some x, present⟩ :: trace) (line ++ [x]) := by
  constructor
  · refine fair.cons fun a chosen b other owes => ?_
    obtain rfl : x = a := Option.some.inj chosen
    rcases List.mem_cons.mp (known b owes) with same | inside
    · exact other same
    · exact ordered.head nodup inside owes
  · intro a ha b hb other owes
    have member : ∀ c, c ∈ line ++ [x] → c ≠ x → c ∈ line := fun c hc ne =>
      (List.mem_append.mp hc).resolve_right fun h => ne (List.mem_singleton.mp h)
    by_cases last : a = x
    · -- whoever has just been selected stands behind all the others
      subst last
      exact (List.singleton_sublist.mpr (member b hb other)).append (List.Sublist.refl [a])
    · have ha := member a ha last
      obtain ⟨_, chosen | ⟨waiting, owes⟩⟩ := owes
      · exact absurd (Option.some.inj chosen).symm last
      · have hb := member b hb fun same => waiting (congrArg some same.symm)
        have ahead := ordered a (List.mem_cons_of_mem x ha) b (List.mem_cons_of_mem x hb) other owes
        cases ahead with
        | cons _ rest => exact rest.trans (List.sublist_append_left _ _)
        | cons_cons _ _ => exact absurd rfl waiting

end Turns
