import Mathlib.Algebra.BigOperators.Fin
import Mathlib.Data.Fintype.BigOperators
import Mathlib.Order.Basic

/-!
# Runs of systems of parties

A system is a partial step function: what an action makes of a state in which it can be taken. `run`
takes a list of actions one after the other. `run_invariant` is induction over a run; `Meets` says
that each step of a run is taken under a condition, and `run_invariant_under` is induction over such a
run.

An `Execution` goes on for ever. It is fair to a party if it takes a step of the party now and then as
long as some step of the party can be taken. `Execution.eventually` is the rule for what must happen:
as long as it has not, some step of the party can be taken, each step of the party brings it nearer,
and no other step takes it farther.

`sum_update` is for quantities that the parties hold between them.
-/

namespace Transition

variable {σ α : Type} {step : σ → α → Option σ}

/-- Take the actions one after the other. -/
def run (step : σ → α → Option σ) (s : σ) (actions : List α) : Option σ :=
  actions.foldlM step s

@[simp]
lemma run_nil (s : σ) : run step s [] = some s := rfl

lemma run_cons (s : σ) (a : α) (actions : List α) :
    run step s (a :: actions) = (step s a).bind fun s' => run step s' actions := rfl

lemma run_append (s : σ) (first second : List α) :
    run step s (first ++ second) = (run step s first).bind fun s' => run step s' second :=
  List.foldlM_append

/-- The last step of a run is taken from where the others led. -/
lemma run_concat_eq_some {s s'' : σ} {actions : List α} {a : α} :
    run step s (actions ++ [a]) = some s'' ↔
      ∃ s', run step s actions = some s' ∧ step s' a = some s'' := by
  rw [run_append, Option.bind_eq_some_iff]
  refine exists_congr fun s' => and_congr_right fun _ => ?_
  rw [run_cons]
  cases step s' a <;> rfl

/-- Induction over a run. -/
lemma run_invariant {I : σ → Prop} (keeps : ∀ {s a s'}, I s → step s a = some s' → I s')
    {s s' : σ} {actions : List α} (start : I s) (ran : run step s actions = some s') : I s' := by
  induction actions generalizing s with
  | nil =>
    cases ran
    exact start
  | cons a actions ih =>
    obtain ⟨next, first, rest⟩ := Option.bind_eq_some_iff.mp ((run_cons s a actions).symm.trans ran)
    exact ih (keeps start first) rest

/-- Each step of a run is taken under a condition on the state and the action. -/
def Meets (step : σ → α → Option σ) (C : σ → α → Prop) (s : σ) (actions : List α) : Prop :=
  ∀ before a after, actions = before ++ a :: after →
    ∀ s', run step s before = some s' → C s' a

lemma meets_nil {C : σ → α → Prop} (s : σ) : Meets step C s [] := by
  intro before a after split
  cases before <;> cases split

lemma Meets.head {C : σ → α → Prop} {s : σ} {a : α} {actions : List α}
    (h : Meets step C s (a :: actions)) : C s a :=
  h [] a actions rfl s rfl

/-- The condition holds in the rest of the run. -/
lemma Meets.tail {C : σ → α → Prop} {s s' : σ} {a : α} {actions : List α}
    (h : Meets step C s (a :: actions)) (taken : step s a = some s') :
    Meets step C s' actions := by
  intro before b after split s'' ran
  refine h (a :: before) b after (congrArg (a :: ·) split) s'' ?_
  rw [run_cons, taken]
  exact ran

/-- The condition is asked at the first step and in the rest of the run. -/
lemma meets_cons {C : σ → α → Prop} {s s' : σ} {a : α} {actions : List α}
    (taken : step s a = some s') :
    Meets step C s (a :: actions) ↔ C s a ∧ Meets step C s' actions := by
  refine ⟨fun h => ⟨h.head, h.tail taken⟩, fun ⟨first, rest⟩ before b after split s'' ran => ?_⟩
  cases before with
  | nil =>
    cases split
    cases ran
    exact first
  | cons c before =>
    obtain ⟨rfl, later⟩ := List.cons.inj split
    rw [run_cons, taken] at ran
    exact rest before b after later s'' ran

/-- What each step keeps exactly when it is taken under a condition, a run keeps exactly when all of its
    steps are. -/
lemma run_iff {C : σ → α → Prop} {I P : σ → Prop}
    (keeps : ∀ {s a s'}, I s → step s a = some s' → I s')
    (each : ∀ {s a s'}, I s → step s a = some s' → (P s' ↔ P s ∧ C s a))
    {s s' : σ} {actions : List α} (start : I s) (ran : run step s actions = some s') :
    P s' ↔ P s ∧ Meets step C s actions := by
  induction actions generalizing s with
  | nil =>
    cases ran
    exact ⟨fun h => ⟨h, meets_nil _⟩, And.left⟩
  | cons a actions ih =>
    obtain ⟨next, first, rest⟩ := Option.bind_eq_some_iff.mp ((run_cons s a actions).symm.trans ran)
    rw [ih (keeps start first) rest, each start first, meets_cons first, and_assoc]

/-- Induction over a run whose steps meet a condition. -/
lemma run_invariant_under {C : σ → α → Prop} {I : σ → Prop}
    (keeps : ∀ {s a s'}, I s → C s a → step s a = some s' → I s')
    {s s' : σ} {actions : List α} (start : I s) (meets : Meets step C s actions)
    (ran : run step s actions = some s') : I s' := by
  induction actions generalizing s with
  | nil =>
    cases ran
    exact start
  | cons a actions ih =>
    obtain ⟨next, first, rest⟩ := Option.bind_eq_some_iff.mp ((run_cons s a actions).symm.trans ran)
    exact ih (keeps start meets.head first) (meets.tail first) rest

/-! ## Fair executions -/

/-- A run that goes on for ever; at some times nothing is done. -/
structure Execution (step : σ → α → Option σ) (init : σ) where
  state : Nat → σ
  action : Nat → Option α
  starts : state 0 = init
  follows : ∀ n, match action n with
    | none => state (n + 1) = state n
    | some a => step (state n) a = some (state (n + 1))

namespace Execution

variable {init : σ} (E : Execution step init)

/-- One time step: nothing is done, or an action is taken. -/
lemma step_cases (n : Nat) :
    E.state (n + 1) = E.state n ∧ E.action n = none ∨
      ∃ a, E.action n = some a ∧ step (E.state n) a = some (E.state (n + 1)) := by
  have this := E.follows n
  cases acted : E.action n with
  | none =>
    rw [acted] at this
    exact .inl ⟨this, rfl⟩
  | some a =>
    rw [acted] at this
    exact .inr ⟨a, rfl, this⟩

/-- What holds at first and is kept by every step holds at all times. -/
lemma invariant {I : σ → Prop} (keeps : ∀ {s a s'}, I s → step s a = some s' → I s')
    (start : I init) (n : Nat) : I (E.state n) := by
  induction n with
  | zero =>
    rw [E.starts]
    exact start
  | succ n ih =>
    rcases E.step_cases n with ⟨same, -⟩ | ⟨a, -, taken⟩
    · rw [same]
      exact ih
    · exact keeps ih taken

/-- The party whose actions are `P` is not kept waiting: if from some time on there always is an
    action of it that can be taken, it takes one. -/
def FairTo (P : α → Prop) : Prop :=
  ∀ n, (∀ m ≥ n, ∃ a, P a ∧ (step (E.state m) a).isSome) → ∃ m ≥ n, ∃ a, E.action m = some a ∧ P a

/-- What a party that is not kept waiting brings about: while `Q` holds and `R` does not, it can act;
    its actions bring the measure down, and nothing else brings it up. -/
lemma eventually {P : α → Prop} {Q R : σ → Prop} (measure : σ → Nat) (fair : E.FairTo P)
    (acts : ∀ {s}, Q s → ∃ a, P a ∧ (step s a).isSome)
    (waits : ∀ {s a s'}, Q s → step s a = some s' →
      R s' ∨ Q s' ∧ measure s' ≤ measure s ∧ (P a → measure s' < measure s))
    {n : Nat} (start : Q (E.state n)) : ∃ m ≥ n, R (E.state m) := by
  induction bound : measure (E.state n) using Nat.strong_induction_on generalizing n with
  | _ k ih =>
    by_contra never
    -- then `Q` holds from `n` on, and the measure never falls below `k`
    have holds (d : Nat) : Q (E.state (n + d)) ∧ measure (E.state (n + d)) ≤ k := by
      induction d with
      | zero => exact ⟨start, bound.le⟩
      | succ d ihd =>
        obtain ⟨here, below⟩ := ihd
        rcases E.step_cases (n + d) with ⟨same, -⟩ | ⟨a, -, taken⟩
        · rw [← Nat.add_assoc, same]
          exact ⟨here, below⟩
        · rcases waits here taken with reached | ⟨still, down, -⟩
          · exact absurd ⟨n + d + 1, by omega, reached⟩ never
          · exact ⟨still, down.trans below⟩
    have at_time {m : Nat} (later : n ≤ m) : Q (E.state m) ∧ measure (E.state m) ≤ k := by
      obtain ⟨d, rfl⟩ := Nat.exists_eq_add_of_le later
      exact holds d
    obtain ⟨m, later, a, acted, mine⟩ := fair n fun m later => acts (at_time later).1
    obtain ⟨here, below⟩ := at_time later
    rcases E.step_cases m with ⟨-, idle⟩ | ⟨b, acted', taken⟩
    · cases idle.symm.trans acted
    · cases acted'.symm.trans acted
      rcases waits here taken with reached | ⟨still, -, down⟩
      · exact never ⟨m + 1, by omega, reached⟩
      · obtain ⟨m', later', reached⟩ := ih _ ((down mine).trans_le below) still rfl
        exact never ⟨m', by omega, reached⟩

/-- A run that has come to its end, with nothing done afterwards. -/
def ofRun {s : σ} (actions : List α) (ran : run step init actions = some s) :
    Execution step init where
  state n := (run step init (actions.take n)).getD init
  action n := actions[n]?
  starts := rfl
  follows n := by
    have split := ran
    rw [← List.take_append_drop n actions, run_append] at split
    obtain ⟨here, so_far, rest⟩ := Option.bind_eq_some_iff.mp split
    rw [List.take_add_one, so_far, Option.getD_some]
    cases next : actions[n]? with
    | none =>
      rw [Option.toList_none, List.append_nil, so_far]
      rfl
    | some a =>
      rw [List.drop_eq_getElem?_toList_append, next] at rest
      obtain ⟨there, taken, -⟩ := Option.bind_eq_some_iff.mp rest
      rw [Option.toList_some, run_concat_eq_some.mpr ⟨here, so_far, taken⟩]
      exact taken

/-- Such a run is fair to a party that cannot act at its end. -/
lemma ofRun_fairTo {s : σ} {actions : List α} (ran : run step init actions = some s)
    {P : α → Prop} (rests : ∀ a, P a → step s a = none) : (ofRun actions ran).FairTo P := by
  intro n acts
  obtain ⟨a, mine, can⟩ := acts (n + actions.length) (Nat.le_add_right n _)
  have at_end : (ofRun actions ran).state (n + actions.length) = s := by
    change (run step init (actions.take (n + actions.length))).getD init = s
    rw [List.take_of_length_le (Nat.le_add_left _ n), ran, Option.getD_some]
  rw [at_end, rests a mine] at can
  cases can

end Execution

/-! ## What the parties hold between them -/

/-- When one party of a family changes, the total changes by what it holds. -/
lemma sum_update {ι ω M : Type} [Fintype ι] [DecidableEq ι] [AddCommMonoid M] (f : ω → M)
    (w : ι → ω) (i : ι) (x : ω) :
    ∑ j, f (Function.update w i x j) + f (w i) = ∑ j, f (w j) + f x := by
  rw [← Finset.add_sum_erase _ _ (Finset.mem_univ i), ← Finset.add_sum_erase _ (fun j => f (w j))
    (Finset.mem_univ i), Function.update_self]
  have others : ∑ j ∈ Finset.univ.erase i, f (Function.update w i x j) =
      ∑ j ∈ Finset.univ.erase i, f (w j) :=
    Finset.sum_congr rfl fun j hj => by rw [Function.update_of_ne (Finset.ne_of_mem_erase hj)]
  rw [others, add_comm (f x), add_comm (f (w i)), add_assoc, add_assoc, add_comm (f x)]

end Transition
