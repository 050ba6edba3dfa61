import Mathlib.Data.List.Basic

/-!
# Answers to calls

A system answers calls, each with a choice that it makes then; a specification answers them out of a
state of its own. `outputs_iff` is for two that are kept in step by a relation of their states: if the
answers to one call agree, whatever is chosen, exactly under a condition, then the answers to some calls
do exactly when each of these is made under the condition.
-/

namespace Answers

variable {σ τ α χ ω : Type}

/-- The answers of a system to calls, with its choices. -/
def outputs (step : σ → χ → α → ω × σ) (s : σ) : List (α × χ) → List ω
  | [] => []
  | (a, x) :: run => (step s x a).1 :: outputs step (step s x a).2 run

/-- The answers of a specification. -/
def expected (spec : τ → α → ω × τ) (t : τ) : List α → List ω
  | [] => []
  | a :: calls => (spec t a).1 :: expected spec (spec t a).2 calls

/-- The state of a specification after calls. -/
def after (spec : τ → α → ω × τ) (t : τ) (calls : List α) : τ :=
  calls.foldl (fun t a => (spec t a).2) t

variable {step : σ → χ → α → ω × σ} {spec : τ → α → ω × τ}

/-- What holds of every call of a list holds of its first, and of the others after it. -/
lemma each_call_cons {C : τ → α → Prop} {t : τ} {a : α} {calls : List α} :
    (∀ before b rest, a :: calls = before ++ b :: rest → C (after spec t before) b) ↔
      C t a ∧ ∀ before b rest, calls = before ++ b :: rest →
        C (after spec (spec t a).2 before) b := by
  constructor
  · intro all
    refine ⟨all [] a calls rfl, fun before b rest split => ?_⟩
    exact all (a :: before) b rest (congrArg (a :: ·) split)
  · rintro ⟨first, others⟩ before b rest split
    cases before with
    | nil =>
      cases split
      exact first
    | cons c before =>
      obtain ⟨rfl, later⟩ := List.cons.inj split
      exact others before b rest later

/-- The answers to some calls agree exactly when each is made under the condition. -/
lemma outputs_iff [Inhabited χ] {R : σ → τ → Prop} {A : α → Prop} {C : τ → α → Prop}
    (keeps : ∀ {s t a}, R s t → A a → ∀ x, R (step s x a).2 (spec t a).2)
    (each : ∀ {s t a}, R s t → A a → ((∀ x, (step s x a).1 = (spec t a).1) ↔ C t a))
    {s : σ} {t : τ} {calls : List α} (start : R s t) (allowed : ∀ a ∈ calls, A a) :
    (∀ run : List (α × χ), run.map Prod.fst = calls → outputs step s run = expected spec t calls) ↔
      ∀ before a rest, calls = before ++ a :: rest → C (after spec t before) a := by
  induction calls generalizing s t with
  | nil =>
    refine ⟨fun _ before a rest split => ?_, fun _ run none => ?_⟩
    · cases before <;> cases split
    · rw [List.map_eq_nil_iff.mp none]
      rfl
  | cons a calls ih =>
    have this := allowed a List.mem_cons_self
    have others (x : χ) := ih (keeps start this x) fun b member =>
      allowed b (List.mem_cons_of_mem a member)
    rw [each_call_cons, ← each start this]
    constructor
    · intro same
      have both (x : χ) (run : List (α × χ)) (ran : run.map Prod.fst = calls) :=
        List.cons.inj (same ((a, x) :: run) (congrArg (a :: ·) ran))
      have some_run : (calls.map (·, default)).map (@Prod.fst α χ) = calls := by
        rw [List.map_map]
        exact List.map_id calls
      refine ⟨fun x => (both x _ some_run).1, (others default).mp fun run ran => ?_⟩
      exact (both default run ran).2
    · rintro ⟨first, later⟩ run ran
      obtain ⟨⟨_, x⟩, tail, rfl, rfl, rest⟩ := List.map_eq_cons_iff.mp ran
      exact congrArg₂ List.cons (first x) ((others x).mpr later tail rest)

end Answers
