import Mathlib.Tactic.Lemma

/-!
# Middleware

`MiddlewareContext` and `MiddlewarePipeline::execute` (C++ `middleware.hpp`). A middleware is what it
makes of a context: the value it returns or the exception it throws, and the context it leaves.
Messages and callback queries are passed through, so their types are parameters. `execute_false_iff`
says which pipelines abort an event.
-/

namespace CppGram.Backend

/-- What a function of the user throws. -/
inductive Thrown where
  /-- A `std::exception`, with its `what()`. -/
  | stdException (what : String)
  /-- Anything else that C++ lets one throw. -/
  | other
  deriving DecidableEq, Repr

/-- C++ `class MiddlewareContext`, without the reference to the client. -/
structure MiddlewareContext (μ κ : Type) where
  message : Option μ := none
  callbackQuery : Option κ := none
  data : Std.HashMap String String := {}
  stopped : Bool := false

/-- C++ `MiddlewareFunc`. -/
abbrev MiddlewareFunc (μ κ : Type) :=
  MiddlewareContext μ κ → Except Thrown Bool × MiddlewareContext μ κ

namespace MiddlewareContext

variable {μ κ : Type}

/-- `MiddlewareContext::stop_propagation`. -/
def stopPropagation (ctx : MiddlewareContext μ κ) : MiddlewareContext μ κ :=
  { ctx with stopped := true }

end MiddlewareContext

namespace MiddlewarePipeline

variable {μ κ : Type}

/-- `MiddlewarePipeline::execute`, from the loop on. -/
def execute : List (MiddlewareFunc μ κ) → MiddlewareContext μ κ → Bool × MiddlewareContext μ κ
  | [], ctx => (!ctx.stopped, ctx)
  | mw :: middlewares, ctx =>
    if ctx.stopped then (false, ctx)
    else
      match mw ctx with
      | (.ok proceed, ctx) =>
        if !proceed || ctx.stopped then (false, ctx.stopPropagation)
        else execute middlewares ctx
      | (.error _, ctx) => (false, ctx.stopPropagation)

/-- A middleware lets an event pass: it returns true and does not stop it. -/
def Passes (mw : MiddlewareFunc μ κ) (ctx ctx' : MiddlewareContext μ κ) : Prop :=
  mw ctx = (.ok true, ctx') ∧ ctx'.stopped = false

/-- Some middlewares let an event pass, one after the other. -/
inductive AllPass : List (MiddlewareFunc μ κ) → MiddlewareContext μ κ → MiddlewareContext μ κ → Prop
  where
  | nil {ctx} :
    AllPass [] ctx ctx
  | cons {mw middlewares ctx ctx' ctx''} :
    Passes mw ctx ctx' →
    AllPass middlewares ctx' ctx'' →
    AllPass (mw :: middlewares) ctx ctx''

/-- Some middleware, on what those before it leave, returns false, stops propagation or throws. -/
def Halts (middlewares : List (MiddlewareFunc μ κ)) (ctx : MiddlewareContext μ κ) : Prop :=
  ∃ before mw after ctx', middlewares = before ++ mw :: after ∧ AllPass before ctx ctx' ∧
    ∀ ctx'', ¬ Passes mw ctx' ctx''

/-- A pipeline aborts an event exactly when one of its middlewares halts it. -/
lemma execute_false_iff {middlewares : List (MiddlewareFunc μ κ)} {ctx : MiddlewareContext μ κ}
    (fresh : ctx.stopped = false) :
    (execute middlewares ctx).1 = false ↔ Halts middlewares ctx := by
  induction middlewares generalizing ctx with
  | nil =>
    rw [execute, fresh]
    refine ⟨nofun, fun ⟨before, _, _, _, split, _⟩ => ?_⟩
    cases before <;> cases split
  | cons mw middlewares ih =>
    by_cases passes : ∃ ctx', Passes mw ctx ctx'
    · obtain ⟨ctx', returned, going⟩ := passes
      have rest : execute (mw :: middlewares) ctx = execute middlewares ctx' := by
        rw [execute, fresh, if_neg Bool.false_ne_true, returned]
        simp only [Bool.not_true, Bool.false_or, going, Bool.false_eq_true, if_false]
      rw [rest, ih going]
      constructor
      · rintro ⟨before, other, after, left, rfl, all, halts⟩
        exact ⟨mw :: before, other, after, left, rfl, .cons ⟨returned, going⟩ all, halts⟩
      · rintro ⟨before, other, after, left, split, all, halts⟩
        cases all with
        | nil =>
          cases split
          exact absurd ⟨returned, going⟩ (halts ctx')
        | cons first all =>
          cases split
          cases returned.symm.trans first.1
          exact ⟨_, _, _, _, rfl, all, halts⟩
    · have halted : (execute (mw :: middlewares) ctx).1 = false := by
        rw [execute, fresh, if_neg Bool.false_ne_true]
        split
        · next proceed ctx' returned =>
          split
          · rfl
          · next going =>
            have both := Bool.or_eq_false_iff.mp (Bool.eq_false_iff.mpr going)
            have yes : proceed = true := by simpa using both.1
            exact absurd ⟨ctx', yes ▸ returned, both.2⟩ passes
        · rfl
      exact ⟨fun _ => ⟨[], mw, middlewares, ctx, rfl, .nil, fun ctx' this => passes ⟨ctx', this⟩⟩,
        fun _ => halted⟩

end MiddlewarePipeline

end CppGram.Backend
