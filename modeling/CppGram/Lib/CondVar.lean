import Mathlib.Tactic.Lemma

/-!
# Waiting on a condition variable

`wait(lock, predicate)` looks at the predicate with the mutex locked and sleeps as long as it is false.
Going to sleep gives the mutex back, waking up takes it again. Between the look and the sleep the
mutex is held: a change that is made and notified without the mutex may fall there, and the
notification then reaches nobody.

`Waiter` is where a caller is, `next` what it does by itself, `woken` what a notification makes of it.
-/

/-- Where a caller of `wait` is. -/
inductive Waiter where
  /-- In front of the mutex, at first or after a wake-up. -/
  | locking
  /-- In front of the predicate. -/
  | checking
  /-- The predicate was false. -/
  | falling
  | asleep
  /-- The predicate was true, and `wait` has returned. -/
  | passed
  deriving DecidableEq, Repr

namespace Waiter

/-- The mutex is held. -/
def holds : Waiter → Bool
  | .checking | .falling | .passed => true
  | .locking | .asleep => false

/-- The next step, unless it has to wait: for the mutex to be free, or for a notification. -/
def next (free ready : Bool) : Waiter → Option Waiter
  | .locking => if free then some .checking else none
  | .checking => some (if ready then .passed else .falling)
  | .falling => some .asleep
  | .asleep | .passed => none

/-- After a notification. -/
def woken : Waiter → Waiter
  | .asleep => .locking
  | w => w

/-- The steps to the end of a wait whose predicate is true. -/
def distance : Waiter → Nat
  | .locking => 2
  | .checking => 1
  | .falling | .asleep | .passed => 0

variable {free ready : Bool} {w w' : Waiter}

@[simp]
lemma holds_woken : w.woken.holds = w.holds := by
  cases w with
  | locking | checking | falling | asleep | passed => rfl

lemma woken_ne_asleep : w.woken ≠ .asleep := by
  cases w with
  | locking | checking | falling | asleep | passed => nofun

/-- A notification does not reach who is about to sleep. -/
lemma woken_eq_falling : w.woken = .falling ↔ w = .falling := by
  cases w with
  | falling => exact ⟨fun _ => rfl, fun _ => rfl⟩
  | locking | checking | asleep | passed => exact ⟨nofun, nofun⟩

/-- One step of a caller, with what it does to the mutex. -/
lemma next_cases (step : w.next free ready = some w') :
    (w = .locking ∧ free ∧ w' = .checking) ∨ (w = .checking ∧ ready ∧ w' = .passed) ∨
      (w = .checking ∧ ready = false ∧ w' = .falling) ∨ (w = .falling ∧ w' = .asleep) := by
  cases w with
  | locking =>
    rw [next] at step
    split at step
    · next free =>
      cases step
      exact .inl ⟨rfl, free, rfl⟩
    · cases step
  | checking =>
    cases step
    cases ready with
    | true => exact .inr (.inl ⟨rfl, rfl, rfl⟩)
    | false => exact .inr (.inr (.inl ⟨rfl, rfl, rfl⟩))
  | falling =>
    cases step
    exact .inr (.inr (.inr ⟨rfl, rfl⟩))
  | asleep | passed => cases step

end Waiter
