import CppGram.Client.AccountPool
import CppGram.Lib.Turns

/-!
# Fairness of the account pool

`get_next_account` takes the next index modulo the number of accounts, and neither `add_account` nor
`remove_account` adjusts the index. So a membership change can turn the order of the accounts, and
accounts are passed over. `Watched` is a pool with the turns its accounts have taken.
`round_robin_fair` says that the turns are fair as long as no change puts an account ahead of one it
owes a turn.
-/

namespace CppGram.AccountPool
open Backend Transition Turns

variable {α : Type}

/-- A pool and the turns taken, the latest first. -/
structure Watched (α : Type) where
  pool : AccountPool α := {}
  trace : List (Turn Text) := []

/-- The calls that change the fleet or select from it. -/
inductive FleetCall (α : Type) where
  | addAccount (accountId : Text) (client : Option α)
  | removeAccount (accountId : Text)
  | getNextAccount

/-- A pool after a call, and the turn that the call is. -/
def Watched.see (s : Watched α) (selected : Option Text) (pool : AccountPool α) : Watched α :=
  ⟨pool, ⟨selected, pool.accountKeys⟩ :: s.trace⟩

/-- A call of the pool, with the turn that it was. -/
def watch (s : Watched α) : FleetCall α → Option (Watched α)
  | .addAccount accountId client => some (s.see none (s.pool.addAccount accountId client))
  | .removeAccount accountId => some (s.see none (s.pool.removeAccount accountId).2)
  | .getNextAccount => some (s.see s.pool.nextKey s.pool.getNextAccount.2)

/-- The order in which accounts with these keys come up from an index. -/
def line (keys : List Text) (index : UInt64) : List Text := keys.rotate (index.toNat % keys.length)

/-- The call puts no account ahead of one it owes a turn, and the counter starts again at the end of
a round only. -/
def KeepsTurns (s : Watched α) : FleetCall α → Prop
  | .addAccount accountId _ =>
    accountId ∉ s.pool.accountKeys →
      InOrder s.trace (line (s.pool.accountKeys ++ [accountId]) s.pool.roundRobinIndex)
  | .removeAccount accountId =>
    InOrder s.trace
      (line (s.pool.accountKeys.filter (· ≠ accountId)) s.pool.roundRobinIndex)
  | .getNextAccount =>
    s.pool.roundRobinIndex.toNat + 1 < 2 ^ 64 ∨ s.pool.accountKeys.length ∣ 2 ^ 64

/-! ## Steps -/

/-- What holds of a pool whose turns have been fair and will be. -/
structure Served (s : Watched α) : Prop where
  agree : s.pool.Consistent
  present : ∀ t ∈ s.trace.head?, t.present = s.pool.accountKeys
  ordered : InOrder s.trace s.pool.upcoming
  fair : Fair s.trace

namespace Served

variable {s : Watched α}

/-- Before the first call nobody waits. -/
lemma start : Served ({} : Watched α) where
  agree := consistent_empty
  present := fun _ h => by cases h
  ordered := fun _ h => by cases h
  fair := fair_nil

/-- Whoever is owed a turn is registered. -/
lemma known (h : Served s) {a b} (owes : Owes s.trace a b) : b ∈ s.pool.accountKeys := by
  have present := h.present
  cases trace : s.trace with
  | nil =>
    rw [trace] at owes
    exact owes.elim
  | cons t before =>
    rw [trace] at owes present
    rw [← present t rfl]
    exact owes.1

/-- A call that selects nobody, behind which the debts are in order. -/
lemma change (h : Served s) {pool : AccountPool α} (agree : pool.Consistent)
    (ordered : InOrder s.trace pool.upcoming) : Served (s.see none pool) where
  agree := agree
  present := fun t first => by
    cases first
    rfl
  ordered a ha b hb other owes := ordered a ha b hb other ((owes_idle rfl).mp owes).2
  fair := h.fair.idle rfl

/-- A new account keeps the turns fair, under the condition. -/
lemma addAccount (h : Served s) {accountId client}
    (keeps : KeepsTurns s (.addAccount accountId client)) :
    Served (s.see none (s.pool.addAccount accountId client)) := by
  refine h.change h.agree.addAccount ?_
  rw [upcoming, h.agree.addAccount_keys]
  split
  · exact h.ordered
  · next fresh => exact keeps fresh

/-- A removal keeps the turns fair, under the condition. -/
lemma removeAccount (h : Served s) {accountId}
    (keeps : KeepsTurns s (.removeAccount accountId)) :
    Served (s.see none (s.pool.removeAccount accountId).2) := by
  refine h.change h.agree.removeAccount ?_
  have index : (s.pool.removeAccount accountId).2.roundRobinIndex = s.pool.roundRobinIndex := by
    rw [AccountPool.removeAccount]
    split <;> rfl
  rw [upcoming, h.agree.removeAccount_keys, index]
  exact keeps

/-- The account that is up is served, and comes up last. -/
lemma getNextAccount (h : Served s) (keeps : KeepsTurns s .getNextAccount) :
    Served (s.see s.pool.nextKey s.pool.getNextAccount.2) := by
  have ordered := h.ordered
  rw [nextKey_eq_head]
  cases up : s.pool.upcoming with
  | nil =>
    rw [getNextAccount_empty up]
    exact h.change h.agree ordered
  | cons key rest =>
    have nodup : (key :: rest).Nodup := by
      rw [← up]
      exact List.nodup_rotate.mpr h.agree.nodup
    rw [up] at ordered
    obtain ⟨fair, ordered⟩ := ordered.serve nodup h.fair
      (fun b owes => up ▸ mem_upcoming.mpr (h.known owes)) s.pool.accountKeys
    rw [h.agree.getNextAccount_eq up]
    rw [← upcoming_advance up keeps] at ordered
    exact ⟨h.agree.advance, fun t first => by cases first; rfl, ordered, fair⟩

/-- Every call keeps the turns fair, under the condition. -/
lemma step (h : Served s) {call s'} (keeps : KeepsTurns s call) (taken : watch s call = some s') :
    Served s' := by
  cases call with
  | addAccount accountId client =>
    cases taken
    exact h.addAccount keeps
  | removeAccount accountId =>
    cases taken
    exact h.removeAccount keeps
  | getNextAccount =>
    cases taken
    exact h.getNextAccount keeps

end Served

/-! ## Runs -/

/-- A run in which no call puts an account ahead of one it owes a turn is fair: between two
selections of an account every other one is selected that was registered throughout. -/
theorem round_robin_fair {calls : List (FleetCall α)} {s : Watched α}
    (keeps : Meets watch KeepsTurns {} calls) (ran : run watch {} calls = some s) : Fair s.trace :=
  (run_invariant_under (fun served keeps taken => Served.step served keeps taken) Served.start
    keeps ran).fair

/-- An account is added behind the selection of another, and both are selected. -/
theorem round_robin_fair_two : ∃ s : Watched Nat,
    run watch {} [.addAccount [97] (some 1), .getNextAccount, .addAccount [98] (some 2),
      .getNextAccount, .getNextAccount] = some s ∧ Fair s.trace := by
  obtain ⟨s, ran⟩ : ∃ s : Watched Nat, run watch {} [.addAccount [97] (some 1), .getNextAccount,
    .addAccount [98] (some 2), .getNextAccount, .getNextAccount] = some s := ⟨_, rfl⟩
  refine ⟨s, ran, round_robin_fair ?_ ran⟩
  refine (meets_cons rfl).mpr ⟨fun _ a _ b _ _ owes => owes.elim, ?_⟩
  refine (meets_cons rfl).mpr ⟨.inl (by decide), ?_⟩
  refine (meets_cons rfl).mpr ⟨fun _ a _ b _ other owes => ?_, ?_⟩
  · -- only the first account has been there, and it owes itself nothing
    obtain ⟨there, chosen | ⟨waiting, -⟩⟩ := owes
    · exact absurd ((List.mem_singleton.mp there).trans (Option.some.inj chosen)) other
    · exact absurd (congrArg some (List.mem_singleton.mp there).symm) waiting
  · refine (meets_cons rfl).mpr ⟨.inl (by decide), ?_⟩
    exact (meets_cons rfl).mpr ⟨.inl (by decide), meets_nil _⟩

/-- Three accounts, each selected and the first one again: when the third is removed the first comes
up once more, and the second is passed over. -/
theorem round_robin_unfair : ∃ s : Watched Nat,
    run watch {} [.addAccount [97] (some 1), .addAccount [98] (some 2), .addAccount [99] (some 3),
      .getNextAccount, .getNextAccount, .getNextAccount, .getNextAccount, .removeAccount [99],
      .getNextAccount] = some s ∧ ¬ Fair s.trace := by
  refine ⟨_, rfl, fun fair => ?_⟩
  obtain ⟨t, inside, served⟩ := fair [] _ [_] _ _ [97] [98] rfl rfl rfl (by decide) (by decide)
  rw [List.mem_singleton.mp inside] at served
  cases served

end CppGram.AccountPool
