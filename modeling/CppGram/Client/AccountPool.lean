import CppGram.Backend.Types
import CppGram.Lib.Tables
import CppGram.Lib.Transition
import Mathlib.Data.List.Rotate

/-!
# The account pool

`AccountPool` (C++ `account_pool.cpp`). A `std::shared_ptr<Client>` is an `Option`, the map of
accounts a table. Each call holds the pool's mutex, but for `broadcast`, which takes it once for each
chat; what `sendMessage` of a client does is a parameter, with a world `W` of its own. `upcoming` is
the order in which the accounts come up next.
-/

namespace CppGram
open Backend Transition

/-- C++ `class AccountPool`. -/
structure AccountPool (α : Type) where
  accounts : List (Text × Option α) := []
  accountKeys : List Text := []
  roundRobinIndex : UInt64 := 0

namespace AccountPool

variable {α W : Type}

/-- `accounts_.find(account_id)`. -/
def find (pool : AccountPool α) (accountId : Text) : Option (Text × Option α) :=
  Tables.find Prod.fst pool.accounts accountId

/-- `AccountPool::add_account`. -/
def addAccount (pool : AccountPool α) (accountId : Text) (client : Option α) : AccountPool α :=
  { pool with
    accountKeys :=
      if (pool.find accountId).isNone then pool.accountKeys ++ [accountId] else pool.accountKeys
    accounts := Tables.upsert Prod.fst (accountId, client) pool.accounts }

/-- `AccountPool::remove_account`. -/
def removeAccount (pool : AccountPool α) (accountId : Text) : Bool × AccountPool α :=
  match pool.find accountId with
  | none => (false, pool)
  | some _ =>
    (true, { pool with
      accounts := Tables.delete Prod.fst pool.accounts accountId
      accountKeys := pool.accountKeys.filter (· ≠ accountId) })

/-- `AccountPool::has_account`. -/
def hasAccount (pool : AccountPool α) (accountId : Text) : Bool := (pool.find accountId).isSome

/-- `AccountPool::get_account`. -/
def getAccount (pool : AccountPool α) (accountId : Text) : Option α :=
  match pool.find accountId with
  | some it => it.2
  | none => none

/-- `accounts_[account_id]`, which puts a null client under a key that is not there. -/
def subscript (pool : AccountPool α) (accountId : Text) : Option α × AccountPool α :=
  match pool.find accountId with
  | some it => (it.2, pool)
  | none => (none, { pool with accounts := Tables.upsert Prod.fst (accountId, none) pool.accounts })

/-- The key at `round_robin_index_ % account_keys_.size()`, unless there is none. -/
def nextKey (pool : AccountPool α) : Option Text :=
  if pool.accountKeys.isEmpty then none
  else
    let idx := pool.roundRobinIndex.toNat % pool.accountKeys.length
    pool.accountKeys[idx]?

/-- `AccountPool::get_next_account`. -/
def getNextAccount (pool : AccountPool α) : Option α × AccountPool α :=
  match pool.nextKey with
  | none => (none, pool)
  | some key => subscript { pool with roundRobinIndex := pool.roundRobinIndex + 1 } key

/-- `AccountPool::size`. -/
def size (pool : AccountPool α) : Nat := pool.accounts.length

/-- `AccountPool::get_all_account_ids`. -/
def getAllAccountIds (pool : AccountPool α) : List Text := pool.accountKeys

section
variable (sendMessage : α → ChatId → Text → ParseMode → W → Except Fault MessageId × W)

/-- The loop of `AccountPool::broadcast`; what `sendMessage` throws is caught. -/
def broadcast (pool : AccountPool α) (text : Text) (parseMode : ParseMode) (world : W) :
    List ChatId → List MessageId × AccountPool α × W
  | [] => ([], pool, world)
  | chatId :: chatIds =>
    match pool.getNextAccount with
    | (none, pool) => broadcast pool text parseMode world chatIds
    | (some client, pool) =>
      match sendMessage client chatId text parseMode world with
      | (.error _, world) => broadcast pool text parseMode world chatIds
      | (.ok id, world) =>
        let (sentIds, rest) := broadcast pool text parseMode world chatIds
        (id :: sentIds, rest)

/-- A call on the pool. -/
inductive Call (α : Type) where
  | addAccount (accountId : Text) (client : Option α)
  | removeAccount (accountId : Text)
  | getNextAccount
  | broadcast (chatIds : List ChatId) (text : Text) (parseMode : ParseMode)

/-- What a call makes of the pool and the world. -/
def step (s : AccountPool α × W) : Call α → Option (AccountPool α × W)
  | .addAccount accountId client => some (s.1.addAccount accountId client, s.2)
  | .removeAccount accountId => some ((s.1.removeAccount accountId).2, s.2)
  | .getNextAccount => some (s.1.getNextAccount.2, s.2)
  | .broadcast chatIds text parseMode =>
    some (s.1.broadcast sendMessage text parseMode s.2 chatIds).2

end

/-- When a key was first registered since it was last removed; of the calls the latest comes first. -/
def registeredAt (key : Text) : List (Call α) → Option Nat
  | [] => none
  | .addAccount accountId _ :: before =>
    if accountId = key then (registeredAt key before).or (some before.length)
    else registeredAt key before
  | .removeAccount accountId :: before =>
    if accountId = key then none else registeredAt key before
  | .getNextAccount :: before => registeredAt key before
  | .broadcast .. :: before => registeredAt key before

/-- Consecutive calls of `get_next_account`. -/
def getNextAccounts : Nat → AccountPool α → List (Option α) × AccountPool α
  | 0, pool => ([], pool)
  | n + 1, pool =>
    let (client, pool) := pool.getNextAccount
    let (clients, pool) := getNextAccounts n pool
    (client :: clients, pool)

/-- The accounts in the order in which they come up next. -/
def upcoming (pool : AccountPool α) : List Text :=
  pool.accountKeys.rotate (pool.roundRobinIndex.toNat % pool.accountKeys.length)

/-! ## The two containers -/

/-- The keys are those of the accounts, each once. -/
structure Consistent (pool : AccountPool α) : Prop where
  keys : pool.accountKeys = pool.accounts.map Prod.fst
  nodup : pool.accountKeys.Nodup

variable {pool : AccountPool α} {accountId key : Text} {client : Option α}

lemma consistent_empty : Consistent ({} : AccountPool α) := ⟨rfl, List.nodup_nil⟩

namespace Consistent

lemma hasAccount_iff (h : pool.Consistent) :
    pool.hasAccount accountId ↔ accountId ∈ pool.accountKeys := by
  rw [hasAccount, AccountPool.find, Tables.isSome_find, h.keys]

lemma size_eq (h : pool.Consistent) : pool.size = pool.accountKeys.length := by
  rw [size, h.keys, List.length_map]

/-- A new account comes last; one that is there keeps its place. -/
lemma addAccount_keys (h : pool.Consistent) : (pool.addAccount accountId client).accountKeys =
    if accountId ∈ pool.accountKeys then pool.accountKeys else pool.accountKeys ++ [accountId] := by
  have known := @hasAccount_iff α pool accountId h
  rw [hasAccount] at known
  rw [addAccount]
  by_cases inside : accountId ∈ pool.accountKeys
  · rw [if_pos inside, if_neg]
    rw [Option.isNone_iff_eq_none, ← Option.not_isSome_iff_eq_none, not_not]
    exact known.mpr inside
  · rw [if_neg inside, if_pos]
    rw [Option.isNone_iff_eq_none, ← Option.not_isSome_iff_eq_none]
    exact mt known.mp inside

/-- Adding an account keeps the pool consistent. -/
lemma addAccount (h : pool.Consistent) : (pool.addAccount accountId client).Consistent := by
  have accounts : (pool.addAccount accountId client).accounts.map Prod.fst =
      if accountId ∈ pool.accountKeys then pool.accountKeys
      else pool.accountKeys ++ [accountId] := by
    rw [AccountPool.addAccount, Tables.map_upsert, ← h.keys]
    by_cases inside : accountId ∈ pool.accountKeys
    · rw [if_pos inside, if_pos inside]
    · rw [if_neg inside, if_neg inside]
  refine ⟨h.addAccount_keys.trans accounts.symm, ?_⟩
  rw [h.addAccount_keys]
  split
  · exact h.nodup
  · next fresh =>
    rw [← List.concat_eq_append]
    exact h.nodup.concat fresh

/-- A removed account is taken out of the order. -/
lemma removeAccount_keys (h : pool.Consistent) :
    (pool.removeAccount accountId).2.accountKeys = pool.accountKeys.filter (· ≠ accountId) := by
  rw [removeAccount]
  split
  · next absent =>
    have unknown : accountId ∉ pool.accountKeys := by
      rw [← h.hasAccount_iff, hasAccount, absent]
      exact Bool.false_ne_true
    refine (List.filter_eq_self.mpr fun k inside => ?_).symm
    exact decide_eq_true fun same => unknown (same ▸ inside)
  · rfl

/-- Removing an account keeps the pool consistent. -/
lemma removeAccount (h : pool.Consistent) : (pool.removeAccount accountId).2.Consistent := by
  refine ⟨?_, ?_⟩
  · rw [AccountPool.removeAccount]
    split
    · exact h.keys
    · simp only [Tables.map_delete, h.keys]
  · rw [h.removeAccount_keys]
    exact h.nodup.filter _

end Consistent

/-! ## The rotation -/

lemma mem_upcoming : key ∈ pool.upcoming ↔ key ∈ pool.accountKeys := List.mem_rotate

lemma upcoming_length : pool.upcoming.length = pool.accountKeys.length := List.length_rotate ..

/-- The key that is up is the first of the upcoming ones. -/
lemma nextKey_eq_head : pool.nextKey = pool.upcoming.head? := by
  rw [nextKey]
  cases keys : pool.accountKeys with
  | nil => rw [upcoming, keys, List.rotate_nil, List.isEmpty_nil, if_pos rfl, List.head?_nil]
  | cons k ks =>
    rw [List.isEmpty_cons, if_neg Bool.false_ne_true, upcoming, keys, List.head?_rotate]
    exact Nat.mod_lt _ (Nat.succ_pos _)

/-- The pool behind one more selection. -/
def advance (pool : AccountPool α) : AccountPool α :=
  { pool with roundRobinIndex := pool.roundRobinIndex + 1 }

/-- Whoever was first comes up last, unless the counter starts again in the middle of a round. -/
lemma upcoming_advance {rest} (first : pool.upcoming = key :: rest)
    (counts : pool.roundRobinIndex.toNat + 1 < 2 ^ 64 ∨ pool.accountKeys.length ∣ 2 ^ 64) :
    pool.advance.upcoming = rest ++ [key] := by
  have turn : pool.advance.roundRobinIndex.toNat = (pool.roundRobinIndex.toNat + 1) % 2 ^ 64 :=
    UInt64.toNat_add ..
  have position : pool.advance.roundRobinIndex.toNat % pool.accountKeys.length =
      (pool.roundRobinIndex.toNat + 1) % pool.accountKeys.length := by
    rw [turn]
    rcases counts with below | whole
    · rw [Nat.mod_eq_of_lt below]
    · rw [Nat.mod_mod_of_dvd _ whole]
  calc pool.advance.upcoming
      = pool.accountKeys.rotate ((pool.roundRobinIndex.toNat + 1) % pool.accountKeys.length) :=
        congrArg pool.accountKeys.rotate position
    _ = (pool.accountKeys.rotate pool.roundRobinIndex.toNat).rotate 1 := by
        rw [List.rotate_mod, List.rotate_rotate]
    _ = pool.upcoming.rotate 1 := by rw [upcoming, List.rotate_mod]
    _ = rest ++ [key] := by rw [first, List.rotate_cons_succ, List.rotate_zero]

lemma Consistent.advance (h : pool.Consistent) : pool.advance.Consistent := ⟨h.keys, h.nodup⟩

/-- What `get_next_account` does: the account that is up is looked up, where it always is. -/
lemma Consistent.getNextAccount_eq (h : pool.Consistent) {rest}
    (first : pool.upcoming = key :: rest) :
    pool.getNextAccount = (pool.getAccount key, pool.advance) := by
  have up : pool.nextKey = some key := by rw [nextKey_eq_head, first, List.head?_cons]
  have known : pool.hasAccount key := by
    rw [h.hasAccount_iff, ← mem_upcoming, first]
    exact List.mem_cons_self
  obtain ⟨it, found⟩ := Option.isSome_iff_exists.mp known
  have there : pool.advance.find key = some it := found
  rw [getNextAccount, up, getAccount, found]
  change subscript pool.advance key = _
  rw [subscript, there]

lemma getNextAccount_empty (nobody : pool.upcoming = []) : pool.getNextAccount = (none, pool) := by
  rw [getNextAccount, nextKey_eq_head, nobody, List.head?_nil]

/-- A selection leaves the accounts and their order. -/
lemma Consistent.getNextAccount (h : pool.Consistent) :
    pool.getNextAccount.2.Consistent ∧
      pool.getNextAccount.2.accountKeys = pool.accountKeys := by
  cases line : pool.upcoming with
  | nil =>
    rw [getNextAccount_empty line]
    exact ⟨h, rfl⟩
  | cons key rest =>
    rw [h.getNextAccount_eq line]
    exact ⟨h.advance, rfl⟩

/-- As long as the counter does not start again, a round is the upcoming accounts. -/
lemma Consistent.getNextAccounts (h : pool.Consistent) {n} (round : n ≤ pool.accountKeys.length)
    (counts : pool.roundRobinIndex.toNat + n ≤ 2 ^ 64) :
    (getNextAccounts n pool).1 = (pool.upcoming.take n).map pool.getAccount ∧
      (getNextAccounts n pool).2.accounts = pool.accounts ∧
      (getNextAccounts n pool).2.accountKeys = pool.accountKeys := by
  induction n generalizing pool with
  | zero => exact ⟨rfl, rfl, rfl⟩
  | succ n ih =>
    cases line : pool.upcoming with
    | nil =>
      rw [← upcoming_length, line] at round
      exact absurd round (Nat.not_succ_le_zero n)
    | cons key rest =>
      have fits : n ≤ rest.length := by
        rw [← upcoming_length, line, List.length_cons] at round
        exact Nat.le_of_succ_le_succ round
      simp only [AccountPool.getNextAccounts, h.getNextAccount_eq line]
      cases n with
      | zero => exact ⟨rfl, rfl, rfl⟩
      | succ n =>
        have below : pool.roundRobinIndex.toNat + 1 < 2 ^ 64 := by omega
        have turn : pool.advance.roundRobinIndex.toNat = pool.roundRobinIndex.toNat + 1 :=
          (UInt64.toNat_add ..).trans (Nat.mod_eq_of_lt below)
        obtain ⟨clients, accounts, keys⟩ := ih h.advance (Nat.le_of_succ_le round) (by omega)
        refine ⟨?_, accounts, keys⟩
        rw [clients, upcoming_advance line (.inl below), List.take_append_of_le_length fits]
        rfl

/-! ## Runs -/

section
variable {sendMessage : α → ChatId → Text → ParseMode → W → Except Fault MessageId × W}

/-- A broadcast leaves the keys as they are. -/
lemma Consistent.broadcast {text parseMode} {world : W} {chatIds} (h : pool.Consistent) :
    (pool.broadcast sendMessage text parseMode world chatIds).2.1.Consistent ∧
      (pool.broadcast sendMessage text parseMode world chatIds).2.1.accountKeys =
        pool.accountKeys := by
  induction chatIds generalizing pool world with
  | nil => exact ⟨h, rfl⟩
  | cons chatId chatIds ih =>
    obtain ⟨next, keys⟩ := h.getNextAccount
    have rest (world : W) := @ih pool.getNextAccount.2 world next
    rw [keys] at rest
    rw [AccountPool.broadcast]
    cases taken : pool.getNextAccount with
    | mk client pool' =>
      rw [taken] at rest
      cases client with
      | none => exact rest world
      | some client =>
        dsimp only
        split
        · exact rest _
        · exact rest _

/-- The keys stand in the order in which they were registered. -/
structure Registered (calls : List (Call α)) (keys : List Text) : Prop where
  mem_iff : ∀ key, key ∈ keys ↔ (registeredAt key calls).isSome
  ordered : keys.Pairwise fun a b => ∃ i j, registeredAt a calls = some i ∧
    registeredAt b calls = some j ∧ i < j

/-- The number of a registration is that of a call. -/
lemma registeredAt_lt {calls : List (Call α)} {i} (h : registeredAt key calls = some i) :
    i < calls.length := by
  induction calls generalizing i with
  | nil => cases h
  | cons call calls ih =>
    have older {j} (before : registeredAt key calls = some j) : j < (call :: calls).length :=
      Nat.lt_succ_of_lt (ih before)
    cases call with
    | addAccount accountId client =>
      rw [registeredAt] at h
      split at h
      · cases before : registeredAt key calls with
        | none =>
          rw [before] at h
          cases h
          exact Nat.lt_succ_self _
        | some j =>
          rw [before] at h
          cases h
          exact older before
      · exact older h
    | removeAccount accountId =>
      rw [registeredAt] at h
      split at h
      · cases h
      · exact older h
    | getNextAccount | broadcast => exact older h

namespace Registered

variable {calls : List (Call α)} {keys : List Text}

lemma nil : Registered ([] : List (Call α)) [] := ⟨fun _ => by simp [registeredAt], .nil⟩

/-- A call that is not a membership change. -/
lemma idle (h : Registered calls keys) {call}
    (same : ∀ key, registeredAt key (call :: calls) = registeredAt key calls) :
    Registered (call :: calls) keys := by
  refine ⟨fun key => by rw [same, h.mem_iff], h.ordered.imp ?_⟩
  intro a b older
  rwa [same, same]

/-- A registration comes last unless the key is there. -/
lemma addAccount (h : Registered calls keys) (accountId : Text) (client : Option α) :
    Registered (.addAccount accountId client :: calls)
      (if accountId ∈ keys then keys else keys ++ [accountId]) := by
  have other {key} (ne : key ≠ accountId) :
      registeredAt key (.addAccount accountId client :: calls) = registeredAt key calls :=
    if_neg (Ne.symm ne)
  have itself : registeredAt accountId (.addAccount accountId client :: calls) =
      (registeredAt accountId calls).or (some calls.length) := if_pos rfl
  by_cases inside : accountId ∈ keys
  · rw [if_pos inside]
    refine h.idle fun key => ?_
    by_cases same : key = accountId
    · obtain ⟨i, first⟩ := Option.isSome_iff_exists.mp ((h.mem_iff accountId).mp inside)
      rw [same, itself, first, Option.some_or]
    · exact other same
  · rw [if_neg inside]
    have fresh : registeredAt accountId calls = none := by
      rwa [h.mem_iff, Option.not_isSome_iff_eq_none] at inside
    rw [fresh, Option.none_or] at itself
    have older {key} (there : key ∈ keys) : key ≠ accountId := fun same => inside (same ▸ there)
    refine ⟨fun key => ?_, List.pairwise_append.mpr ⟨?_, List.pairwise_singleton _ _, ?_⟩⟩
    · by_cases same : key = accountId
      · simp [same, itself]
      · simp [same, other same, h.mem_iff]
    · refine h.ordered.imp_of_mem fun a b order => ?_
      rwa [other (older a), other (older b)]
    · intro a there b last
      rw [List.mem_singleton] at last
      obtain ⟨i, first⟩ := Option.isSome_iff_exists.mp ((h.mem_iff a).mp there)
      refine ⟨i, calls.length, ?_, last ▸ itself, registeredAt_lt first⟩
      rw [other (older there), first]

/-- A removal leaves the others in their order. -/
lemma removeAccount (h : Registered calls keys) (accountId : Text) :
    Registered (.removeAccount accountId :: calls) (keys.filter (· ≠ accountId)) := by
  have other {key} (ne : key ≠ accountId) :
      registeredAt key (.removeAccount accountId :: calls) = registeredAt key calls :=
    if_neg (Ne.symm ne)
  have itself : registeredAt accountId (.removeAccount accountId :: calls) = none := if_pos rfl
  refine ⟨fun key => ?_, (h.ordered.filter _).imp_of_mem fun there₁ there₂ order => ?_⟩
  · by_cases same : key = accountId
    · simp [same, itself]
    · simp [same, other same, h.mem_iff]
  · rw [List.mem_filter, decide_eq_true_eq] at there₁ there₂
    rwa [other there₁.2, other there₂.2]

end Registered

/-- In every run the two containers agree, in the order of registration. -/
lemma run_registered {calls : List (Call α)} {s : AccountPool α × W} {world : W}
    (ran : run (step sendMessage) ({}, world) calls = some s) :
    s.1.Consistent ∧ Registered calls.reverse s.1.accountKeys := by
  induction calls using List.reverseRecOn generalizing s with
  | nil =>
    cases ran
    exact ⟨consistent_empty, .nil⟩
  | append_singleton calls call ih =>
    obtain ⟨s', before, last⟩ := run_concat_eq_some.mp ran
    obtain ⟨agree, registered⟩ := ih before
    rw [List.reverse_concat]
    cases call with
    | addAccount accountId client =>
      cases last
      refine ⟨agree.addAccount, ?_⟩
      rw [agree.addAccount_keys]
      exact registered.addAccount accountId client
    | removeAccount accountId =>
      cases last
      refine ⟨agree.removeAccount, ?_⟩
      rw [agree.removeAccount_keys]
      exact registered.removeAccount accountId
    | getNextAccount =>
      cases last
      refine ⟨agree.getNextAccount.1, ?_⟩
      rw [agree.getNextAccount.2]
      exact registered.idle fun _ => rfl
    | broadcast chatIds text parseMode =>
      cases last
      refine ⟨agree.broadcast.1, ?_⟩
      rw [agree.broadcast.2]
      exact registered.idle fun _ => rfl

/-- The pool in every run: the keys are those of the accounts, each once and in the order of
registration; and a round of selections returns the clients of all accounts in that order, from the
one that is up, and leaves the accounts as they are. -/
theorem accountPool_round {calls : List (Call α)} {s : AccountPool α × W} {world : W}
    (ran : run (step sendMessage) ({}, world) calls = some s) :
    (s.1.accountKeys.Nodup ∧ (∀ key, key ∈ s.1.accountKeys ↔ s.1.hasAccount key) ∧
      Registered calls.reverse s.1.accountKeys) ∧
    ∀ n, n = s.1.size → 0 < n → s.1.roundRobinIndex.toNat + n ≤ 2 ^ 64 →
      (getNextAccounts n s.1).1 =
        (s.1.accountKeys.rotate (s.1.roundRobinIndex.toNat % n)).map s.1.getAccount ∧
      (getNextAccounts n s.1).2.accounts = s.1.accounts ∧
      (getNextAccounts n s.1).2.accountKeys = s.1.accountKeys := by
  obtain ⟨agree, registered⟩ := run_registered ran
  refine ⟨⟨agree.nodup, fun key => agree.hasAccount_iff.symm, registered⟩, ?_⟩
  rintro n rfl - counts
  rw [agree.size_eq] at counts ⊢
  have round := agree.getNextAccounts (Nat.le_refl _) counts
  rwa [List.take_of_length_le upcoming_length.le, upcoming] at round

end

/-- Two accounts, the second of which is up. -/
theorem accountPool_round_two :
    (getNextAccounts 2 ⟨[([97], some 1), ([98], some 2)], [[97], [98]], 1⟩).1 =
      [some 2, some 1] := by
  have round := (@accountPool_round Nat Unit (fun _ _ _ _ world => (.ok 0, world))
    [.addAccount [97] (some 1), .addAccount [98] (some 2), .getNextAccount] _ () rfl).2
  exact (round 2 rfl (by decide) (by decide)).1

end AccountPool

end CppGram
