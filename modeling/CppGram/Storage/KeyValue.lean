import CppGram.Storage.Sqlite

/-!
# Values under keys

What `set_value`, `get_value` and `delete_value` are for: under each key stands the value that was set
last, unless it was deleted since (`held`). SQLite gets keys and values up to their first NUL byte, so
keys that agree up to there share a row, and a value comes back cut (`Records.getValue_eq`).
`keyValue_iff` says in which runs this does not show.
-/

namespace CppGram.Storage
open Tables

/-- A `set_value`, or a `delete_value`. -/
structure Write where
  key : Text
  value : Option Text

/-- The writes, the latest first, with that of a call. -/
def written (log : List Write) : Call → List Write
  | .setValue key value => ⟨key, some value⟩ :: log
  | .deleteValue key => ⟨key, none⟩ :: log
  | _ => log

/-- The value that was set last under a key, unless it was deleted since. -/
def held (log : List Write) (key : Text) : Option Text :=
  (current Write.key log key).bind Write.value

/-- A map from keys to values, by the writes to it. -/
def keyValueMap (log : List Write) (call : Call) : Answer × List Write :=
  (match call with
    | .getValue key => .value (held log key)
    | _ => .done, written log call)

/-- The calls of such a map. -/
def Call.OnKeys : Call → Prop
  | .setValue _ _ | .getValue _ | .deleteValue _ => True
  | _ => False

/-- The key of a write agrees with a key up to the first NUL byte. -/
def shares (key : Text) (w : Write) : Bool := cStr w.key = cStr key

@[simp]
lemma shares_iff {key : Text} {w : Write} : shares key w = true ↔ cStr w.key = cStr key :=
  decide_eq_true_iff

/-- No other key shows under a key: the last write under one that agrees with it up to a NUL byte is one
to the key itself, of a value without a NUL byte, or leaves what the key is to hold anyway. -/
def Undisturbed (log : List Write) (key : Text) : Prop :=
  ∀ w, lastWith log (shares key) = some w →
    if w.key = key then ∀ value, w.value = some value → NulFree value
    else held log key = w.value.map cStr

/-- A text comes through as it is exactly if it has no NUL byte. -/
lemma cStr_eq_iff {s : Text} : cStr s = s ↔ NulFree s := by
  refine ⟨fun whole zero => ?_, cStr_eq⟩
  have kept := List.takeWhile_eq_self_iff.mp whole 0 zero
  cases of_decide_eq_true kept rfl

lemma cStr_cStr {s : Text} : cStr (cStr s) = cStr s := List.takeWhile_idem

/-! ## The table -/

namespace SqliteSessionStorage

/-- Under what a key is bound to stands what the last write bound to it has left. -/
def Records (s : SqliteSessionStorage) (log : List Write) : Prop :=
  ∃ db, s.db = some db ∧ Unique KvRow.key db.kvStore ∧
    ∀ c, find KvRow.key db.kvStore c =
      (lastWith log fun w => cStr w.key = c).bind fun w => w.value.map fun value => ⟨c, cStr value⟩

lemma records_new : new.Records [] := ⟨{}, rfl, List.nodup_nil, fun _ => rfl⟩

variable {s : SqliteSessionStorage} {log : List Write}

/-- A call keeps the table in step with the writes. -/
lemma Records.perform (h : s.Records log) {call : Call} (on_keys : call.OnKeys) (scan : Scan) :
    (s.perform scan call).2.Records (written log call) := by
  obtain ⟨db, hdb, unique, rows⟩ := h
  cases call with
  | savePeer _ | getPeer _ | getPeerByUsername _ | close => exact on_keys.elim
  | getValue _ => exact ⟨db, hdb, unique, rows⟩
  | setValue key value =>
    refine ⟨{ db with kvStore := upsert KvRow.key ⟨cStr key, cStr value⟩ db.kvStore },
      congrArg (Option.map _) hdb, unique.upsert _, fun c => ?_⟩
    rw [find_upsert, written, lastWith, List.find?_cons]
    by_cases same : cStr key = c
    · rw [if_pos same, decide_eq_true same, same]
      rfl
    · rw [if_neg same, decide_eq_false same]
      exact rows c
  | deleteValue key =>
    refine ⟨{ db with kvStore := delete KvRow.key db.kvStore (cStr key) },
      congrArg (Option.map _) hdb, unique.delete _, fun c => ?_⟩
    rw [find_delete, written, lastWith, List.find?_cons]
    by_cases same : cStr key = c
    · rw [if_pos same, decide_eq_true same]
      rfl
    · rw [if_neg same, decide_eq_false same]
      exact rows c

/-- What is read under a key: the last value bound to what it is bound to, up to its first NUL byte. -/
lemma Records.getValue_eq (h : s.Records log) (scan : Scan) (key : Text) :
    s.getValue scan key = (lastWith log (shares key)).bind fun w => w.value.map cStr := by
  obtain ⟨db, hdb, unique, rows⟩ := h
  rw [getValue, hdb, Option.bind_some, select_key _ unique, rows, Option.map_bind]
  refine congrArg (Option.bind _) (funext fun w => ?_)
  rw [Function.comp_apply, Option.map_map]
  exact congrArg (Option.map · w.value) (funext fun value => cStr_cStr)

end SqliteSessionStorage

/-! ## The map -/

/-- The last write that shares a key, if it is to the key itself, is the last write to it. -/
lemma current_of_lastWith {log : List Write} {key : Text} {w : Write}
    (last : lastWith log (shares key) = some w) (own : w.key = key) :
    current Write.key log key = some w := by
  obtain ⟨now, stands⟩ := exists_current Write.key (List.mem_of_find?_eq_some last)
  have same_key : now.key = key := (find_key stands).trans own
  have shared : shares key now = true := shares_iff.mpr (congrArg cStr same_key)
  rw [← own, stands, eq_lastWith last stands shared]

/-- Without a write that shares a key there is none to it. -/
lemma held_of_none {log : List Write} {key : Text} (none_shares : lastWith log (shares key) = none) :
    held log key = none := by
  cases found : current Write.key log key with
  | none => rw [held, found, Option.bind_none]
  | some w =>
    have shared : shares key w = true := shares_iff.mpr (congrArg cStr (find_key found))
    exact absurd shared (List.find?_eq_none.mp none_shares w (mem_of_find found))

/-- A value comes through as it is exactly if it has no NUL byte. -/
lemma map_cStr_iff {value : Option Text} :
    value.map cStr = value ↔ ∀ text, value = some text → NulFree text := by
  cases value with
  | none => exact iff_of_true rfl fun _ this => by cases this
  | some text =>
    rw [Option.map_some, Option.some_inj, cStr_eq_iff]
    refine ⟨fun free other this => ?_, fun free => free text rfl⟩
    cases this
    exact free

/-- What SQLite gives back is what is held exactly where no other key shows. -/
lemma undisturbed_iff {log : List Write} {key : Text} :
    ((lastWith log (shares key)).bind fun w => w.value.map cStr) = held log key ↔
      Undisturbed log key := by
  cases last : lastWith log (shares key) with
  | none =>
    rw [held_of_none last]
    refine iff_of_true rfl fun w this => ?_
    cases last.symm.trans this
  | some w =>
    have only : Undisturbed log key ↔
        if w.key = key then ∀ value, w.value = some value → NulFree value
        else held log key = w.value.map cStr := by
      refine ⟨fun h => h w last, fun h other this => ?_⟩
      cases last.symm.trans this
      exact h
    rw [only, Option.bind_some]
    by_cases own : w.key = key
    · rw [if_pos own, held, current_of_lastWith last own, Option.bind_some, map_cStr_iff]
    · rw [if_neg own, eq_comm]

/-- No write has a NUL byte. -/
def AllNulFree (log : List Write) : Prop :=
  ∀ w ∈ log, NulFree w.key ∧ ∀ value, w.value = some value → NulFree value

/-- Where neither the key nor anything that was written has a NUL byte, no other key shows. -/
lemma undisturbed_of_nulFree {log : List Write} {key : Text} (free : NulFree key)
    (all : AllNulFree log) : Undisturbed log key := by
  intro w last
  obtain ⟨key_free, value_free⟩ := all w (List.mem_of_find?_eq_some last)
  have shared := shares_iff.mp (lastWith_prop last)
  rw [cStr_eq key_free, cStr_eq free] at shared
  rw [if_pos shared]
  exact value_free

/-- Calls without NUL bytes write none. -/
lemma allNulFree_after {log : List Write} {calls : List Call} (all : AllNulFree log)
    (free : ∀ call ∈ calls, call.NulFree) :
    AllNulFree (Answers.after keyValueMap log calls) := by
  induction calls generalizing log with
  | nil => exact all
  | cons call calls ih =>
    obtain ⟨here, later⟩ := List.forall_mem_cons.mp free
    refine ih ?_ later
    cases call with
    | setValue key value =>
      refine List.forall_mem_cons.mpr ⟨⟨here.1, ?_⟩, all⟩
      rintro _ ⟨⟩
      exact here.2
    | deleteValue key => exact List.forall_mem_cons.mpr ⟨⟨here, by rintro _ ⟨⟩⟩, all⟩
    | _ => exact all

/-! ## Runs -/

open SqliteSessionStorage in
/-- One call on the storage and on the map. -/
lemma answer_iff_undisturbed {s : SqliteSessionStorage} {log : List Write} (h : s.Records log)
    {call : Call} (on_keys : call.OnKeys) :
    (∀ scan, (s.perform scan call).1 = (keyValueMap log call).1) ↔
      ∀ key, call = .getValue key → Undisturbed log key := by
  cases call with
  | savePeer _ | getPeer _ | getPeerByUsername _ | close => exact on_keys.elim
  | setValue _ _ | deleteValue _ => exact iff_of_true (fun _ => rfl) fun _ this => by cases this
  | getValue key =>
    have read (scan : Scan) : (s.perform scan (.getValue key)).1 =
        .value ((lastWith log (shares key)).bind fun w => w.value.map cStr) :=
      congrArg Answer.value (h.getValue_eq scan key)
    constructor
    · rintro same _ ⟨⟩
      exact undisturbed_iff.mp (Answer.value.inj ((read default).symm.trans (same default)))
    · intro undisturbed scan
      exact (read scan).trans (congrArg Answer.value (undisturbed_iff.mpr (undisturbed key rfl)))

/-- In a run of calls on keys, with any texts, a new storage answers like a map from keys to values
exactly when no other key shows under a key at a point where it is looked up; in particular when no key
and no value has a NUL byte. -/
theorem keyValue_iff (calls : List Call) (on_keys : ∀ call ∈ calls, call.OnKeys) :
    ((∀ run : List (Call × Scan), run.map Prod.fst = calls →
      SqliteSessionStorage.new.answers run = Answers.expected keyValueMap [] calls) ↔
    ∀ before key rest, calls = before ++ .getValue key :: rest →
      Undisturbed (Answers.after keyValueMap [] before) key) ∧
    ((∀ call ∈ calls, call.NulFree) → ∀ run : List (Call × Scan), run.map Prod.fst = calls →
      SqliteSessionStorage.new.answers run = Answers.expected keyValueMap [] calls) := by
  have same := @Answers.outputs_iff _ _ _ _ _ SqliteSessionStorage.perform keyValueMap _
    SqliteSessionStorage.Records Call.OnKeys
    (fun log call => ∀ key, call = .getValue key → Undisturbed log key)
    (fun h allowed => h.perform allowed) (fun h allowed => answer_iff_undisturbed h allowed)
    SqliteSessionStorage.new [] calls SqliteSessionStorage.records_new on_keys
  simp only [SqliteSessionStorage.outputs_eq] at same
  rw [same]
  refine ⟨⟨?_, ?_⟩, fun free => ?_⟩
  · intro undisturbed before key rest split
    exact undisturbed before _ rest split key rfl
  · rintro undisturbed before _ rest split key rfl
    exact undisturbed before key rest split
  · rintro before _ rest rfl key rfl
    obtain ⟨earlier, here⟩ := List.forall_mem_append.mp free
    exact undisturbed_of_nulFree (here _ List.mem_cons_self)
      (allNulFree_after (fun _ inside => absurd inside List.not_mem_nil) earlier)

/-- What is written under a key with a NUL byte does not show under one that differs in front of it. -/
theorem keyValue_iff_other_key :
    SqliteSessionStorage.new.answers
        [(.setValue [1] [5], default), (.setValue [2, 0] [6, 0], default), (.getValue [1], default)] =
      Answers.expected keyValueMap []
        [.setValue [1] [5], .setValue [2, 0] [6, 0], .getValue [1]] := by
  refine (keyValue_iff _ ?_).1.mpr ?_ _ rfl
  · intro call member
    simp only [List.mem_cons, List.not_mem_nil, or_false] at member
    rcases member with rfl | rfl | rfl
    all_goals trivial
  · intro before key rest split
    rcases before with - | ⟨_, - | ⟨_, - | ⟨_, before⟩⟩⟩
    · cases split
    · cases split
    · cases split
      rintro w ⟨⟩
      rw [if_pos rfl]
      rintro _ ⟨⟩
      exact (by decide : (0 : UInt8) ∉ [5])
    · cases before <;> cases split

/-- A key that goes on behind a NUL byte is taken for the one that ends there, and a value is cut. -/
theorem keyValue_collision :
    let calls : List Call := [.setValue [1, 0, 7] [5, 0, 6], .getValue [1], .getValue [1, 0, 7]]
    SqliteSessionStorage.new.answers (calls.map (·, default)) =
      [.done, .value (some [5]), .value (some [5])] ∧
    Answers.expected keyValueMap [] calls =
      [.done, .value none, .value (some [5, 0, 6])] :=
  ⟨rfl, rfl⟩

end CppGram.Storage
