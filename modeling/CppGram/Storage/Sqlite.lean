import CppGram.Lib.Answers
import CppGram.Storage.Memory
import Mathlib.Data.List.TakeWhile

/-!
# The storage in SQLite

`SqliteSessionStorage` (C++ `storage.cpp`): the two tables of its schema, the statements it runs and
what it reads out of the first row. The statements do not fail. A text is bound up to its first NUL
byte and read back as such. `Follows` says that the tables hold what the maps of a
`MemorySessionStorage` after the same calls come to; `interchangeable_iff` in which runs the two give
the same answers.
-/

namespace CppGram.Storage
open Tables

/-- `std::string::c_str`, as a C string is read. -/
def cStr (s : Text) : Text := s.takeWhile (· ≠ 0)

/-- No NUL byte. -/
def NulFree (s : Text) : Prop := 0 ∉ s

lemma cStr_eq {s : Text} (h : NulFree s) : cStr s = s :=
  List.takeWhile_eq_self_iff.mpr fun _ inside =>
    decide_eq_true fun zero => h (zero ▸ inside)

/-- A row of `kv_store`, without the time of the update. -/
structure KvRow where
  key : Text
  value : Text
  deriving DecidableEq, Repr

/-- The tables of the schema. The columns of `peers` are those of `PeerInfo`. -/
structure Db where
  kvStore : List KvRow := []
  peers : List PeerInfo := []

/-- Which row the first `sqlite3_step` of a `SELECT` finds: no statement has an `ORDER BY`. -/
structure Scan where
  kvStore : FirstRow KvRow := default
  peers : FirstRow PeerInfo := default
  deriving Inhabited

/-- C++ `class SqliteSessionStorage`; the connection is null once the storage is closed. -/
structure SqliteSessionStorage where
  db : Option Db

namespace SqliteSessionStorage

/-- `SqliteSessionStorage::SqliteSessionStorage` on a new file. -/
def new : SqliteSessionStorage := ⟨some {}⟩

/-- `SqliteSessionStorage::set_value`. -/
def setValue (s : SqliteSessionStorage) (key value : Text) : SqliteSessionStorage :=
  ⟨s.db.map fun db =>
    { db with kvStore := upsert KvRow.key ⟨cStr key, cStr value⟩ db.kvStore }⟩

/-- `SqliteSessionStorage::get_value`. -/
def getValue (s : SqliteSessionStorage) (scan : Scan) (key : Text) : Option Text :=
  s.db.bind fun db =>
    (select scan.kvStore db.kvStore (·.key = cStr key)).map fun row => cStr row.value

/-- `SqliteSessionStorage::delete_value`. -/
def deleteValue (s : SqliteSessionStorage) (key : Text) : SqliteSessionStorage :=
  ⟨s.db.map fun db => { db with kvStore := delete KvRow.key db.kvStore (cStr key) }⟩

/-- What `sqlite3_bind_text` and `sqlite3_column_text` make of the texts of a peer. -/
def bound (peer : PeerInfo) : PeerInfo :=
  { peer with
    accessHash := cStr peer.accessHash
    username := cStr peer.username
    phone := cStr peer.phone
    title := cStr peer.title }

/-- `SqliteSessionStorage::save_peer`. -/
def savePeer (s : SqliteSessionStorage) (peer : PeerInfo) : SqliteSessionStorage :=
  ⟨s.db.map fun db => { db with peers := upsert PeerInfo.id (bound peer) db.peers }⟩

/-- `SqliteSessionStorage::get_peer`. -/
def getPeer (s : SqliteSessionStorage) (scan : Scan) (id : Int64) : Option PeerInfo :=
  s.db.bind fun db => (select scan.peers db.peers (·.id = id)).map bound

/-- `SqliteSessionStorage::get_peer_by_username`. -/
def getPeerByUsername (s : SqliteSessionStorage) (scan : Scan) (username : Text) :
    Option PeerInfo :=
  s.db.bind fun db => (select scan.peers db.peers (·.username = cStr username)).map bound

/-- `SqliteSessionStorage::close`. -/
def close (_ : SqliteSessionStorage) : SqliteSessionStorage := ⟨none⟩

/-- One call through the interface. -/
def perform (s : SqliteSessionStorage) (scan : Scan) : Call → Answer × SqliteSessionStorage
  | .setValue key value => (.done, s.setValue key value)
  | .getValue key => (.value (s.getValue scan key), s)
  | .deleteValue key => (.done, s.deleteValue key)
  | .savePeer peer => (.done, s.savePeer peer)
  | .getPeer id => (.peer (s.getPeer scan id), s)
  | .getPeerByUsername username => (.peer (s.getPeerByUsername scan username), s)
  | .close => (.done, s.close)

end SqliteSessionStorage

/-! ## Runs -/

/-- The answers of a storage in memory to some calls. -/
def MemorySessionStorage.answers (s : MemorySessionStorage) : List Call → List Answer
  | [] => []
  | call :: calls => (s.perform call).1 :: answers (s.perform call).2 calls

/-- The answers of a storage in SQLite, with the row that each query finds first. -/
def SqliteSessionStorage.answers (s : SqliteSessionStorage) : List (Call × Scan) → List Answer
  | [] => []
  | (call, scan) :: calls => (s.perform scan call).1 :: answers (s.perform scan call).2 calls

/-- The texts of a call have no NUL byte. -/
def Call.NulFree : Call → Prop
  | .setValue key value => Storage.NulFree key ∧ Storage.NulFree value
  | .getValue key | .deleteValue key => Storage.NulFree key
  | .savePeer peer => Storage.NulFree peer.accessHash ∧ Storage.NulFree peer.username ∧
      Storage.NulFree peer.phone ∧ Storage.NulFree peer.title
  | .getPeerByUsername username => Storage.NulFree username
  | .getPeer _ | .close => True

/-- A username by which peers can be told apart: if it is empty, no stored peer has it; else the peer
    that was saved last with it still has it, and no other peer does. -/
def Unambiguous (peers : List PeerInfo) (username : Text) : Prop :=
  if username = [] then holders peers [] = ∅
  else ∀ peer, lastWith peers (named username) = some peer → holders peers username = {peer}

/-! ## The tables against the maps -/

namespace SqliteSessionStorage

lemma bound_eq {peer : PeerInfo} (h : Call.NulFree (.savePeer peer)) : bound peer = peer := by
  obtain ⟨hash, name, phone, title⟩ := h
  rw [bound, cStr_eq hash, cStr_eq name, cStr_eq phone, cStr_eq title]

/-- A storage in SQLite after the same calls as one in memory, into which `peers` have been saved. -/
structure Follows (s : SqliteSessionStorage) (m : MemorySessionStorage) (peers : List PeerInfo) :
    Prop where
  maps : m.Holds peers
  nul_free : ∀ peer ∈ peers, Call.NulFree (.savePeer peer)
  tables : ∃ db, s.db = some db ∧ Unique KvRow.key db.kvStore ∧ Unique PeerInfo.id db.peers ∧
    (∀ key, (find KvRow.key db.kvStore key).map (cStr ∘ KvRow.value) = m.getValue key) ∧
    ∀ id, find PeerInfo.id db.peers id = current PeerInfo.id peers id

/-- A new storage has followed no calls. -/
lemma follows_new : new.Follows {} [] where
  maps := MemorySessionStorage.holds_new
  nul_free _ h := absurd h List.not_mem_nil
  tables := ⟨{}, rfl, List.nodup_nil, List.nodup_nil,
    fun _ => Std.HashMap.getElem?_empty.symm, fun _ => rfl⟩

variable {s : SqliteSessionStorage} {m : MemorySessionStorage} {peers : List PeerInfo}

/-- A call keeps the tables in step with the maps. -/
lemma Follows.perform (h : s.Follows m peers) {call : Call} (opened : call ≠ .close)
    (nul_free : call.NulFree) (scan : Scan) :
    (s.perform scan call).2.Follows (m.perform call).2 (saved peers [call]) := by
  obtain ⟨maps, texts, db, hdb, kv_unique, peers_unique, values, ids⟩ := h
  cases call with
  | close => exact absurd rfl opened
  | getValue _ | getPeer _ | getPeerByUsername _ =>
    exact ⟨maps, texts, db, hdb, kv_unique, peers_unique, values, ids⟩
  | setValue key value =>
    obtain ⟨key_free, value_free⟩ := nul_free
    refine ⟨⟨maps.by_id, maps.by_name⟩, texts,
      { db with kvStore := upsert KvRow.key ⟨cStr key, cStr value⟩ db.kvStore },
      congrArg (Option.map _) hdb, kv_unique.upsert _, peers_unique, fun k => ?_, ids⟩
    change _ = (m.kv.insert key value)[k]?
    rw [find_upsert, cStr_eq key_free, cStr_eq value_free, Std.HashMap.getElem?_insert]
    by_cases same : key = k
    · rw [if_pos same, if_pos (beq_iff_eq.mpr same)]
      exact congrArg some (cStr_eq value_free)
    · rw [if_neg same, if_neg (mt beq_iff_eq.mp same), values]
      rfl
  | deleteValue key =>
    refine ⟨⟨maps.by_id, maps.by_name⟩, texts,
      { db with kvStore := delete KvRow.key db.kvStore (cStr key) },
      congrArg (Option.map _) hdb, kv_unique.delete _, peers_unique, fun k => ?_, ids⟩
    change _ = (m.kv.erase key)[k]?
    rw [find_delete, cStr_eq nul_free, Std.HashMap.getElem?_erase]
    by_cases same : key = k
    · rw [if_pos same, if_pos (beq_iff_eq.mpr same)]
      rfl
    · rw [if_neg same, if_neg (mt beq_iff_eq.mp same), values]
      rfl
  | savePeer peer =>
    refine ⟨maps.savePeer peer, fun p hp => ?_,
      { db with peers := upsert PeerInfo.id (bound peer) db.peers },
      congrArg (Option.map _) hdb, kv_unique, peers_unique.upsert _, values, fun id => ?_⟩
    · rcases List.mem_cons.mp hp with rfl | older
      · exact nul_free
      · exact texts p older
    · rw [find_upsert, bound_eq nul_free, ids]
      exact (current_cons peer peers id).symm

/-- The rows of the table are the peers that are stored. -/
lemma Follows.mem_peers {db : Db} (unique : Unique PeerInfo.id db.peers)
    (ids : ∀ id, find PeerInfo.id db.peers id = current PeerInfo.id peers id) (r : PeerInfo) :
    r ∈ db.peers ↔ current PeerInfo.id peers r.id = some r := by
  rw [mem_iff_find unique, ids]

/-- Values and peers by id are the same in both storages. -/
lemma Follows.answer_eq (h : s.Follows m peers) {call : Call} (opened : call ≠ .close)
    (nul_free : call.NulFree) (by_key : ∀ username, call ≠ .getPeerByUsername username)
    (scan : Scan) : (s.perform scan call).1 = (m.perform call).1 := by
  obtain ⟨maps, texts, db, hdb, kv_unique, peers_unique, values, ids⟩ := h
  cases call with
  | close => exact absurd rfl opened
  | getPeerByUsername username => exact absurd rfl (by_key username)
  | setValue _ _ | deleteValue _ | savePeer _ => rfl
  | getValue key =>
    have read : s.getValue scan key = m.getValue key := by
      rw [getValue, hdb, Option.bind_some, cStr_eq nul_free, select_key _ kv_unique, ← values]
      rfl
    exact congrArg Answer.value read
  | getPeer id =>
    have read : s.getPeer scan id = m.getPeer id := by
      rw [getPeer, hdb, Option.bind_some, select_key _ peers_unique, ids, maps.by_id]
      cases found : current PeerInfo.id peers id with
      | none => rfl
      | some peer => exact congrArg some (bound_eq (texts peer (mem_of_find found)))
    exact congrArg Answer.peer read

/-- What is found under a username: the peer that a scan of the holders meets first. -/
lemma Follows.getPeerByUsername_iff (h : s.Follows m peers) {username : Text}
    (nul_free : NulFree username) (answer : Option PeerInfo) :
    (∀ scan, s.getPeerByUsername scan username = answer) ↔
      ∀ r, r ∈ holders peers username ↔ answer = some r := by
  obtain ⟨maps, texts, db, hdb, -, peers_unique, -, ids⟩ := h
  have rows (r : PeerInfo) :
      r ∈ db.peers.filter (·.username = username) ↔ r ∈ holders peers username := by
    rw [List.mem_filter, mem_peers peers_unique ids]
    rfl
  have read (scan : Scan) : s.getPeerByUsername scan username =
      scan.peers.pick (db.peers.filter (·.username = username)) := by
    rw [getPeerByUsername, hdb, Option.bind_some, cStr_eq nul_free, select]
    cases picked : scan.peers.pick (db.peers.filter (·.username = username)) with
    | none => rfl
    | some peer =>
      obtain ⟨stands, -⟩ := (rows peer).mp (scan.peers.pick_mem picked)
      exact congrArg some (bound_eq (texts peer (mem_of_find stands)))
  simp only [← rows, ← FirstRow.forall_pick_iff]
  exact ⟨fun same first => (read { peers := first }).symm.trans (same _),
    fun same scan => (read scan).trans (same scan.peers)⟩

/-- Both storages find the same peer under a username, whatever row comes first, exactly when the
    username tells peers apart. -/
lemma Follows.by_username_iff (h : s.Follows m peers) {username : Text}
    (nul_free : NulFree username) :
    (∀ scan, s.getPeerByUsername scan username = m.getPeerByUsername username) ↔
      Unambiguous peers username := by
  rw [h.getPeerByUsername_iff nul_free, h.maps.getPeerByUsername_eq, Unambiguous]
  by_cases empty : username = []
  · subst empty
    rw [if_pos rfl, if_pos rfl, Set.eq_empty_iff_forall_notMem]
    refine forall_congr' fun r => ⟨fun only inside => ?_, fun outside => ⟨fun inside => ?_, nofun⟩⟩
    · cases only.mp inside
    · exact absurd inside outside
  · rw [if_neg empty, if_neg empty]
    cases last : lastWith peers (named username) with
    | none =>
      refine ⟨fun _ => nofun, fun _ r => ⟨fun inside => ?_, nofun⟩⟩
      obtain ⟨l, some_last⟩ := exists_lastWith inside
      cases last.symm.trans some_last
    | some l =>
      obtain ⟨now, stands⟩ := exists_current PeerInfo.id (List.mem_of_find?_eq_some last)
      rw [Option.bind_some, stands]
      constructor
      · intro only _ this_last
        cases this_last
        have same : now = l := eq_lastWith last stands ((only now).mpr rfl).2
        refine Set.ext fun r => (only r).trans ?_
        rw [Set.mem_singleton_iff, Option.some.injEq, same, eq_comm]
      · intro only r
        have alone : holders peers username = {l} := only l rfl
        have inside : l ∈ holders peers username := alone ▸ rfl
        cases stands.symm.trans inside.1
        rw [alone, Set.mem_singleton_iff, Option.some.injEq, eq_comm]

/-- One call on both storages. -/
lemma Follows.answer_iff (h : s.Follows m peers) {call : Call} (opened : call ≠ .close)
    (nul_free : call.NulFree) :
    (∀ scan, (s.perform scan call).1 = (m.perform call).1) ↔
      ∀ username, call = .getPeerByUsername username → Unambiguous peers username := by
  by_cases by_key : ∀ username, call ≠ .getPeerByUsername username
  · exact ⟨fun _ username this => absurd this (by_key username),
      fun _ scan => h.answer_eq opened nul_free by_key scan⟩
  · obtain ⟨username, this⟩ := not_forall_not.mp by_key
    subst this
    have same := h.by_username_iff nul_free
    constructor
    · intro answers name this
      cases this
      exact same.mp fun scan => Answer.peer.inj (answers scan)
    · intro apart scan
      exact congrArg Answer.peer (same.mpr (apart username rfl) scan)

end SqliteSessionStorage

/-! ## Interchange -/

lemma saved_cons (peers : List PeerInfo) (call : Call) (calls : List Call) :
    saved peers (call :: calls) = saved (saved peers [call]) calls := by
  cases call <;> rfl

/-- The answers of a storage are the outputs of its calls. -/
lemma SqliteSessionStorage.outputs_eq (s : SqliteSessionStorage) (run : List (Call × Scan)) :
    Answers.outputs perform s run = s.answers run := by
  induction run generalizing s with
  | nil => rfl
  | cons call run ih => exact congrArg (_ :: ·) (ih _)

/-- A storage in memory, with the peers that have been saved. -/
def MemorySessionStorage.observed (m : MemorySessionStorage × List PeerInfo) (call : Call) :
    Answer × MemorySessionStorage × List PeerInfo :=
  ((m.1.perform call).1, (m.1.perform call).2, saved m.2 [call])

/-- The answers of the map are what is expected. -/
lemma MemorySessionStorage.expected_eq (m : MemorySessionStorage) (peers : List PeerInfo)
    (calls : List Call) : Answers.expected observed (m, peers) calls = m.answers calls := by
  induction calls generalizing m peers with
  | nil => rfl
  | cons call calls ih => exact congrArg (_ :: ·) (ih _ _)

/-- Behind some calls the saved peers are known. -/
lemma MemorySessionStorage.after_observed (m : MemorySessionStorage) (peers : List PeerInfo)
    (calls : List Call) : (Answers.after observed (m, peers) calls).2 = saved peers calls := by
  induction calls generalizing m peers with
  | nil => rfl
  | cons call calls ih =>
    rw [saved_cons]
    exact ih _ _

/-- Some calls on two storages in step: the answers agree, whatever rows come first, exactly when each
    username that is looked up tells peers apart at that point. -/
lemma answers_iff {s : SqliteSessionStorage} {m : MemorySessionStorage} {peers : List PeerInfo}
    (h : s.Follows m peers) {calls : List Call} (opened : .close ∉ calls)
    (nul_free : ∀ call ∈ calls, call.NulFree) :
    (∀ run : List (Call × Scan), run.map Prod.fst = calls → s.answers run = m.answers calls) ↔
      ∀ before username after, calls = before ++ .getPeerByUsername username :: after →
        Unambiguous (saved peers before) username := by
  have same := @Answers.outputs_iff _ _ _ _ _ SqliteSessionStorage.perform
    MemorySessionStorage.observed _ (fun s m => s.Follows m.1 m.2)
    (fun call => call ≠ .close ∧ call.NulFree)
    (fun m call => ∀ username, call = .getPeerByUsername username → Unambiguous m.2 username)
    (fun follows allowed => follows.perform allowed.1 allowed.2)
    (fun follows allowed => follows.answer_iff allowed.1 allowed.2) s (m, peers) calls h
    fun call member => ⟨fun this => opened (this ▸ member), nul_free call member⟩
  simp only [SqliteSessionStorage.outputs_eq, MemorySessionStorage.expected_eq,
    MemorySessionStorage.after_observed] at same
  rw [same]
  constructor
  · intro apart before username after split
    exact apart before _ after split username rfl
  · rintro apart before _ after split username rfl
    exact apart before username after split

/-- Two new storages give the same answers to calls with texts that have no NUL byte, whatever rows
    SQLite finds first, exactly when each username that is looked up tells peers apart at that
    point. -/
theorem interchangeable_iff (calls : List Call) (opened : .close ∉ calls)
    (nul_free : ∀ call ∈ calls, call.NulFree) :
    (∀ run : List (Call × Scan), run.map Prod.fst = calls →
      SqliteSessionStorage.new.answers run = MemorySessionStorage.answers {} calls) ↔
    ∀ before username after, calls = before ++ .getPeerByUsername username :: after →
      Unambiguous (saved [] before) username :=
  answers_iff SqliteSessionStorage.follows_new opened nul_free

/-- A peer that is saved once is found under its username in both storages. -/
theorem interchangeable_saved_once :
    SqliteSessionStorage.new.answers
        [(.savePeer { id := 1, username := [97] }, default), (.getPeerByUsername [97], default)] =
      MemorySessionStorage.answers {}
        [.savePeer { id := 1, username := [97] }, .getPeerByUsername [97]] := by
  refine (interchangeable_iff _ (by decide) ?_).mpr ?_ _ rfl
  · simp [Call.NulFree, NulFree]
  · intro before username after split
    rcases before with - | ⟨_, - | ⟨_, before⟩⟩
    · cases split
    · cases split
      rw [Unambiguous, if_neg (by decide)]
      intro peer last
      have saved_peer : peer = { id := 1, username := [97] } := (Option.some.inj last).symm
      subst saved_peer
      refine Set.ext fun r => ⟨fun ⟨stands, _⟩ => ?_, fun this => ?_⟩
      · exact List.mem_singleton.mp (mem_of_find stands)
      · rw [Set.mem_singleton_iff.mp this]
        exact ⟨rfl, rfl⟩
    · cases before <;> cases split

/-- A renamed peer is found under its old username in memory and not in SQLite. -/
theorem renamed_peer_differs :
    let calls := MemorySessionStorage.rename ++ [.getPeerByUsername [97]]
    ∃ run : List (Call × Scan), run.map Prod.fst = calls ∧
      SqliteSessionStorage.new.answers run ≠ MemorySessionStorage.answers {} calls := by
  intro calls
  have in_memory : MemorySessionStorage.answers {} calls =
      [.done, .done, .peer (some { id := 1, username := [98] })] :=
    congrArg (fun found => [Answer.done, .done, .peer found]) MemorySessionStorage.rename_found
  have in_sqlite : SqliteSessionStorage.new.answers (calls.map (·, default)) =
      [.done, .done, .peer none] := rfl
  refine ⟨calls.map (·, default), rfl, ?_⟩
  rw [in_memory, in_sqlite]
  decide

end CppGram.Storage
