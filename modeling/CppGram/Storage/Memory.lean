import CppGram.Storage.Basic
import Mathlib.Data.List.Basic

/-!
# The storage in memory

`MemorySessionStorage` (C++ `storage.hpp`): three hash maps, the third from usernames to ids.
`save_peer` adds to it and nothing but `close` takes out of it, so an entry outlives the username of
its peer. `Holds` says what the maps hold after any calls; `usernameIndex_iff` for which usernames
the index can be relied on.
-/

namespace CppGram.Storage
open Std Tables

/-- C++ `class MemorySessionStorage`. -/
structure MemorySessionStorage where
  kv : HashMap Text Text := {}
  peers : HashMap Int64 PeerInfo := {}
  usernameToId : HashMap Text Int64 := {}

namespace MemorySessionStorage

/-- `MemorySessionStorage::set_value`. -/
def setValue (s : MemorySessionStorage) (key value : Text) : MemorySessionStorage :=
  { s with kv := s.kv.insert key value }

/-- `MemorySessionStorage::get_value`. -/
def getValue (s : MemorySessionStorage) (key : Text) : Option Text := s.kv[key]?

/-- `MemorySessionStorage::delete_value`. -/
def deleteValue (s : MemorySessionStorage) (key : Text) : MemorySessionStorage :=
  { s with kv := s.kv.erase key }

/-- `MemorySessionStorage::save_peer`. -/
def savePeer (s : MemorySessionStorage) (peer : PeerInfo) : MemorySessionStorage :=
  { s with
    peers := s.peers.insert peer.id peer
    usernameToId :=
      if peer.username ≠ [] then s.usernameToId.insert peer.username peer.id
      else s.usernameToId }

/-- `MemorySessionStorage::get_peer`. -/
def getPeer (s : MemorySessionStorage) (id : Int64) : Option PeerInfo := s.peers[id]?

/-- `MemorySessionStorage::get_peer_by_username`. -/
def getPeerByUsername (s : MemorySessionStorage) (username : Text) : Option PeerInfo :=
  match s.usernameToId[username]? with
  | some id => s.peers[id]?
  | none => none

/-- `MemorySessionStorage::close`. -/
def close (_ : MemorySessionStorage) : MemorySessionStorage := {}

/-- One call through the interface. -/
def perform (s : MemorySessionStorage) : Call → Answer × MemorySessionStorage
  | .setValue key value => (.done, s.setValue key value)
  | .getValue key => (.value (s.getValue key), s)
  | .deleteValue key => (.done, s.deleteValue key)
  | .savePeer peer => (.done, s.savePeer peer)
  | .getPeer id => (.peer (s.getPeer id), s)
  | .getPeerByUsername username => (.peer (s.getPeerByUsername username), s)
  | .close => (.done, s.close)

/-- The storage after some calls. -/
def after (s : MemorySessionStorage) : List Call → MemorySessionStorage
  | [] => s
  | call :: calls => after (s.perform call).2 calls

/-! ## What the maps hold -/

/-- The maps of the peers hold what the saved peers come to: under an id the last peer saved, under a
    username that is not empty the id of the last peer saved with it. -/
structure Holds (s : MemorySessionStorage) (peers : List PeerInfo) : Prop where
  by_id : ∀ id, s.getPeer id = current PeerInfo.id peers id
  by_name : ∀ username, s.usernameToId[username]? =
    if username = [] then none else (lastWith peers (named username)).map PeerInfo.id

/-- A new storage holds no peers. -/
lemma holds_new : Holds {} [] where
  by_id _ := HashMap.getElem?_empty
  by_name username := by
    refine HashMap.getElem?_empty.trans ?_
    split <;> rfl

/-- A peer that is saved is held in front of the others. -/
lemma Holds.savePeer {s : MemorySessionStorage} {peers} (h : s.Holds peers) (peer : PeerInfo) :
    (s.savePeer peer).Holds (peer :: peers) where
  by_id id := by
    rw [current_cons, ← h.by_id id]
    change (s.peers.insert peer.id peer)[id]? = _
    rw [HashMap.getElem?_insert]
    by_cases same : peer.id = id
    · rw [if_pos same, if_pos (beq_iff_eq.mpr same)]
    · rw [if_neg same, if_neg (mt beq_iff_eq.mp same)]
      rfl
  by_name username := by
    have older := h.by_name username
    simp only [MemorySessionStorage.savePeer]
    by_cases empty : username = []
    · -- the empty username is not put into the index
      rw [if_pos empty] at older ⊢
      by_cases unnamed : peer.username = []
      · rw [if_neg (not_not_intro unnamed), older]
      · have other : (peer.username == username) = false :=
          beq_eq_false_iff_ne.mpr (empty ▸ unnamed)
        rw [if_pos unnamed, HashMap.getElem?_insert, other, if_neg Bool.false_ne_true, older]
    · rw [if_neg empty] at older ⊢
      rw [lastWith, List.find?_cons]
      by_cases same : peer.username = username
      · have given : peer.username ≠ [] := same ▸ empty
        rw [if_pos given, HashMap.getElem?_insert, if_pos (beq_iff_eq.mpr same), named,
          decide_eq_true same]
        rfl
      · rw [named, decide_eq_false same]
        by_cases unnamed : peer.username = []
        · rw [if_neg (not_not_intro unnamed), older]
          rfl
        · rw [if_pos unnamed, HashMap.getElem?_insert, if_neg (mt beq_iff_eq.mp same), older]
          rfl

/-- What the maps hold after any calls. -/
lemma Holds.after {s : MemorySessionStorage} {peers} (h : s.Holds peers) (calls : List Call) :
    (s.after calls).Holds (saved peers calls) := by
  induction calls generalizing s peers with
  | nil => exact h
  | cons call calls ih =>
    cases call with
    | savePeer peer => exact ih (h.savePeer peer)
    | close => exact ih holds_new
    | setValue key value => exact ih ⟨h.by_id, h.by_name⟩
    | deleteValue key => exact ih ⟨h.by_id, h.by_name⟩
    | getValue _ | getPeer _ | getPeerByUsername _ => exact ih h

/-- The peer that is found under a username: what is stored now of the one last saved with it. -/
lemma Holds.getPeerByUsername_eq {s : MemorySessionStorage} {peers} (h : s.Holds peers)
    (username : Text) :
    s.getPeerByUsername username =
      if username = [] then none
      else (lastWith peers (named username)).bind fun peer =>
        current PeerInfo.id peers peer.id := by
  rw [getPeerByUsername, h.by_name]
  by_cases empty : username = []
  · rw [if_pos empty, if_pos empty]
  · rw [if_neg empty, if_neg empty]
    cases lastWith peers (named username) with
    | none => rfl
    | some peer => exact h.by_id peer.id

/-! ## The index of usernames -/

/-- What `get_peer_by_username` finds has the username and is what `get_peer` finds; and if some
    stored peer has the username, it finds the one of them that was saved last. -/
def UsernameIndexRight (s : MemorySessionStorage) (peers : List PeerInfo) (username : Text) :
    Prop :=
  (∀ peer, s.getPeerByUsername username = some peer →
    peer.username = username ∧ s.getPeer peer.id = some peer) ∧
  (username ≠ [] → ∀ id holder, s.getPeer id = some holder → holder.username = username →
    ∃ peer, s.getPeerByUsername username = some peer ∧
      LatestIn peers (holders peers username) peer)

/-- After any calls the index is right about a username exactly when the username is empty or the
    peer that was saved last with it has not been saved with another since. -/
theorem usernameIndex_iff (calls : List Call) (username : Text) :
    (after {} calls).UsernameIndexRight (saved [] calls) username ↔
      username = [] ∨ StillHeld (saved [] calls) username := by
  have h : (after {} calls).Holds (saved [] calls) := holds_new.after calls
  have found := h.getPeerByUsername_eq username
  generalize after {} calls = s at h found ⊢
  generalize saved [] calls = peers at h found ⊢
  by_cases empty : username = []
  · rw [if_pos empty] at found
    refine ⟨fun _ => .inl empty, fun _ => ⟨fun peer hp => ?_, fun some_name => ?_⟩⟩
    · cases found.symm.trans hp
    · exact absurd empty some_name
  · rw [if_neg empty] at found
    constructor
    · rintro ⟨sound, -⟩
      refine .inr fun l last => ?_
      obtain ⟨r, stands⟩ := exists_current PeerInfo.id (List.mem_of_find?_eq_some last)
      rw [last, Option.bind_some, stands] at found
      have has : named username r = true := named_iff.mpr (sound r found).1
      rw [stands, eq_lastWith last stands has]
    · rintro (absent | held)
      · exact absurd absent empty
      cases last : lastWith peers (named username) with
      | none =>
        rw [last] at found
        refine ⟨fun peer hp => ?_, fun _ id holder stored has => ?_⟩
        · cases found.symm.trans hp
        · -- a stored peer with the username would have been saved with it
          rw [h.by_id] at stored
          have standing : holder ∈ holders peers username :=
            ⟨(find_key stored).symm ▸ stored, named_iff.mpr has⟩
          obtain ⟨l, some_last⟩ := exists_lastWith standing
          cases last.symm.trans some_last
      | some l =>
        have stands := held l last
        rw [last, Option.bind_some, stands] at found
        refine ⟨fun peer hp => ?_, fun _ _ _ _ _ => ⟨l, found, latestIn_standing last stands⟩⟩
        cases found.symm.trans hp
        exact ⟨named_iff.mp (lastWith_prop last), (h.by_id _).trans stands⟩

/-- The calls that save a peer as `a` and then as `b`. -/
def rename : List Call :=
  [.savePeer { id := 1, username := [97] }, .savePeer { id := 1, username := [98] }]

lemma rename_found :
    (after {} rename).getPeerByUsername [97] = some { id := 1, username := [98] } :=
  ((holds_new.after rename).getPeerByUsername_eq [97]).trans rfl

/-- The renamed peer is still found under its old username, which it does not have. -/
theorem renamed_peer_found : ¬ (after {} rename).UsernameIndexRight (saved [] rename) [97] := by
  rintro ⟨sound, -⟩
  cases (sound _ rename_found).1

end MemorySessionStorage

end CppGram.Storage
