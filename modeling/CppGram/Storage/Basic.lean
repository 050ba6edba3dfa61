import CppGram.Core.Machine
import CppGram.Lib.Tables
import Mathlib.Data.Set.Basic

/-!
# Session storage

`ISessionStorage` (C++ `storage.hpp`): string values under string keys, and peers by id and by
username. What a storage is for is said by the calls made to it: `saved` lists the peers that were
saved, the latest first, so that `Tables.current` is what is known of an id and `Tables.lastWith` the
peer last saved under a username.
-/

namespace CppGram.Storage
open Tables

/-- C++ `struct PeerInfo`. -/
structure PeerInfo where
  id : Int64 := 0
  type : Int32 := 0
  accessHash : Text := []
  username : Text := []
  phone : Text := []
  title : Text := []
  deriving DecidableEq, Repr

/-- A call of the `ISessionStorage` interface. -/
inductive Call where
  | setValue (key value : Text)
  | getValue (key : Text)
  | deleteValue (key : Text)
  | savePeer (peer : PeerInfo)
  | getPeer (id : Int64)
  | getPeerByUsername (username : Text)
  | close
  deriving DecidableEq, Repr

/-- What a call returns. -/
inductive Answer where
  | done
  | value (value : Option Text)
  | peer (peer : Option PeerInfo)
  deriving DecidableEq, Repr

/-- Whether a peer has a username. -/
def named (username : Text) (peer : PeerInfo) : Bool := peer.username = username

@[simp]
lemma named_iff {username : Text} {peer : PeerInfo} :
    named username peer = true ↔ peer.username = username :=
  decide_eq_true_iff

/-- The peers that are saved by some calls on a storage into which `before` had been saved, the latest
    first; `close` drops them. -/
def saved : List PeerInfo → List Call → List PeerInfo
  | before, [] => before
  | before, .savePeer peer :: calls => saved (peer :: before) calls
  | _, .close :: calls => saved [] calls
  | before, _ :: calls => saved before calls

/-- The stored peers that have a username. -/
abbrev holders (peers : List PeerInfo) (username : Text) : Set PeerInfo :=
  standing PeerInfo.id peers (named username)

/-- The peer that was saved last under a username, if there is one, has not been saved under another
    name since. -/
def StillHeld (peers : List PeerInfo) (username : Text) : Prop :=
  ∀ peer, lastWith peers (named username) = some peer →
    current PeerInfo.id peers peer.id = some peer

end CppGram.Storage
