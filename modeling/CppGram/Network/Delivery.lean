import CppGram.Network.Feeding

/-!
# What the caller gets

`receive_packet` returns the first of the packets that a chunk completes, and forgets the others
with the list that `decode_packets` returned. `deliversAll_iff` says for which chunks of whole
frames the successive calls return every payload: exactly when each chunk is one frame. Two frames
in one chunk make one packet for the caller (`coalesced_frame_dropped`).
-/

namespace CppGram.Network
open Transport

/-- A call that returned a packet: not an empty result, nor an exception. -/
def returnsPacket : Except Fault (List UInt8) → Bool
  | .ok (_ :: _) => true
  | .ok [] => false
  | .error _ => false

/-- The calls return the payloads in order, each once, before they return nothing. -/
def Delivered (results : List (Except Fault (List UInt8))) (payloads : List (List UInt8)) : Prop :=
  results.takeWhile returnsPacket = payloads.map .ok

/-- Every reading of the clock leaves time to every call, and there is one for each. -/
def TimeLeft (timeouts clock : List Int) : Prop :=
  timeouts.length ≤ clock.length ∧
  ∀ timeoutMs ∈ timeouts, ∀ elapsed ∈ clock, 0 < remainingMs timeoutMs elapsed

instance {timeouts clock} : Decidable (TimeLeft timeouts clock) := instDecidableAnd

section
variable {κ : Type} [ITransportCodec κ]

/-- The chunks of a stream that is cut between frames: in each, the frames of one group of
    payloads. -/
def encodeGroups : κ → List (List (List UInt8)) → List (List UInt8)
  | _, [] => []
  | codec, group :: groups =>
    let (frames, codec) := encodeAll codec group
    frames.flatten :: encodeGroups codec groups

/-- When each received chunk is the frames of a group of payloads that the format can carry, the
    calls return all payloads if and only if no two frames share a chunk. -/
def DeliversIff (codec : κ) (admissible : List UInt8 → Prop) (fd : Int)
    (groups : List (List (List UInt8))) (timeouts clock : List Int) : Prop :=
  (∀ group ∈ groups, ∀ p ∈ group, admissible p) →
    (Delivered (receiveAll ⟨fd, []⟩ codec timeouts ⟨clock, encodeGroups codec groups⟩).1
      groups.flatten ↔ ∀ group ∈ groups, group.length = 1)

/-- A call with nothing to receive returns nothing. -/
lemma receivePacket_idle {conn : TcpConnection} (connected : conn.isConnected)
    (empty : conn.rxBuffer = []) (codec : κ) (timeoutMs elapsed clock) :
    (receivePacket conn codec timeoutMs ⟨elapsed :: clock, []⟩).result = .ok [] := by
  rw [receivePacket_open connected, receiveLoop, feed_empty empty]
  cases waited : await conn timeoutMs elapsed [] with
  | mk chunk inbox =>
    cases chunk with
    | none => simp only [waited]
    | some chunk => cases (await_some waited).2

/-- A call that receives a chunk in which the codec finds packets returns the first of them and
    keeps nothing. -/
lemma receivePacket_packet {conn : TcpConnection} {codec codec' : κ} {timeoutMs elapsed}
    {chunk packet packets} (connected : conn.isConnected) (empty : conn.rxBuffer = [])
    (time : 0 < remainingMs timeoutMs elapsed) (some_byte : chunk ≠ [])
    (decoded : ITransportCodec.decodePackets codec chunk = (.ok (packet :: packets), codec'))
    (clock inbox) :
    receivePacket conn codec timeoutMs ⟨elapsed :: clock, chunk :: inbox⟩ =
      ⟨.ok packet, conn, codec', ⟨clock, inbox⟩⟩ := by
  obtain ⟨socketFd, rxBuffer⟩ := conn
  cases empty
  have fd : ¬ socketFd < 0 := not_lt.mpr (of_decide_eq_true connected)
  have received : await ⟨socketFd, []⟩ timeoutMs elapsed (chunk :: inbox) =
      (some chunk, inbox) := by
    simp only [await, if_neg (not_le.mpr time), receiveBytes, fd]
    cases chunk with
    | nil => exact absurd rfl some_byte
    | cons => rfl
  have fed : feed ⟨socketFd, chunk⟩ codec = (some (.ok packet), ⟨socketFd, []⟩, codec') := by
    simp only [feed, if_neg some_byte, decoded]
  rw [receivePacket_open connected, receiveLoop_more (by rw [feed_empty rfl]) received,
    feed_empty rfl, List.nil_append]
  cases clock with
  | nil | cons => rw [receiveLoop, fed]

/-- The frames of payloads have bytes. -/
lemma encodeAll_ne_nil {fits : List UInt8 → Prop} (F : CodecFormat κ fits) (codec : κ) {payloads}
    (ne : payloads ≠ []) (fit : ∀ p ∈ payloads, fits p) :
    (encodeAll codec payloads).1.flatten ≠ [] := by
  intro empty
  have parse := F.parses_encodeAll codec fit
  rw [empty] at parse
  have short := parse.length_add_le
  have pos := List.length_pos_of_ne_nil ne
  rw [List.length_nil] at short
  omega

/-- The calls return the first payload of each group, and then nothing. -/
lemma receiveAll_groups {fits : List UInt8 → Prop} (F : CodecFormat κ fits) {conn : TcpConnection}
    {codec : κ} (encoder : κ) {groups timeouts clock} (connected : conn.isConnected)
    (empty : conn.rxBuffer = []) (fresh : F.buf.get codec = [])
    (some_payload : ∀ group ∈ groups, group ≠ [])
    (fit : ∀ group ∈ groups, ∀ p ∈ group, p ≠ [] ∧ fits p)
    (calls : groups.length < timeouts.length) (time : TimeLeft timeouts clock) :
    (receiveAll conn codec timeouts ⟨clock, encodeGroups encoder groups⟩).1.takeWhile
      returnsPacket = (groups.map (·.headD [])).map .ok := by
  obtain ⟨enough, ahead⟩ := time
  -- each call takes one chunk and leaves both buffers empty, which is where the next one starts
  induction groups generalizing codec encoder timeouts clock with
  | nil =>
    cases timeouts with
    | nil => exact absurd calls (Nat.lt_irrefl _)
    | cons timeoutMs timeouts =>
      cases clock with
      | nil => exact absurd enough (Nat.not_succ_le_zero _)
      | cons elapsed clock =>
        have idle := receivePacket_idle connected empty codec timeoutMs elapsed clock
        rw [receiveAll, encodeGroups]
        simp only
        rw [idle]
        rfl
  | cons group groups ih =>
    obtain ⟨first_ne, some_payload⟩ := List.forall_mem_cons.mp some_payload
    obtain ⟨first_fit, fit⟩ := List.forall_mem_cons.mp fit
    cases timeouts with
    | nil => exact absurd calls (Nat.not_lt_zero _)
    | cons timeoutMs timeouts =>
      cases clock with
      | nil => exact absurd enough (Nat.not_succ_le_zero _)
      | cons elapsed clock =>
        have emptied : F.buf.get (F.buf.set (F.tick^[group.length] codec) []) = [] := F.buf.get_set
        have ih := ih (encodeAll encoder group).2 emptied some_payload fit
          (Nat.lt_of_succ_lt_succ calls) (Nat.le_of_succ_le_succ enough)
          fun t ht e he => ahead t (.tail _ ht) e (.tail _ he)
        have decoded := F.decode_frames (e := encoder) fresh fun p hp => (first_fit p hp).2
        have some_byte := encodeAll_ne_nil F encoder first_ne
          fun p hp => (first_fit p hp).2
        cases group with
        | nil => exact absurd rfl first_ne
        | cons packet packets =>
          have call := receivePacket_packet connected empty
            (ahead timeoutMs (.head _) elapsed (.head _)) some_byte decoded clock
            (encodeGroups (encodeAll encoder (packet :: packets)).2 groups)
          have packet_ne := (first_fit packet (.head _)).1
          rw [receiveAll, encodeGroups, call]
          cases packet with
          | nil => exact absurd rfl packet_ne
          | cons b bs => exact congrArg _ ih

/-- Groups that are not empty are no more than the payloads in them. -/
lemma length_le_flatten {α : Type} {groups : List (List α)}
    (some_payload : ∀ group ∈ groups, group ≠ []) : groups.length ≤ groups.flatten.length := by
  induction groups with
  | nil => exact Nat.le_refl _
  | cons group groups ih =>
    obtain ⟨first_ne, rest_ne⟩ := List.forall_mem_cons.mp some_payload
    have pos := List.length_pos_of_ne_nil first_ne
    have le := ih rest_ne
    rw [List.flatten_cons, List.length_append, List.length_cons]
    omega

/-- The first payloads of the groups are all the payloads when every group has one. -/
lemma heads_eq_flatten_iff {α : Type} {d : α} {groups : List (List α)}
    (some_payload : ∀ group ∈ groups, group ≠ []) :
    groups.map (·.headD d) = groups.flatten ↔ ∀ group ∈ groups, group.length = 1 := by
  induction groups with
  | nil => exact iff_of_true rfl nofun
  | cons group groups ih =>
    obtain ⟨first_ne, rest_ne⟩ := List.forall_mem_cons.mp some_payload
    have le := length_le_flatten rest_ne
    cases group with
    | nil => exact absurd rfl first_ne
    | cons first rest =>
      rw [List.map_cons, List.headD_cons, List.flatten_cons, List.cons_append, List.cons.injEq,
        List.forall_mem_cons, ← ih rest_ne, List.length_cons]
      constructor
      · rintro ⟨-, heads⟩
        have size := congrArg List.length heads
        rw [List.length_map, List.length_append] at size
        -- the other groups have a payload each, so there is no room for `rest`
        have none_left : rest = [] := List.length_eq_zero_iff.mp (by omega)
        rw [none_left] at heads ⊢
        exact ⟨rfl, heads⟩
      · rintro ⟨single, heads⟩
        have none_left : rest = [] := List.length_eq_zero_iff.mp (by omega)
        rw [none_left]
        exact ⟨rfl, heads⟩

/-- A codec with a format loses the packets that share a chunk, and no others. -/
lemma deliversIff {fits : List UInt8 → Prop} (F : CodecFormat κ fits) {codec : κ}
    (fresh : F.buf.get codec = []) {fd : Int} {groups timeouts clock} (connected : 0 ≤ fd)
    (some_payload : ∀ group ∈ groups, group ≠ [])
    (some_byte : ∀ group ∈ groups, ∀ p ∈ group, p ≠ [])
    (calls : groups.flatten.length < timeouts.length) (time : TimeLeft timeouts clock) :
    DeliversIff codec fits fd groups timeouts clock := by
  intro fit
  have both : ∀ group ∈ groups, ∀ p ∈ group, p ≠ [] ∧ fits p :=
    fun group hg p hp => ⟨some_byte group hg p hp, fit group hg p hp⟩
  have fewer := Nat.lt_of_le_of_lt (length_le_flatten some_payload) calls
  have ok_inj : Function.Injective (Except.ok : List UInt8 → Except Fault (List UInt8)) :=
    fun _ _ => Except.ok.inj
  rw [Delivered, receiveAll_groups F codec (decide_eq_true connected) rfl fresh some_payload both
    fewer time, List.map_inj_right ok_inj, heads_eq_flatten_iff some_payload]

end

/-- With time and calls enough, and whole frames of non-empty payloads in every chunk: for each
    codec, all payloads are delivered exactly when each chunk is one frame. -/
theorem deliversAll_iff (fd : Int) (groups : List (List (List UInt8))) (timeouts clock : List Int)
    (connected : 0 ≤ fd) (some_payload : ∀ group ∈ groups, group ≠ [])
    (some_byte : ∀ group ∈ groups, ∀ p ∈ group, p ≠ [])
    (calls : groups.flatten.length < timeouts.length) (time : TimeLeft timeouts clock) :
    DeliversIff ({} : AbridgedCodec) AbridgedCodec.Admissible fd groups timeouts clock ∧
    DeliversIff ({} : IntermediateCodec) IntermediateCodec.Admissible fd groups timeouts clock ∧
    DeliversIff ({} : FullCodec) FullCodec.Admissible fd groups timeouts clock :=
  ⟨deliversIff AbridgedCodec.codecFormat rfl connected some_payload some_byte calls time,
    deliversIff IntermediateCodec.codecFormat rfl connected some_payload some_byte calls time,
    deliversIff FullCodec.codecFormat rfl connected some_payload some_byte calls time⟩

/-- Two frames in two chunks reach the caller. -/
theorem deliversAll_iff_two_chunks :
    Delivered (receiveAll ⟨3, []⟩ ({} : FullCodec) [1000, 1000, 1000]
      ⟨[0, 0, 0], encodeGroups ({} : FullCodec) [[[7]], [[8]]]⟩).1 [[7], [8]] := by
  obtain ⟨-, -, full⟩ := deliversAll_iff 3 [[[7]], [[8]]] [1000, 1000, 1000] [0, 0, 0] (by decide)
    (by decide) (by decide) (by decide) (by decide)
  exact (full (by decide)).mpr (by decide)

/-- Two frames in one chunk: the second one is gone. -/
theorem coalesced_frame_dropped :
    ¬ Delivered (receiveAll ⟨3, []⟩ ({} : IntermediateCodec) [1000, 1000, 1000]
      ⟨[0, 0, 0], encodeGroups ({} : IntermediateCodec) [[[7], [8]]]⟩).1 [[7], [8]] ∧
    (receiveAll ⟨3, []⟩ ({} : IntermediateCodec) [1000, 1000, 1000]
      ⟨[0, 0, 0], encodeGroups ({} : IntermediateCodec) [[[7], [8]]]⟩).1 =
      [.ok [7], .ok [], .ok []] := by
  have run : (receiveAll ⟨3, []⟩ ({} : IntermediateCodec) [1000, 1000, 1000]
      ⟨[0, 0, 0], encodeGroups ({} : IntermediateCodec) [[[7], [8]]]⟩).1 =
      [.ok [7], .ok [], .ok []] := rfl
  refine ⟨?_, run⟩
  rw [Delivered, run]
  intro delivered
  cases delivered

end CppGram.Network
