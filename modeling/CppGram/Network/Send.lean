import CppGram.Network.TcpConnection
import CppGram.Transport.Intermediate

/-!
# The outgoing stream

`send_packet` reports a failed `::send` and leaves the connection open. `Sends` says what handing
data to the socket can do. From it follows when the bytes on the wire stay a beginning of the frames
that were encoded: exactly when the socket, once it has refused bytes, refuses them for good
(`streamIntact_iff`). A socket that recovers makes the next call start a new frame in the middle of
the old one (`interrupted_frame`).
-/

namespace CppGram.Network
open Transport

/-- A failed `::send` is followed by failed ones only. -/
def FailsForGood (results : List Int) : Prop :=
  results.Pairwise fun earlier later => earlier ≤ 0 → later ≤ 0

instance {results} : Decidable (FailsForGood results) :=
  inferInstanceAs (Decidable (List.Pairwise _ results))

/-- Every further `::send` fails. -/
def Dead (results : List Int) : Prop := ∀ result ∈ results, result ≤ 0

/-- Results that succeed do not matter. -/
lemma failsForGood_append {used} (positive : ∀ result ∈ used, 0 < result) (rest) :
    FailsForGood (used ++ rest) ↔ FailsForGood rest := by
  induction used with
  | nil => rfl
  | cons result used ih =>
    obtain ⟨pos, positive⟩ := List.forall_mem_cons.mp positive
    refine Iff.trans ?_ (ih positive)
    exact List.pairwise_cons.trans (and_iff_right fun _ _ failed => absurd failed (not_le.mpr pos))

/-- Behind a failure all the others have to fail. -/
lemma failsForGood_cons {result rest} (failed : result ≤ 0) :
    FailsForGood (result :: rest) ↔ Dead rest := by
  refine List.pairwise_cons.trans ⟨fun h later hl => h.1 later hl failed, fun dead => ?_⟩
  exact ⟨fun later hl _ => dead later hl,
    List.pairwise_of_forall_mem_list fun _ _ later hl _ => dead later hl⟩

/-- What handing `data` to the socket does: it is accepted as a whole, or a beginning of it is, up
    to a refusal. -/
inductive Sends (data : List UInt8) (sock : SendSocket) : Bool → SendSocket → Prop where
  | all (used) {rest} :
    sock.results = used ++ rest →
    (∀ result ∈ used, 0 < result) →
    (data ≠ [] → used ≠ []) →
    Sends data sock true ⟨rest, sock.accepted ++ data⟩
  | refused (used) {result rest sent} :
    sock.results = used ++ result :: rest →
    (∀ result ∈ used, 0 < result) →
    result ≤ 0 →
    sent <+: data →
    Sends data sock false ⟨rest, sock.accepted ++ sent⟩
  | exhausted {sent} :
    (∀ result ∈ sock.results, 0 < result) →
    sent <+: data →
    Sends data sock false ⟨[], sock.accepted ++ sent⟩

/-- One more `::send` that takes some bytes. -/
lemma Sends.cons {data more accepted : List UInt8} {results sock' ok} {result : Int}
    (positive : 0 < result) (h : Sends data ⟨results, accepted ++ more⟩ ok sock') :
    Sends (more ++ data) ⟨result :: results, accepted⟩ ok sock' := by
  cases h with
  | all used e hp _ =>
    rw [List.append_assoc]
    exact .all (result :: used) (by rw [List.cons_append, ← e])
      (List.forall_mem_cons.mpr ⟨positive, hp⟩) fun _ => List.cons_ne_nil _ _
  | refused used e hp hr hs =>
    rw [List.append_assoc]
    exact .refused (result :: used) (by rw [List.cons_append, ← e])
      (List.forall_mem_cons.mpr ⟨positive, hp⟩) hr ((List.prefix_append_right_inj more).mpr hs)
  | exhausted hp hs =>
    rw [List.append_assoc]
    exact .exhausted (List.forall_mem_cons.mpr ⟨positive, hp⟩)
      ((List.prefix_append_right_inj more).mpr hs)

/-- When nothing is left, all has been sent. -/
lemma Sends.finished {data : List UInt8} {totalSent : Nat} {sock : SendSocket}
    (none_left : ¬ totalSent < data.length) : Sends (data.drop totalSent) sock true sock := by
  rw [List.drop_eq_nil_of_le (Nat.not_lt.mp none_left)]
  have h : Sends [] sock true ⟨sock.results, sock.accepted ++ []⟩ := .all [] rfl nofun (absurd rfl)
  rwa [List.append_nil] at h

/-- The loop of `send_bytes` hands over the rest of the data. -/
lemma sendLoop_sends (data results totalSent accepted) :
    Sends (data.drop totalSent) ⟨results, accepted⟩
      (sendLoop data results totalSent accepted).1
      (sendLoop data results totalSent accepted).2 := by
  induction results generalizing totalSent accepted with
  | nil =>
    by_cases some_left : totalSent < data.length
    · have h : Sends (data.drop totalSent) ⟨[], accepted⟩ false ⟨[], accepted ++ []⟩ :=
        .exhausted nofun List.nil_prefix
      rw [List.append_nil] at h
      simpa only [sendLoop, if_pos some_left] using h
    · simpa only [sendLoop, if_neg some_left] using Sends.finished some_left
  | cons result results ih =>
    by_cases some_left : totalSent < data.length
    · by_cases failed : result ≤ 0
      · have h : Sends (data.drop totalSent) ⟨result :: results, accepted⟩ false
            ⟨results, accepted ++ []⟩ := .refused [] rfl nofun failed List.nil_prefix
        rw [List.append_nil] at h
        simpa only [sendLoop, if_pos some_left, if_pos failed] using h
      · simp only [sendLoop, if_pos some_left, if_neg failed]
        generalize min result.toNat (data.length - totalSent) = sent
        have split : data.drop totalSent =
            Bytes.span data totalSent sent ++ data.drop (totalSent + sent) := by
          rw [Bytes.span, ← List.drop_drop, List.take_append_drop]
        rw [split]
        exact Sends.cons (not_le.mp failed) (ih _ _)
    · simpa only [sendLoop, if_neg some_left] using Sends.finished some_left

/-- On a connection the loop runs over all bytes. -/
lemma sendBytes_open {conn data} (connected : conn.isConnected) (ne : data ≠ [])
    (sock : SendSocket) : sendBytes conn data sock = sendLoop data sock.results 0 sock.accepted := by
  have fd : 0 ≤ conn.socketFd := of_decide_eq_true connected
  rw [sendBytes, if_neg (by simp only [ne, or_false]; omega)]

/-- What `send_bytes` does to the socket. -/
lemma sendBytes_sends {conn data} (connected : conn.isConnected) (ne : data ≠ [])
    (sock : SendSocket) :
    Sends data sock (sendBytes conn data sock).1 (sendBytes conn data sock).2 := by
  rw [sendBytes_open connected ne]
  exact sendLoop_sends data sock.results 0 sock.accepted

/-- Handing over data never takes accepted bytes back, and accepts only bytes of the data, in
    order. -/
lemma Sends.accepted {data sock ok sock'} (h : Sends data sock ok sock') :
    ∃ sent, sock'.accepted = sock.accepted ++ sent ∧ sent <+: data ∧ (ok → sent = data) := by
  cases h with
  | all => exact ⟨data, rfl, List.prefix_rfl, fun _ => rfl⟩
  | refused _ _ _ _ hs => exact ⟨_, rfl, hs, nofun⟩
  | exhausted _ hs => exact ⟨_, rfl, hs, nofun⟩

/-- A call that reports no failure has put the data on the wire. -/
lemma sendBytes_accepted {conn data sock sock'} (connected : conn.isConnected)
    (h : sendBytes conn data sock = (true, sock')) :
    sock'.accepted = sock.accepted ++ data := by
  by_cases empty : data = []
  · rw [sendBytes, if_pos (.inr empty)] at h
    cases h
  · have sends := sendBytes_sends connected empty sock
    rw [h] at sends
    obtain ⟨sent, accepted, -, whole⟩ := sends.accepted
    rw [accepted, whole rfl]

/-- A refusal that is for good leaves a dead socket. -/
lemma Sends.dead {data sock sock'} (h : Sends data sock false sock')
    (good : FailsForGood sock.results) : Dead sock'.results := by
  cases h with
  | refused _ e positive failed =>
    rw [e, failsForGood_append positive] at good
    exact (failsForGood_cons failed).mp good
  | exhausted => nofun

/-- If failures last, they last in what is left of the results. -/
lemma Sends.failsForGood {data sock ok sock'} (h : Sends data sock ok sock')
    (good : FailsForGood sock.results) : FailsForGood sock'.results := by
  cases h with
  | all _ e positive =>
    rw [e] at good
    exact (failsForGood_append positive _).mp good
  | refused _ e positive =>
    rw [e, failsForGood_append positive] at good
    exact (List.pairwise_cons.mp good).2
  | exhausted => exact .nil

/-- A first `::send` that fails is the end of it. -/
lemma sendBytes_refused {conn data results accepted} {result : Int} (connected : conn.isConnected)
    (ne : data ≠ []) (failed : result ≤ 0) :
    sendBytes conn data ⟨result :: results, accepted⟩ = (false, ⟨results, accepted⟩) := by
  rw [sendBytes_open connected ne, sendLoop, if_pos (List.length_pos_of_ne_nil ne)]
  simp only [if_pos failed]

/-- A first `::send` that succeeds hands over at least a byte. -/
lemma sendBytes_grows {conn data} {result : Int} (connected : conn.isConnected) (ne : data ≠ [])
    (positive : 0 < result) (results accepted) :
    accepted.length < (sendBytes conn data ⟨result :: results, accepted⟩).2.accepted.length := by
  have some_left := List.length_pos_of_ne_nil ne
  rw [sendBytes_open connected ne, sendLoop, if_pos some_left]
  simp only [if_neg (not_le.mpr positive)]
  obtain ⟨sent, acc, -⟩ := (sendLoop_sends data results (0 + min result.toNat (data.length - 0))
    (accepted ++ Bytes.span data 0 (min result.toNat (data.length - 0)))).accepted
  rw [acc, List.length_append, List.length_append, Bytes.span_length (by omega)]
  omega

/-- Where every `::send` fails nothing is accepted. -/
lemma sendBytes_dead {conn sock} (connected : conn.isConnected) (dead : Dead sock.results)
    (data : List UInt8) :
    (sendBytes conn data sock).2.accepted = sock.accepted ∧
      Dead (sendBytes conn data sock).2.results := by
  by_cases empty : data = []
  · rw [sendBytes, if_pos (.inr empty)]
    exact ⟨rfl, dead⟩
  · obtain ⟨results, accepted⟩ := sock
    cases results with
    | nil =>
      rw [sendBytes_open connected empty, sendLoop, if_pos (List.length_pos_of_ne_nil empty)]
      exact ⟨rfl, nofun⟩
    | cons result results =>
      rw [sendBytes_refused connected empty (dead result (.head _))]
      exact ⟨rfl, fun later hl => dead later (.tail _ hl)⟩

/-! ## Runs of `send_packet` -/

section
variable {κ : Type} [ITransportCodec κ]

/-- After a call whose frame was not accepted as a whole, no later call adds to the stream. -/
def StopsAfterFailure (conn : TcpConnection) : κ → List (List UInt8) → SendSocket → Prop
  | _, [], _ => True
  | codec, payload :: payloads, sock =>
    let frame := (ITransportCodec.encodePacket codec payload).1
    let (sent, codec, sock) := sendPacket conn codec payload sock
    (frame ≠ [] → sent = false →
      (sendAll conn codec payloads sock).2.accepted = sock.accepted) ∧
    StopsAfterFailure conn codec payloads sock

/-- The bytes the socket accepted are a beginning of the frames, and after a failed call nothing
    more is put on the wire. -/
def StreamIntact (conn : TcpConnection) (codec : κ) (payloads : List (List UInt8))
    (results : List Int) : Prop :=
  (sendAll conn codec payloads ⟨results, []⟩).2.accepted <+: (encodeAll codec payloads).1.flatten ∧
  StopsAfterFailure conn codec payloads ⟨results, []⟩

/-- On a connection a packet is encoded and its bytes are sent. -/
lemma sendPacket_open {conn : TcpConnection} {codec : κ} {payload sock}
    (connected : conn.isConnected) :
    sendPacket conn codec payload sock =
      ((sendBytes conn (ITransportCodec.encodePacket codec payload).1 sock).1,
        (ITransportCodec.encodePacket codec payload).2,
        (sendBytes conn (ITransportCodec.encodePacket codec payload).1 sock).2) := by
  simp only [sendPacket, connected, Bool.not_true, Bool.false_eq_true, if_false]

/-- Without a connection nothing is encoded or sent. -/
lemma sendPacket_closed {conn : TcpConnection} {codec : κ} {payload sock}
    (closed : conn.isConnected = false) :
    sendPacket conn codec payload sock = (false, codec, sock) := by
  simp only [sendPacket, closed, Bool.not_false, if_true]

/-- Where every `::send` fails no payload is accepted. -/
lemma sendAll_dead (conn : TcpConnection) (codec : κ) (payloads) {sock}
    (dead : Dead sock.results) : (sendAll conn codec payloads sock).2.accepted = sock.accepted := by
  induction payloads generalizing codec sock with
  | nil => rfl
  | cons payload payloads ih =>
    rw [sendAll]
    cases connected : conn.isConnected with
    | false =>
      rw [sendPacket_closed connected]
      exact ih _ dead
    | true =>
      rw [sendPacket_open connected]
      obtain ⟨same, dead⟩ := sendBytes_dead connected dead
        (ITransportCodec.encodePacket codec payload).1
      exact (ih _ dead).trans same

/-- Without a connection no payload is encoded or sent. -/
lemma sendAll_closed {conn : TcpConnection} {codec : κ} {payloads sock}
    (closed : conn.isConnected = false) : sendAll conn codec payloads sock = (codec, sock) := by
  induction payloads with
  | nil => rfl
  | cons payload payloads ih =>
    rw [sendAll, sendPacket_closed closed]
    exact ih

/-- Without a connection nothing is sent after a failure either. -/
lemma stopsAfterFailure_closed {conn : TcpConnection} {codec : κ} {payloads sock}
    (closed : conn.isConnected = false) : StopsAfterFailure conn codec payloads sock := by
  induction payloads with
  | nil => trivial
  | cons payload payloads ih =>
    rw [StopsAfterFailure, sendPacket_closed closed]
    refine ⟨fun _ _ => ?_, ih⟩
    rw [sendAll_closed closed]

/-- A run over a socket that fails for good adds a beginning of the frames, and none of its calls
    adds anything after a failed one. -/
lemma sendAll_good {conn : TcpConnection} (connected : conn.isConnected) (codec : κ)
    (payloads sock) (good : FailsForGood sock.results) :
    (∃ sent, (sendAll conn codec payloads sock).2.accepted = sock.accepted ++ sent ∧
      sent <+: (encodeAll codec payloads).1.flatten) ∧
    StopsAfterFailure conn codec payloads sock := by
  induction payloads generalizing codec sock with
  | nil => exact ⟨⟨[], (List.append_nil _).symm, List.prefix_rfl⟩, trivial⟩
  | cons payload payloads ih =>
    rw [sendAll, StopsAfterFailure, sendPacket_open connected, encodeAll]
    simp only [List.flatten_cons]
    generalize (ITransportCodec.encodePacket codec payload).1 = frame
    generalize (ITransportCodec.encodePacket codec payload).2 = codec'
    by_cases empty : frame = []
    · subst empty
      rw [sendBytes, if_pos (.inr rfl), List.nil_append]
      obtain ⟨run, stops⟩ := ih _ _ good
      exact ⟨run, fun ne => absurd rfl ne, stops⟩
    · have sends := sendBytes_sends connected empty sock
      generalize sendBytes conn frame sock = call at sends ⊢
      obtain ⟨ok, sock'⟩ := call
      obtain ⟨sent, acc, front, whole⟩ := sends.accepted
      obtain ⟨⟨more, acc', front'⟩, stops⟩ := ih codec' _ (sends.failsForGood good)
      cases ok with
      | true =>
        -- the whole frame is out, the later calls go on behind it
        refine ⟨⟨sent ++ more, ?_, ?_⟩, fun _ failed => (by cases failed), stops⟩
        · rw [acc', acc, List.append_assoc]
        · rw [whole rfl]
          exact (List.prefix_append_right_inj frame).mpr front'
      | false =>
        have same := sendAll_dead conn codec' payloads (sends.dead good)
        exact ⟨⟨sent, same.trans acc, front.trans (List.prefix_append _ _)⟩, fun _ _ => same, stops⟩

/-- What the socket has accepted does not shrink. -/
lemma sendAll_grows {conn : TcpConnection} (connected : conn.isConnected) (codec : κ)
    (payloads sock) :
    sock.accepted.length ≤ (sendAll conn codec payloads sock).2.accepted.length := by
  induction payloads generalizing codec sock with
  | nil => exact Nat.le_refl _
  | cons payload payloads ih =>
    rw [sendAll, sendPacket_open connected]
    refine Nat.le_trans ?_ (ih _ _)
    by_cases empty : (ITransportCodec.encodePacket codec payload).1 = []
    · rw [sendBytes, if_pos (.inr empty)]
    · obtain ⟨sent, acc, -⟩ := (sendBytes_sends connected empty sock).accepted
      rw [acc, List.length_append]
      exact Nat.le_add_right _ _

/-- A socket from which no run gets anything accepted is dead. -/
lemma dead_of_sendAll {conn : TcpConnection} (codec : κ) {results accepted}
    (connected : conn.isConnected)
    (frames : ∀ (codec : κ) payload, (ITransportCodec.encodePacket codec payload).1 ≠ [])
    (same : ∀ payloads, (sendAll conn codec payloads ⟨results, accepted⟩).2.accepted = accepted) :
    Dead results := by
  induction results generalizing codec with
  | nil => nofun
  | cons result results ih =>
    have ne := frames codec []
    by_cases failed : result ≤ 0
    · refine List.forall_mem_cons.mpr ⟨failed, ?_⟩
      apply ih (ITransportCodec.encodePacket codec []).2
      intro payloads
      have sends := same ([] :: payloads)
      rw [sendAll, sendPacket_open connected, sendBytes_refused connected ne failed] at sends
      exact sends
    · have sends := same [[]]
      rw [sendAll, sendPacket_open connected] at sends
      have more := sendBytes_grows connected ne (not_le.mp failed) results accepted
      have more := Nat.lt_of_lt_of_le more
        (sendAll_grows connected (ITransportCodec.encodePacket codec []).2 [] _)
      rw [sends] at more
      exact absurd more (Nat.lt_irrefl _)

/-- A socket for which every run stops after a failed call fails for good. -/
lemma failsForGood_of_stops {conn : TcpConnection} {codec : κ} {results accepted}
    (connected : conn.isConnected)
    (frames : ∀ (codec : κ) payload, (ITransportCodec.encodePacket codec payload).1 ≠ [])
    (stops : ∀ payloads, StopsAfterFailure conn codec payloads ⟨results, accepted⟩) :
    FailsForGood results := by
  -- on the number of results left: a call with an empty payload uses up at least one
  induction e : results.length using Nat.strongRecOn generalizing codec results accepted with
  | ind k ih =>
    subst e
    have ne := frames codec []
    have sends := sendBytes_sends connected ne ⟨results, accepted⟩
    have call (payloads) := stops ([] :: payloads)
    simp only [StopsAfterFailure, sendPacket_open connected] at call
    generalize sendBytes conn (ITransportCodec.encodePacket codec []).1 ⟨results, accepted⟩ = sent
      at sends call
    obtain ⟨ok, sock⟩ := sent
    cases sends with
    | @all used rest e positive used_ne =>
      simp only at e
      have shorter := List.length_pos_of_ne_nil (used_ne ne)
      have good := ih rest.length (by rw [e, List.length_append]; omega)
        (fun payloads => (call payloads).2) rfl
      rwa [e, failsForGood_append positive]
    | @refused used result rest sent e positive failed front =>
      -- this call failed, so no run from here on may get a byte accepted
      simp only at e
      rw [e, failsForGood_append positive, failsForGood_cons failed]
      exact dead_of_sendAll _ connected frames fun payloads => (call payloads).1 ne rfl
    | exhausted positive =>
      have good := (failsForGood_append positive []).mpr .nil
      rwa [List.append_nil] at good

/-- The stream of a run stays intact when the socket fails for good; and where every frame has a
    byte, a socket for which the stream of every run stays intact fails for good. -/
theorem streamIntact_iff (conn : TcpConnection) (codec : κ) (results : List Int) :
    (FailsForGood results → ∀ payloads, StreamIntact conn codec payloads results) ∧
    (conn.isConnected →
      (∀ (codec : κ) payload, (ITransportCodec.encodePacket codec payload).1 ≠ []) →
      (∀ payloads, StreamIntact conn codec payloads results) → FailsForGood results) := by
  refine ⟨?_, ?_⟩
  · intro good payloads
    cases connected : conn.isConnected with
    | false =>
      rw [StreamIntact, sendAll_closed connected]
      exact ⟨List.nil_prefix, stopsAfterFailure_closed connected⟩
    | true =>
      obtain ⟨⟨sent, acc, front⟩, stops⟩ := sendAll_good connected codec payloads ⟨results, []⟩ good
      rw [List.nil_append] at acc
      exact ⟨acc ▸ front, stops⟩
  · intro connected frames intact
    exact failsForGood_of_stops connected frames fun payloads => (intact payloads).2

end

/-- Short writes and then failures leave any stream of the intermediate codec intact. -/
theorem streamIntact_short_writes :
    (∀ payloads, StreamIntact ⟨3, []⟩ ({} : IntermediateCodec) payloads [2, 3, -1, 0]) ∧
    FailsForGood [2, 3, -1, 0] := by
  obtain ⟨intact, good⟩ := streamIntact_iff ⟨3, []⟩ ({} : IntermediateCodec) [2, 3, -1, 0]
  refine ⟨intact (by decide), good rfl ?_ (intact (by decide))⟩
  intro codec payload
  exact List.cons_ne_nil _ _

/-- Two bytes of the first frame, a failed `::send`, and the second frame behind them. -/
theorem interrupted_frame :
    ¬ StreamIntact ⟨3, []⟩ ({} : IntermediateCodec) [[1], [2]] [2, -1, 100] ∧
    (sendAll ⟨3, []⟩ ({} : IntermediateCodec) [[1], [2]] ⟨[2, -1, 100], []⟩).2.accepted =
      [1, 0, 1, 0, 0, 0, 2] := by
  have wire : (sendAll ⟨3, []⟩ ({} : IntermediateCodec) [[1], [2]] ⟨[2, -1, 100], []⟩).2.accepted =
      [1, 0, 1, 0, 0, 0, 2] := by decide
  have frames : (encodeAll ({} : IntermediateCodec) [[1], [2]]).1.flatten =
      [1, 0, 0, 0, 1, 1, 0, 0, 0, 2] := by decide
  refine ⟨?_, wire⟩
  rintro ⟨front, -⟩
  rw [wire, frames] at front
  exact absurd front (by decide)

end CppGram.Network
