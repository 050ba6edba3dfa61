import CppGram.Session.Lengths

/-!
# The outputs of a refused packet

Both unpacking functions fill `out_msg_id`, and the second one `out_seq_no`, before they compare the
declared payload length with what is there. So a packet that is refused for its length has left its
identifiers in the outputs. `untouched_iff` says that this is the only way a refusal touches them.
-/

namespace CppGram.Session

/-- If the call returns `false`, the outputs are what they were. -/
def UntouchedOnRefusal (out : MTProtoMessage) (call : Except Fault (Bool × MTProtoMessage)) : Prop :=
  ∀ out', call = .ok (false, out') → out' = out

/-- The declared payload is not there, and the comparison sees it. -/
def SeenShort (headerLen payloadLen : Nat) (data : List UInt8) : Prop :=
  data.length < headerLen + payloadLen ∧ headerLen + payloadLen < 2 ^ 32

/-- The message id in front of the payload length of an unencrypted message. -/
def openMsgIdOf (data : List UInt8) : Int64 :=
  (UInt64.ofNat (Bytes.ofLE (Bytes.span data 8 8))).toInt64

/-- With the outputs half filled, a refusal leaves them so. -/
lemma unpackPayload_untouched_iff {headerLen : UInt32} {data} (header : headerLen.toNat ≤ data.length)
    (payloadLen : UInt32) (filled out : MTProtoMessage) :
    UntouchedOnRefusal out (unpackPayload headerLen data payloadLen filled) ↔
      ¬ (SeenShort headerLen.toNat payloadLen.toNat data ∧ filled ≠ out) := by
  rcases unpackPayload_cases header payloadLen filled with
    ⟨fits, run⟩ | ⟨short, exact_sum, run⟩ | ⟨-, wraps, run⟩
  · rw [run]
    refine iff_of_true (fun out' returned => ?_) fun ⟨⟨short, _⟩, _⟩ => ?_
    · cases returned
    · exact absurd fits (Nat.not_le.mpr short)
  · rw [run]
    constructor
    · rintro untouched ⟨-, differ⟩
      exact differ (untouched filled rfl)
    · rintro same _ ⟨⟩
      exact not_not.mp fun differ => same ⟨⟨short, exact_sum⟩, differ⟩
  · rw [run]
    refine iff_of_true (fun out' returned => ?_) fun ⟨⟨_, sum⟩, _⟩ => ?_
    · cases returned
    · exact absurd sum (Nat.not_lt.mpr wraps)

lemma untouched_of_refused {out : MTProtoMessage} : UntouchedOnRefusal out (.ok (false, out)) := by
  rintro _ ⟨⟩
  rfl

/-- The condition for unencrypted messages. -/
lemma unencrypted_untouched_iff {data : List UInt8} {out} :
    UntouchedOnRefusal out (unpackUnencryptedMessage data out) ↔
      ¬ (20 ≤ data.length ∧ Bytes.ofLE (Bytes.span data 0 8) = 0 ∧
        SeenShort 20 (Bytes.ofLE (Bytes.span data 16 4)) data ∧ openMsgIdOf data ≠ out.msgId) := by
  rcases unpackUnencryptedMessage_cases data out with ⟨⟨header, no_key⟩, run⟩ | ⟨refused, run⟩
  · have declared := toNat_declared (show 16 + 4 ≤ data.length by omega)
    have payload := unpackPayload_untouched_iff (show (20 : UInt32).toNat ≤ data.length from header)
      (UInt32.ofNat (Bytes.ofLE (Bytes.span data 16 4))) { out with msgId := openMsgIdOf data } out
    rw [declared] at payload
    have filled : { out with msgId := openMsgIdOf data } ≠ out ↔ openMsgIdOf data ≠ out.msgId := by
      refine not_congr ⟨fun same => congrArg MTProtoMessage.msgId same, fun same => ?_⟩
      rw [same]
    rw [run]
    refine payload.trans (not_congr ?_)
    rw [filled]
    exact ⟨fun h => ⟨header, no_key, h⟩, fun h => h.2.2⟩
  · rw [run]
    refine iff_of_true untouched_of_refused ?_
    rintro ⟨header, no_key, -⟩
    exact refused ⟨header, no_key⟩

/-- The condition for encrypted messages. -/
lemma encrypted_untouched_iff {ssl : OpenSSL} {s : Session ssl} {data out} :
    UntouchedOnRefusal out (s.unpackEncryptedMessage data out) ↔
      ¬ (s.Addressed data ∧ ∃ p, s.Accepts data p ∧ SeenShort 32 (payloadLenOf p) p ∧
        (msgIdOf p ≠ out.msgId ∨ seqNoOf p ≠ out.seqNo)) := by
  rcases unpackEncryptedMessage_cases s data out with
    ⟨addressed, p, accepts, len, run⟩ | ⟨refused, run⟩
  · have size := addressed.size
    have header : 32 ≤ p.length := by omega
    have declared : (UInt32.ofNat (payloadLenOf p)).toNat = payloadLenOf p :=
      toNat_declared (by omega)
    have payload := unpackPayload_untouched_iff (show (32 : UInt32).toNat ≤ p.length from header)
      (UInt32.ofNat (payloadLenOf p)) { out with msgId := msgIdOf p, seqNo := seqNoOf p } out
    rw [declared] at payload
    have filled : { out with msgId := msgIdOf p, seqNo := seqNoOf p } ≠ out ↔
        msgIdOf p ≠ out.msgId ∨ seqNoOf p ≠ out.seqNo := by
      rw [← not_and_or]
      refine not_congr ⟨fun same => ?_, fun ⟨msg_id, seq_no⟩ => ?_⟩
      · exact ⟨congrArg MTProtoMessage.msgId same, congrArg MTProtoMessage.seqNo same⟩
      · rw [msg_id, seq_no]
    rw [run, unpackPlaintext_eq header]
    refine payload.trans (not_congr ?_)
    rw [filled]
    refine ⟨fun h => ⟨addressed, p, accepts, h⟩, ?_⟩
    rintro ⟨-, q, accepts', h⟩
    rwa [accepts.unique accepts']
  · rw [run]
    refine iff_of_true untouched_of_refused ?_
    rintro ⟨addressed, p, accepts, -⟩
    exact refused ⟨addressed, p, accepts⟩

/-- A refusal leaves the outputs alone exactly but for packets with a good header, an authentic one if
they are encrypted, that declare more payload than there is and whose identifiers are not those the
outputs held before. -/
theorem untouched_iff {ssl : OpenSSL} (s : Session ssl) (data : List UInt8) (out : MTProtoMessage) :
    (UntouchedOnRefusal out (unpackUnencryptedMessage data out) ↔
      ¬ (20 ≤ data.length ∧ Bytes.ofLE (Bytes.span data 0 8) = 0 ∧
        SeenShort 20 (Bytes.ofLE (Bytes.span data 16 4)) data ∧ openMsgIdOf data ≠ out.msgId)) ∧
    (UntouchedOnRefusal out (s.unpackEncryptedMessage data out) ↔
      ¬ (s.Addressed data ∧ ∃ p, s.Accepts data p ∧ SeenShort 32 (payloadLenOf p) p ∧
        (msgIdOf p ≠ out.msgId ∨ seqNoOf p ≠ out.seqNo))) :=
  ⟨unencrypted_untouched_iff, encrypted_untouched_iff⟩

/-- A packet with message id 1 that declares one byte and has none. -/
theorem refused_with_id :
    ¬ UntouchedOnRefusal {} (unpackUnencryptedMessage
      (List.replicate 8 0 ++ [1, 0, 0, 0, 0, 0, 0, 0, 1, 0, 0, 0]) {}) := by
  intro untouched
  cases untouched { msgId := 1 } rfl

end CppGram.Session
