import CppGram.Session.Authentication

/-!
# The declared length

Both unpacking functions compare the size of what they got with the header length plus the declared
payload length, a sum in `uint32_t`. `exact_iff` says for which packets the outcome is the one the
exact sum would give: all but those whose declared length makes the sum wrap while the payload is
not there. For these the check passes and the copy reads behind the packet, as for a packet of 20
bytes that declares `2 ^ 32 - 1` more (`header_only_packet`).
-/

namespace CppGram.Session

/-- The call returns, so that no byte outside of the data was read, and if it returns `true`, the
    declared payload is in the data behind the header and is what was copied. -/
def ExactPayload (headerLen payloadLen : Nat) (data : List UInt8)
    (call : Except Fault (Bool × MTProtoMessage)) : Prop :=
  ∃ ok out, call = .ok (ok, out) ∧
    (ok = true → headerLen + payloadLen ≤ data.length ∧
      out.payload = Bytes.span data headerLen payloadLen)

/-- The declared length makes the sum wrap, and the payload is not there. -/
def WrapsShort (headerLen payloadLen : Nat) (data : List UInt8) : Prop :=
  2 ^ 32 ≤ headerLen + payloadLen ∧ data.length < headerLen + payloadLen

/-- `unpack_unencrypted_message` is exact on a packet. -/
def ExactUnencrypted (data : List UInt8) (out : MTProtoMessage) : Prop :=
  ExactPayload 20 (Bytes.ofLE (Bytes.span data 16 4)) data (unpackUnencryptedMessage data out)

/-- `unpack_encrypted_message` is exact on a packet: it returns, and if it returns `true`, it is so
    on the plaintext that it accepted. -/
def ExactEncrypted {ssl : OpenSSL} (s : Session ssl) (data : List UInt8) (out : MTProtoMessage) :
    Prop :=
  ∃ ok out', s.unpackEncryptedMessage data out = .ok (ok, out') ∧
    (ok = true → ∃ p, s.Accepts data p ∧ 32 + payloadLenOf p ≤ p.length ∧
      out'.payload = Bytes.span p 32 (payloadLenOf p))

/-- A payload is copied exactly unless the sum wraps and it is not there. -/
lemma unpackPayload_exact_iff {headerLen : UInt32} {data} (header : headerLen.toNat ≤ data.length)
    (payloadLen : UInt32) (out) :
    ExactPayload headerLen.toNat payloadLen.toNat data
      (unpackPayload headerLen data payloadLen out) ↔
      ¬ WrapsShort headerLen.toNat payloadLen.toNat data := by
  rcases unpackPayload_cases header payloadLen out with
    ⟨fits, run⟩ | ⟨short, exact_sum, run⟩ | ⟨short, wraps, run⟩
  · rw [run]
    refine iff_of_true ⟨_, _, rfl, fun _ => ⟨fits, rfl⟩⟩ ?_
    rintro ⟨-, short⟩
    exact absurd fits (Nat.not_le.mpr short)
  · rw [run]
    refine iff_of_true ⟨_, _, rfl, nofun⟩ ?_
    rintro ⟨wraps, -⟩
    exact absurd exact_sum (Nat.not_lt.mpr wraps)
  · rw [run]
    refine iff_of_false ?_ (not_not.mpr ⟨wraps, short⟩)
    rintro ⟨ok, out', returned, -⟩
    cases returned

/-- The condition for unencrypted messages. -/
lemma exactUnencrypted_iff {data : List UInt8} {out} :
    ExactUnencrypted data out ↔
      ¬ (20 ≤ data.length ∧ Bytes.ofLE (Bytes.span data 0 8) = 0 ∧
        WrapsShort 20 (Bytes.ofLE (Bytes.span data 16 4)) data) := by
  rw [ExactUnencrypted]
  rcases unpackUnencryptedMessage_cases data out with ⟨⟨header, no_key⟩, run⟩ | ⟨refused, run⟩
  · have declared := toNat_declared (show 16 + 4 ≤ data.length by omega)
    have payload := unpackPayload_exact_iff (show (20 : UInt32).toNat ≤ data.length from header)
      (UInt32.ofNat (Bytes.ofLE (Bytes.span data 16 4)))
      { out with msgId := (UInt64.ofNat (Bytes.ofLE (Bytes.span data 8 8))).toInt64 }
    rw [declared] at payload
    rw [run]
    refine payload.trans (not_congr ?_)
    exact ⟨fun h => ⟨header, no_key, h⟩, fun h => h.2.2⟩
  · rw [run]
    refine iff_of_true ⟨_, _, rfl, nofun⟩ ?_
    rintro ⟨header, no_key, -⟩
    exact refused ⟨header, no_key⟩

/-- Once a plaintext is accepted, exactness is that of its payload. -/
lemma exactEncrypted_accepted {ssl : OpenSSL} {s : Session ssl} {data p out}
    (accepts : s.Accepts data p) (header : 32 ≤ p.length)
    (run : s.unpackEncryptedMessage data out = unpackPlaintext p out) :
    s.ExactEncrypted data out ↔ ¬ WrapsShort 32 (payloadLenOf p) p := by
  have declared : (UInt32.ofNat (payloadLenOf p)).toNat = payloadLenOf p :=
    toNat_declared (by omega)
  have payload := unpackPayload_exact_iff (show (32 : UInt32).toNat ≤ p.length from header)
    (UInt32.ofNat (payloadLenOf p)) { out with msgId := msgIdOf p, seqNo := seqNoOf p }
  rw [declared] at payload
  rw [ExactEncrypted, run, unpackPlaintext_eq header]
  refine Iff.trans ⟨?_, ?_⟩ payload
  · rintro ⟨ok, out', returned, copied⟩
    refine ⟨ok, out', returned, fun accepted => ?_⟩
    obtain ⟨q, accepts', there⟩ := copied accepted
    rwa [← accepts.unique accepts'] at there
  · rintro ⟨ok, out', returned, copied⟩
    exact ⟨ok, out', returned, fun accepted => ⟨p, accepts, copied accepted⟩⟩

/-- The condition for encrypted messages. -/
lemma exactEncrypted_iff {ssl : OpenSSL} {s : Session ssl} {data out} :
    s.ExactEncrypted data out ↔
      ¬ (s.Addressed data ∧ ∃ p, s.Accepts data p ∧ WrapsShort 32 (payloadLenOf p) p) := by
  rcases unpackEncryptedMessage_cases s data out with
    ⟨addressed, p, accepts, len, run⟩ | ⟨refused, run⟩
  · have size := addressed.size
    refine (exactEncrypted_accepted accepts (by omega) run).trans (not_congr ?_)
    refine ⟨fun h => ⟨addressed, p, accepts, h⟩, ?_⟩
    rintro ⟨-, q, accepts', h⟩
    rwa [accepts.unique accepts']
  · rw [ExactEncrypted, run]
    refine iff_of_true ⟨_, _, rfl, nofun⟩ ?_
    rintro ⟨addressed, p, accepts, -⟩
    exact refused ⟨addressed, p, accepts⟩

/-- The unencrypted envelope is opened exactly but for short packets whose length wraps, the
    encrypted one but for those that carry such a plaintext. -/
theorem exact_iff {ssl : OpenSSL} (s : Session ssl) (data : List UInt8) (out : MTProtoMessage) :
    (ExactUnencrypted data out ↔
      ¬ (20 ≤ data.length ∧ Bytes.ofLE (Bytes.span data 0 8) = 0 ∧
        WrapsShort 20 (Bytes.ofLE (Bytes.span data 16 4)) data)) ∧
    (s.ExactEncrypted data out ↔
      ¬ (s.Addressed data ∧ ∃ p, s.Accepts data p ∧ WrapsShort 32 (payloadLenOf p) p)) :=
  ⟨exactUnencrypted_iff, exactEncrypted_iff⟩

/-- A packet that ends with its header and declares a payload of `2 ^ 32 - 1` bytes. -/
theorem header_only_packet :
    ¬ ExactUnencrypted (List.replicate 16 0 ++ [255, 255, 255, 255]) {} ∧
    unpackUnencryptedMessage (List.replicate 16 0 ++ [255, 255, 255, 255]) {} =
      .error .outOfBounds := by
  have run : unpackUnencryptedMessage (List.replicate 16 0 ++ [255, 255, 255, 255]) {} =
      .error .outOfBounds := rfl
  refine ⟨?_, run⟩
  rw [ExactUnencrypted, run]
  rintro ⟨ok, out, returned, -⟩
  cases returned

end CppGram.Session
