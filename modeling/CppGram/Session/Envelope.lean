import CppGram.Core.Reference
import CppGram.Session.Authentication

/-!
# The envelope round trip

What one session packs, any session with the same authorisation key unpacks: to the identifier and
the sequence number that went in and to the payload. `envelope_round_trip` proves it for both
envelopes, every payload whose length fits and every padding that may be drawn, with the digests
arbitrary and a block decryption that undoes the block encryption.
-/

namespace CppGram.Session
open CryptoUtils

variable {ssl : OpenSSL}

/-- The padding fills the last block and is at least 12 bytes long. -/
lemma padLen_spec (innerLen) :
    12 ≤ padLen innerLen ∧ padLen innerLen ≤ 27 ∧ (innerLen + padLen innerLen) % 16 = 0 := by
  rw [padLen]
  split <;> omega

/-- A plaintext is header, payload and padding. -/
lemma innerPlaintext_length (s : Session ssl) (msgId seqNo payload draw) :
    (s.innerPlaintext msgId seqNo payload draw).length =
      32 + payload.length + padLen (32 + payload.length) := by
  simp only [innerPlaintext, List.length_append, Bytes.toLE_length, generateRandomBytes_length]

/-- The message id is read back. -/
lemma msgIdOf_innerPlaintext {s : Session ssl} {msgId seqNo payload draw} :
    msgIdOf (s.innerPlaintext msgId seqNo payload draw) = msgId := by
  have at_16 : Bytes.span (s.innerPlaintext msgId seqNo payload draw) 16 8 =
      Bytes.toLE 8 msgId.toUInt64.toNat := by
    simp only [innerPlaintext, List.append_assoc]
    rw [← List.append_assoc]
    exact Bytes.span_middle (by simp) (by simp)
  rw [msgIdOf, at_16, Bytes.ofLE_toLE_of_lt msgId.toUInt64.toNat_lt, UInt64.ofNat_toNat]
  rfl

/-- The sequence number is read back. -/
lemma seqNoOf_innerPlaintext {s : Session ssl} {msgId seqNo payload draw} :
    seqNoOf (s.innerPlaintext msgId seqNo payload draw) = seqNo := by
  have at_24 : Bytes.span (s.innerPlaintext msgId seqNo payload draw) 24 4 =
      Bytes.toLE 4 seqNo.toUInt32.toNat := by
    simp only [innerPlaintext, List.append_assoc]
    rw [← List.append_assoc, ← List.append_assoc]
    exact Bytes.span_middle (by simp) (by simp)
  rw [seqNoOf, at_24, Bytes.ofLE_toLE_of_lt seqNo.toUInt32.toNat_lt, UInt32.ofNat_toNat]
  rfl

/-- The length of the payload is read back. -/
lemma payloadLenOf_innerPlaintext (s : Session ssl) (msgId seqNo) {payload}
    (fits : payload.length < 2 ^ 32) (draw) :
    payloadLenOf (s.innerPlaintext msgId seqNo payload draw) = payload.length := by
  have value : payload.length.toUInt32.toNat = payload.length := UInt32.toNat_ofNat_of_lt' fits
  have at_28 : Bytes.span (s.innerPlaintext msgId seqNo payload draw) 28 4 =
      Bytes.toLE 4 payload.length := by
    simp only [innerPlaintext, List.append_assoc, value]
    rw [← List.append_assoc, ← List.append_assoc, ← List.append_assoc]
    exact Bytes.span_middle (by simp) (by simp)
  rw [payloadLenOf, at_28, Bytes.ofLE_toLE_of_lt fits]

/-- The payload is read back. -/
lemma payload_innerPlaintext {s : Session ssl} {msgId seqNo payload draw} :
    Bytes.span (s.innerPlaintext msgId seqNo payload draw) 32 payload.length = payload := by
  simp only [innerPlaintext]
  rw [List.append_assoc _ payload]
  exact Bytes.span_middle (by simp) rfl

/-- What is encrypted under a complete key is an accepted packet for every session that holds the
    key. -/
lemma encryptPlaintext_accepts {s : Session ssl} {plaintext} (inverts : ssl.Inverts)
    (key : s.authKey.length = 256) (header : 32 ≤ plaintext.length)
    (whole : plaintext.length % 16 = 0) :
    ∃ packet, s.encryptPlaintext plaintext = .ok packet ∧
      (packet.drop 24).length = plaintext.length ∧
      ∀ receiver : Session ssl, receiver.authKey = s.authKey →
        receiver.Addressed packet ∧ receiver.Accepts packet plaintext := by
  obtain ⟨msgKey, mac, mac_size⟩ := computeMsgKey_ok ssl key plaintext true
  obtain ⟨aesKey, aesIv, keys, key_size, iv_size⟩ := kdfMtproto2_some ssl key mac_size true
  obtain ⟨ciphertext, enc, len, dec⟩ := aesIgeDecrypt_encrypt inverts key_size iv_size whole
  have id_size : (Bytes.toLE 8 s.authKeyId.toNat).length = 8 := Bytes.toLE_length
  have front_size : (Bytes.toLE 8 s.authKeyId.toNat ++ msgKey).length = 24 := by
    rw [List.length_append, id_size, mac_size]
  refine ⟨Bytes.toLE 8 s.authKeyId.toNat ++ msgKey ++ ciphertext, ?_, ?_, ?_⟩
  · simp only [encryptPlaintext, mac, bind, Except.bind, keys, Option.getD_some, enc]
    rfl
  · rw [List.drop_left' front_size, len]
  · intro receiver same_key
    have same_id : receiver.authKeyId = s.authKeyId := by
      rw [receiver.keyed, s.keyed, same_key]
    have middle : msgKeyOf (Bytes.toLE 8 s.authKeyId.toNat ++ msgKey ++ ciphertext) = msgKey := by
      rw [msgKeyOf, List.append_assoc]
      exact Bytes.span_middle id_size.symm mac_size.symm
    -- packets are made in the client direction, which the receiver tries first
    refine ⟨⟨same_key ▸ key, ?_, ?_, ?_⟩, .inl ⟨⟨aesKey, aesIv, ?_, ?_⟩, ?_⟩⟩
    · rw [List.length_append, front_size, len]
      omega
    · rw [List.append_assoc, List.take_left' id_size, same_id]
    · rw [List.length_append, front_size, len, Nat.add_sub_cancel_left]
      exact whole
    · rw [middle, same_key, keys]
    · rw [List.drop_left' front_size, dec]
    · rw [middle, same_key, mac]

/-- With a key, a plaintext is composed with the next message id and the next sequence number. -/
lemma compose_key {s : Session ssl} (key : s.authKey.length = 256)
    (payload isContentRelated draw epochMs) :
    s.compose payload isContentRelated draw epochMs =
      (.ok (((s.generateMsgId epochMs).2.generateSeqNo isContentRelated).2.innerPlaintext
          (s.generateMsgId epochMs).1 (s.generateSeqNo isContentRelated).1 payload draw),
        ((s.generateMsgId epochMs).2.generateSeqNo isContentRelated).2) := by
  rw [compose, if_neg (not_not.mpr key)]
  cases isContentRelated with
  | false | true => rfl

/-- Drawing numbers changes no key. -/
lemma authKey_drawn (s : Session ssl) (isContentRelated epochMs) :
    ((s.generateMsgId epochMs).2.generateSeqNo isContentRelated).2.authKey = s.authKey := by
  cases isContentRelated with
  | false | true => rfl

/-- The unencrypted envelope, whose length field does not wrap. -/
lemma unpack_packUnencryptedMessage {s : Session ssl} {payload epochMs out}
    (fits : payload.length < 2 ^ 32) :
    unpackUnencryptedMessage (s.packUnencryptedMessage payload epochMs).1 out =
      .ok (true, { out with msgId := (s.generateMsgId epochMs).1, payload := payload }) := by
  have value : payload.length.toUInt32.toNat = payload.length := UInt32.toNat_ofNat_of_lt' fits
  have packed : (s.packUnencryptedMessage payload epochMs).1 =
      Bytes.toLE 8 0 ++ (Bytes.toLE 8 (s.generateMsgId epochMs).1.toUInt64.toNat ++
        (Bytes.toLE 4 payload.length ++ (payload ++ []))) := by
    simp only [packUnencryptedMessage, value, List.append_assoc, List.append_nil]
  generalize (s.generateMsgId epochMs).1 = msgId at packed ⊢
  generalize (s.packUnencryptedMessage payload epochMs).1 = packet at packed ⊢
  have len : packet.length = 20 + payload.length := by
    simp only [packed, List.length_append, Bytes.toLE_length, List.length_nil]
    omega
  have at_0 : Bytes.span packet 0 8 = Bytes.toLE 8 0 := by
    rw [packed]
    exact List.take_left' Bytes.toLE_length
  have at_8 : Bytes.span packet 8 8 = Bytes.toLE 8 msgId.toUInt64.toNat := by
    rw [packed]
    exact Bytes.span_middle Bytes.toLE_length.symm Bytes.toLE_length.symm
  have at_16 : Bytes.span packet 16 4 = Bytes.toLE 4 payload.length := by
    rw [packed, ← List.append_assoc]
    exact Bytes.span_middle (by simp) Bytes.toLE_length.symm
  have at_20 : Bytes.span packet 20 payload.length = payload := by
    rw [packed, ← List.append_assoc, ← List.append_assoc]
    exact Bytes.span_middle (by simp) rfl
  have declared : (UInt32.ofNat payload.length).toNat = payload.length := value
  have there : (20 : UInt32).toNat + (UInt32.ofNat payload.length).toNat ≤ packet.length := by
    rw [declared, len]
    exact Nat.le_refl _
  rw [unpackUnencryptedMessage_eq (by omega) (by rw [at_0]; rfl), at_8, at_16,
    Bytes.ofLE_toLE_of_lt fits, unpackPayload_fits there, declared,
    Bytes.ofLE_toLE_of_lt msgId.toUInt64.toNat_lt, UInt64.ofNat_toNat]
  change Except.ok (true, { out with msgId := msgId, payload := Bytes.span packet 20 _ }) = _
  rw [at_20]

/-- The encrypted envelope: its size, and that every session with the key opens it. -/
lemma unpack_packEncryptedMessage {s : Session ssl} {payload} (inverts : ssl.Inverts)
    (key : s.authKey.length = 256) (fits : payload.length < 2 ^ 32)
    (isContentRelated draw epochMs) :
    ∃ packet, (s.packEncryptedMessage payload isContentRelated draw epochMs).1 = .ok packet ∧
      (packet.drop 24).length = 32 + payload.length + padLen (32 + payload.length) ∧
      ∀ (receiver : Session ssl) (out : MTProtoMessage), receiver.authKey = s.authKey →
        receiver.unpackEncryptedMessage packet out =
          .ok (true, ⟨(s.generateMsgId epochMs).1, (s.generateSeqNo isContentRelated).1,
            payload⟩) := by
  have same_key := authKey_drawn s isContentRelated epochMs
  have composed := compose_key key payload isContentRelated draw epochMs
  -- the fields that were drawn belong to `s`, the salt and the session id to `s'`
  generalize ((s.generateMsgId epochMs).2.generateSeqNo isContentRelated).2 = s'
    at same_key composed
  obtain ⟨-, -, whole⟩ := padLen_spec (32 + payload.length)
  have len := innerPlaintext_length s' (s.generateMsgId epochMs).1
    (s.generateSeqNo isContentRelated).1 payload draw
  obtain ⟨packet, packed, ct_len, accepted⟩ := encryptPlaintext_accepts (s := s') inverts
    (same_key ▸ key) (by rw [len]; omega) (by rw [len]; exact whole)
  refine ⟨packet, ?_, ct_len.trans len, ?_⟩
  · rw [packEncryptedMessage, composed]
    exact packed
  · intro receiver out same
    obtain ⟨addressed, accepts⟩ := accepted receiver (same.trans same_key.symm)
    have declared := payloadLenOf_innerPlaintext s' (s.generateMsgId epochMs).1
      (s.generateSeqNo isContentRelated).1 fits draw
    rw [unpackEncryptedMessage_accepted addressed accepts (by rw [declared, len]; omega),
      declared, msgIdOf_innerPlaintext, seqNoOf_innerPlaintext, payload_innerPlaintext]

/-- The envelope round trip, for encrypted and for unencrypted messages. -/
theorem envelope_round_trip (inverts : ssl.Inverts) (s : Session ssl)
    (key : s.authKey.length = 256) (payload : List UInt8) (fits : payload.length < 2 ^ 32 - 32)
    (isContentRelated : Bool) (draw : Nat → UInt8) (epochMs : Int64) :
    (∃ packet pad, (s.packEncryptedMessage payload isContentRelated draw epochMs).1 = .ok packet ∧
      12 ≤ pad ∧ pad ≤ 27 ∧ (packet.drop 24).length = 32 + payload.length + pad ∧
      0 < (packet.drop 24).length ∧ 16 ∣ (packet.drop 24).length ∧
      ∀ (receiver : Session ssl) (out : MTProtoMessage), receiver.authKey = s.authKey →
        receiver.unpackEncryptedMessage packet out =
          .ok (true, ⟨(s.generateMsgId epochMs).1, (s.generateSeqNo isContentRelated).1,
            payload⟩)) ∧
    (∀ out : MTProtoMessage,
      unpackUnencryptedMessage (s.packUnencryptedMessage payload epochMs).1 out =
        .ok (true, { out with msgId := (s.generateMsgId epochMs).1, payload := payload })) := by
  refine ⟨?_, fun out => unpack_packUnencryptedMessage (by omega)⟩
  obtain ⟨packet, packed, len, unpacked⟩ := unpack_packEncryptedMessage inverts key
    (by omega : payload.length < 2 ^ 32) isContentRelated draw epochMs
  obtain ⟨pad_ge, pad_le, whole⟩ := padLen_spec (32 + payload.length)
  exact ⟨packet, _, packed, pad_ge, pad_le, len, by omega, by omega, unpacked⟩

/-- A session with a complete key, over the real functions. -/
def sender : Session reference :=
  ((new 0xAAAAAAAA11112222).setAuthKey
    ((List.range 256).map fun i => (i * 7 + 13).toUInt8)).setServerSalt 0xBBBBBBBB33334444

/-- Another session with the same key reads `ping`. -/
theorem envelope_round_trip_ping :
    ∃ packet, (sender.packEncryptedMessage [0x70, 0x69, 0x6e, 0x67] true (fun _ => 0)
        1700000000123).1 = .ok packet ∧
      ((new 7 : Session reference).setAuthKey sender.authKey).unpackEncryptedMessage packet {} =
        .ok (true, ⟨7301444403728280940, 1, [0x70, 0x69, 0x6e, 0x67]⟩) := by
  have key : sender.authKey.length = 256 := by
    simp [sender, setServerSalt, setAuthKey]
  obtain ⟨⟨packet, -, packed, -, -, -, -, -, unpacked⟩, -⟩ := envelope_round_trip reference_inverts
    sender key [0x70, 0x69, 0x6e, 0x67] (by decide) true (fun _ => 0) 1700000000123
  have id : (sender.generateMsgId 1700000000123).1 = 7301444403728280940 := by decide
  refine ⟨packet, packed, ?_⟩
  rw [unpacked ((new 7).setAuthKey sender.authKey) {} rfl, id]
  rfl

end CppGram.Session
