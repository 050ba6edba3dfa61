import CppGram.Session.Basic

/-!
# What an encrypted packet must prove

`unpack_encrypted_message` tries the two directions in turn and swallows what goes wrong in an
attempt. `Accepts` says what that loop decides: which plaintext, if any, the key and the packet's
own message key vouch for, the client direction first. `unpackEncryptedMessage_cases` reduces the
whole function to it, for any digest and any cipher, and `unpackEncryptedMessage_authentic` is
soundness and completeness.
-/

namespace CppGram.Session
open CryptoUtils

variable {ssl : OpenSSL}

/-- The message key of a packet. -/
def msgKeyOf (data : List UInt8) : List UInt8 := Bytes.span data 8 16

/-- The packet can be meant for the session: it holds a key, and the packet has a header with the id
    of this key and whole blocks behind it. -/
structure Addressed (s : Session ssl) (data : List UInt8) : Prop where
  key : s.authKey.length = 256
  size : 56 ≤ data.length
  key_id : data.take 8 = Bytes.toLE 8 s.authKeyId.toNat
  whole : (data.length - 24) % 16 = 0

/-- The ciphertext decrypts to this under the keys of a direction. -/
def Decrypts (s : Session ssl) (data : List UInt8) (isClient : Bool) (plaintext : List UInt8) :
    Prop :=
  ∃ aesKey aesIv, kdfMtproto2 ssl s.authKey (msgKeyOf data) isClient = some (aesKey, aesIv) ∧
    aesIgeDecrypt ssl (data.drop 24) aesKey aesIv = .ok plaintext

/-- It does, and the message key computed from it is the transmitted one. -/
def Authentic (s : Session ssl) (data : List UInt8) (isClient : Bool) (plaintext : List UInt8) :
    Prop :=
  s.Decrypts data isClient plaintext ∧
    computeMsgKey ssl s.authKey plaintext isClient = .ok (msgKeyOf data)

/-- The plaintext of the first direction in which there is an authentic one. -/
def Accepts (s : Session ssl) (data plaintext : List UInt8) : Prop :=
  s.Authentic data true plaintext ∨
    (∀ other, ¬ s.Authentic data true other) ∧ s.Authentic data false plaintext

/-- In one direction a packet has one plaintext. -/
lemma Decrypts.unique {s : Session ssl} {data isClient p q} (h : s.Decrypts data isClient p)
    (h' : s.Decrypts data isClient q) : p = q := by
  obtain ⟨key, iv, keys, dec⟩ := h
  obtain ⟨key', iv', keys', dec'⟩ := h'
  rw [keys] at keys'
  cases keys'
  rw [dec] at dec'
  exact Except.ok.inj dec'

/-- A packet is accepted with one plaintext. -/
lemma Accepts.unique {s : Session ssl} {data p q} (h : s.Accepts data p) (h' : s.Accepts data q) :
    p = q := by
  rcases h with first | ⟨none_first, second⟩ <;> rcases h' with first' | ⟨none_first', second'⟩
  · exact first.1.unique first'.1
  · exact absurd first (none_first' p)
  · exact absurd first' (none_first q)
  · exact second.1.unique second'.1

/-- A packet for the session decrypts in each direction, to as many bytes. -/
lemma Addressed.decrypts {s : Session ssl} {data} (h : s.Addressed data) (isClient : Bool) :
    ∃ p, s.Decrypts data isClient p ∧ p.length = data.length - 24 := by
  have size := h.size
  have mac : (msgKeyOf data).length = 16 := Bytes.span_length (by omega)
  obtain ⟨key, iv, keys, key_size, iv_size⟩ := kdfMtproto2_some ssl h.key mac isClient
  have whole : (data.drop 24).length % 16 = 0 := by
    rw [List.length_drop]
    exact h.whole
  obtain ⟨p, dec, len⟩ := aesIgeDecrypt_ok ssl key_size iv_size whole
  rw [List.length_drop] at len
  exact ⟨p, ⟨key, iv, keys, dec⟩, len⟩

/-- A direction that is authentic ends the loop with its plaintext, whatever the one before left. -/
lemma decryptLoop_authentic {s : Session ssl} {data isClient directions p before}
    (h : s.Authentic data isClient p) :
    s.decryptLoop (msgKeyOf data) (data.drop 24) (isClient :: directions) before = (true, p) := by
  obtain ⟨⟨key, iv, keys, dec⟩, mac⟩ := h
  simp only [decryptLoop, keys, dec, mac, if_true]

/-- Any other attempt is forgotten but for the plaintext it leaves behind. -/
lemma decryptLoop_failed {s : Session ssl} {data isClient directions p before}
    (key_size : s.authKey.length = 256) (decrypts : s.Decrypts data isClient p)
    (failed : ¬ s.Authentic data isClient p) :
    s.decryptLoop (msgKeyOf data) (data.drop 24) (isClient :: directions) before =
      s.decryptLoop (msgKeyOf data) (data.drop 24) directions p := by
  obtain ⟨key, iv, keys, dec⟩ := decrypts
  obtain ⟨expected, mac, -⟩ := computeMsgKey_ok ssl key_size p isClient
  have differ : expected ≠ msgKeyOf data := by
    rintro rfl
    exact failed ⟨⟨key, iv, keys, dec⟩, mac⟩
  simp only [decryptLoop, keys, dec, mac, if_neg differ]

/-- The loop decides what is accepted. -/
lemma decryptLoop_accepts {s : Session ssl} {data} (h : s.Addressed data) :
    (∃ p, s.Accepts data p ∧ p.length = data.length - 24 ∧
      s.decryptLoop (msgKeyOf data) (data.drop 24) [true, false] [] = (true, p)) ∨
    ((∀ p, ¬ s.Accepts data p) ∧
      (s.decryptLoop (msgKeyOf data) (data.drop 24) [true, false] []).1 = false) := by
  obtain ⟨p, client, len⟩ := h.decrypts true
  obtain ⟨q, server, len'⟩ := h.decrypts false
  -- the client direction, and after it the server direction with what the first one left behind
  by_cases first : s.Authentic data true p
  · exact .inl ⟨p, .inl first, len, decryptLoop_authentic first⟩
  · have none_first : ∀ other, ¬ s.Authentic data true other := by
      intro other auth
      rw [auth.1.unique client] at auth
      exact first auth
    rw [decryptLoop_failed h.key client first]
    by_cases second : s.Authentic data false q
    · exact .inl ⟨q, .inr ⟨none_first, second⟩, len', decryptLoop_authentic second⟩
    · rw [decryptLoop_failed h.key server second]
      refine .inr ⟨?_, rfl⟩
      rintro other (auth | ⟨-, auth⟩)
      · exact none_first other auth
      · rw [auth.1.unique server] at auth
        exact second auth

/-- The number in front is the key id exactly if its bytes are. -/
lemma keyId_eq_iff {s : Session ssl} {data : List UInt8} (size : 8 ≤ data.length) :
    UInt64.ofNat (Bytes.ofLE (Bytes.span data 0 8)) = s.authKeyId ↔
      data.take 8 = Bytes.toLE 8 s.authKeyId.toNat := by
  have len : (data.take 8).length = 8 := by
    rw [List.length_take]
    omega
  have front : Bytes.span data 0 8 = data.take 8 := rfl
  have lt := Bytes.ofLE_lt (data.take 8)
  rw [len] at lt
  rw [front, ← UInt64.toNat_inj]
  have value : (UInt64.ofNat (Bytes.ofLE (data.take 8))).toNat = Bytes.ofLE (data.take 8) :=
    UInt64.toNat_ofNat_of_lt' lt
  rw [value]
  constructor
  · intro e
    rw [← e, Bytes.toLE_ofLE_of_length len]
  · intro e
    rw [e]
    exact Bytes.ofLE_toLE_of_lt s.authKeyId.toNat_lt

lemma span_rest {data : List UInt8} {i} : Bytes.span data i (data.length - i) = data.drop i := by
  rw [Bytes.span, ← List.length_drop, List.take_length]

/-- A packet that is addressed to the session is decrypted and unpacked. -/
lemma unpackEncryptedMessage_addressed {s : Session ssl} {data out} (h : s.Addressed data) :
    s.unpackEncryptedMessage data out =
      let (decrypted, plaintext) :=
        s.decryptLoop (msgKeyOf data) (data.drop 24) [true, false] []
      if !decrypted ∨ plaintext.length < 32 then .ok (false, out)
      else unpackPlaintext plaintext out := by
  have size := h.size
  have ready : ¬ (data.length < 24 + 32 ∨ s.authKey.length ≠ 256) :=
    not_or.mpr ⟨by omega, not_not.mpr h.key⟩
  have same_id := (keyId_eq_iff (s := s) (by omega)).mpr h.key_id
  have whole : ¬ (data.drop 24).length % 16 ≠ 0 := by
    rw [List.length_drop]
    exact not_not.mpr h.whole
  rw [unpackEncryptedMessage, if_neg ready, memcpy_ok (by omega), memcpy_ok (by omega),
    memcpy_ok (by omega), span_rest]
  change (if _ then _ else _) = _
  rw [if_neg (not_not.mpr same_id)]
  change (if _ then _ else _) = _
  rw [if_neg whole]
  rfl

/-- Any other packet is refused, and the outputs stay. -/
lemma unpackEncryptedMessage_not_addressed {s : Session ssl} {data out} (h : ¬ s.Addressed data) :
    s.unpackEncryptedMessage data out = .ok (false, out) := by
  by_cases ready : data.length < 24 + 32 ∨ s.authKey.length ≠ 256
  · rw [unpackEncryptedMessage, if_pos ready]
    rfl
  obtain ⟨long, key⟩ := not_or.mp ready
  rw [unpackEncryptedMessage, if_neg ready, memcpy_ok (by omega), memcpy_ok (by omega),
    memcpy_ok (by omega), span_rest]
  change (if _ then _ else _) = _
  by_cases other_id : UInt64.ofNat (Bytes.ofLE (Bytes.span data 0 8)) ≠ s.authKeyId
  · rw [if_pos other_id]
    rfl
  rw [if_neg other_id]
  change (if _ then _ else _) = _
  by_cases torn : (data.drop 24).length % 16 ≠ 0
  · rw [if_pos torn]
    rfl
  · rw [List.length_drop, not_not] at torn
    have id := (keyId_eq_iff (s := s) (by omega)).mp (not_not.mp other_id)
    exact absurd ⟨not_not.mp key, by omega, id, torn⟩ h

/-- A packet is accepted, and its plaintext taken apart, or refused as it stands. -/
lemma unpackEncryptedMessage_cases (s : Session ssl) (data out) :
    (s.Addressed data ∧ ∃ p, s.Accepts data p ∧ p.length = data.length - 24 ∧
      s.unpackEncryptedMessage data out = unpackPlaintext p out) ∨
    (¬ (s.Addressed data ∧ ∃ p, s.Accepts data p)) ∧
      s.unpackEncryptedMessage data out = .ok (false, out) := by
  by_cases addressed : s.Addressed data
  · have size := addressed.size
    rw [unpackEncryptedMessage_addressed addressed]
    rcases decryptLoop_accepts addressed with ⟨p, accepts, len, run⟩ | ⟨none_accepted, run⟩
    · refine .inl ⟨addressed, p, accepts, len, ?_⟩
      simp only [run, Bool.not_true, Bool.false_eq_true, false_or]
      exact if_neg (by omega)
    · refine .inr ⟨fun h => ?_, ?_⟩
      · obtain ⟨-, p, accepts⟩ := h
        exact none_accepted p accepts
      · simp only [run, Bool.not_false, true_or, if_true]
  · exact .inr ⟨fun h => addressed h.1, unpackEncryptedMessage_not_addressed addressed⟩

/-- An accepted packet that holds the payload it declares is unpacked. -/
lemma unpackEncryptedMessage_accepted {s : Session ssl} {data p} (addressed : s.Addressed data)
    (accepts : s.Accepts data p) (fits : 32 + payloadLenOf p ≤ p.length) (out : MTProtoMessage) :
    s.unpackEncryptedMessage data out =
      .ok (true, ⟨msgIdOf p, seqNoOf p, Bytes.span p 32 (payloadLenOf p)⟩) := by
  have declared : (UInt32.ofNat (payloadLenOf p)).toNat = payloadLenOf p :=
    toNat_declared (by omega)
  rcases unpackEncryptedMessage_cases s data out with
    ⟨-, q, accepts', -, run⟩ | ⟨refused, -⟩
  · cases accepts.unique accepts'
    have there : (32 : UInt32).toNat + (UInt32.ofNat (payloadLenOf p)).toNat ≤ p.length := by
      rw [declared]
      exact fits
    rw [run, unpackPlaintext_eq (by omega), unpackPayload_fits there, declared]
    rfl
  · exact absurd ⟨addressed, p, accepts⟩ refused

/-- Only authenticated packets are accepted, with the fields of the plaintext that the first
    authentic direction has; and all of them are, if the payload they declare is there. -/
theorem unpackEncryptedMessage_authentic (s : Session ssl) (data : List UInt8)
    (out : MTProtoMessage) :
    (∀ out', s.unpackEncryptedMessage data out = .ok (true, out') →
      s.Addressed data ∧
      ∃ p, s.Accepts data p ∧ out'.msgId = msgIdOf p ∧ out'.seqNo = seqNoOf p) ∧
    (∀ p, s.Addressed data → s.Accepts data p → 32 + payloadLenOf p ≤ p.length →
      s.unpackEncryptedMessage data out =
        .ok (true, ⟨msgIdOf p, seqNoOf p, Bytes.span p 32 (payloadLenOf p)⟩)) := by
  refine ⟨?_, fun p addressed accepts fits =>
    unpackEncryptedMessage_accepted addressed accepts fits out⟩
  intro out' accepted
  rcases unpackEncryptedMessage_cases s data out with
    ⟨addressed, p, accepts, len, run⟩ | ⟨refused, run⟩
  · have size := addressed.size
    have header : (32 : UInt32).toNat ≤ p.length := by
      rw [len]
      exact Nat.le_sub_of_add_le size
    rw [run, unpackPlaintext_eq header] at accepted
    obtain ⟨-, rfl⟩ := unpackPayload_accepted header accepted
    exact ⟨addressed, p, accepts, rfl, rfl⟩
  · rw [run] at accepted
    cases accepted

end CppGram.Session
