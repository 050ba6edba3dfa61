import CppGram.Core.Crypto

/-!
# The MTProto session

`Session` (C++ `session.cpp`): identifiers, sequence numbers, and the two envelopes a message
travels in. A session is a value, so a method returns the session it leaves behind; what it takes
from outside (the reading of the system clock, the random bytes) is an argument. Out-parameters are
passed in with what they hold and returned with what they hold afterwards, in an `MTProtoMessage`.
Signed arithmetic wraps.
-/

namespace CppGram
open CryptoUtils

/-- C++ `struct MTProtoMessage`. -/
structure MTProtoMessage where
  msgId : Int64 := 0
  seqNo : Int32 := 0
  payload : List UInt8 := []
  deriving DecidableEq, Repr

/-- C++ `class Session`. The key id always belongs to the key: `set_auth_key` sets both. -/
structure Session (ssl : OpenSSL) where
  sessionId : UInt64
  serverSalt : UInt64 := 0
  authKey : List UInt8 := []
  authKeyId : UInt64 := 0
  contentSeqNo : Int32 := 0
  lastMsgId : Int64 := 0
  timeOffset : Int64 := 0
  keyed : authKeyId = computeAuthKeyId ssl authKey

namespace Session

variable {ssl : OpenSSL}

/-- `Session::Session(uint64_t)`. -/
def new (sessionId : UInt64) : Session ssl where
  sessionId
  keyed := (if_pos (by decide)).symm

/-- `Session::set_auth_key`. -/
def setAuthKey (s : Session ssl) (key : List UInt8) : Session ssl :=
  { s with
    authKey := key
    authKeyId := if key.length = 256 then computeAuthKeyId ssl key else 0
    keyed := by
      rw [computeAuthKeyId]
      by_cases size : key.length = 256
      · rw [if_pos size, if_neg (not_not.mpr size)]
      · rw [if_neg size, if_pos size] }

/-- `Session::set_server_salt`. -/
def setServerSalt (s : Session ssl) (salt : UInt64) : Session ssl := { s with serverSalt := salt }

/-- `Session::set_time_offset`. -/
def setTimeOffset (s : Session ssl) (offsetSeconds : Int64) : Session ssl :=
  { s with timeOffset := offsetSeconds }

/-! ## Identifiers -/

/-- The second that goes into an identifier. -/
def seconds (s : Session ssl) (epochMs : Int64) : Int64 := epochMs / 1000 + s.timeOffset

/-- The identifier the clock asks for, its two low bits cleared. -/
def clockMsgId (s : Session ssl) (epochMs : Int64) : Int64 :=
  let fraction := epochMs % 1000 * 4294967
  ((s.seconds epochMs <<< 32) ||| (fraction &&& 0xffffffff)) &&& ~~~3

/-- `Session::generate_msg_id`, at a reading of the clock. -/
def generateMsgId (s : Session ssl) (epochMs : Int64) : Int64 × Session ssl :=
  let msgId := s.clockMsgId epochMs
  -- the clock stands still or went back
  let msgId := if msgId ≤ s.lastMsgId then s.lastMsgId + 4 else msgId
  (msgId, { s with lastMsgId := msgId })

/-- `Session::generate_seq_no`. -/
def generateSeqNo (s : Session ssl) (isContentRelated : Bool) : Int32 × Session ssl :=
  if isContentRelated then
    (s.contentSeqNo * 2 + 1, { s with contentSeqNo := s.contentSeqNo + 1 })
  else (s.contentSeqNo * 2, s)

/-! ## Unencrypted messages -/

/-- `Session::pack_unencrypted_message`. -/
def packUnencryptedMessage (s : Session ssl) (payload : List UInt8) (epochMs : Int64) :
    List UInt8 × Session ssl :=
  let (msgId, s) := s.generateMsgId epochMs
  let payloadLen := payload.length.toUInt32
  (Bytes.toLE 8 0 ++ Bytes.toLE 8 msgId.toUInt64.toNat ++ Bytes.toLE 4 payloadLen.toNat ++ payload,
    s)

/-- The last check of both unpacking functions, in `uint32_t`, and the copy behind it. -/
def unpackPayload (headerLen : UInt32) (data : List UInt8) (payloadLen : UInt32)
    (out : MTProtoMessage) : Except Fault (Bool × MTProtoMessage) := do
  if data.length < (headerLen + payloadLen).toNat then return (false, out)
  let payload ← memcpy data headerLen.toNat payloadLen.toNat
  return (true, { out with payload })

/-- `Session::unpack_unencrypted_message`, which leaves `out_seq_no` alone. -/
def unpackUnencryptedMessage (data : List UInt8) (out : MTProtoMessage) :
    Except Fault (Bool × MTProtoMessage) := do
  if data.length < 20 then return (false, out)
  let authKeyId ← memcpy data 0 8
  if Bytes.ofLE authKeyId ≠ 0 then return (false, out)
  let msgId ← memcpy data 8 8
  let out := { out with msgId := (UInt64.ofNat (Bytes.ofLE msgId)).toInt64 }
  let payloadLen ← memcpy data 16 4
  unpackPayload 20 data (UInt32.ofNat (Bytes.ofLE payloadLen)) out

/-! ## Encrypted messages -/

/-- `pad_len` in `pack_encrypted_message`. -/
def padLen (innerLen : Nat) : Nat :=
  let padLen := 16 - innerLen % 16
  if padLen < 12 then padLen + 16 else padLen

/-- `plaintext` in `pack_encrypted_message`. -/
def innerPlaintext (s : Session ssl) (msgId : Int64) (seqNo : Int32) (payload : List UInt8)
    (draw : Nat → UInt8) : List UInt8 :=
  Bytes.toLE 8 s.serverSalt.toNat ++ Bytes.toLE 8 s.sessionId.toNat ++
    Bytes.toLE 8 msgId.toUInt64.toNat ++ Bytes.toLE 4 seqNo.toUInt32.toNat ++
    Bytes.toLE 4 payload.length.toUInt32.toNat ++ payload ++
    generateRandomBytes draw (padLen (32 + payload.length))

/-- The second half of `pack_encrypted_message`: the key id, the message key and the ciphertext.
    What `kdf_mtproto2` returns is not looked at there. -/
def encryptPlaintext (s : Session ssl) (plaintext : List UInt8) : Except Fault (List UInt8) := do
  let msgKey ← computeMsgKey ssl s.authKey plaintext true
  let (aesKey, aesIv) := (kdfMtproto2 ssl s.authKey msgKey true).getD ([], [])
  let ciphertext ← aesIgeEncrypt ssl plaintext aesKey aesIv
  return Bytes.toLE 8 s.authKeyId.toNat ++ msgKey ++ ciphertext

/-- The first half of `pack_encrypted_message`: what is going to be encrypted. -/
def compose (s : Session ssl) (payload : List UInt8) (isContentRelated : Bool)
    (draw : Nat → UInt8) (epochMs : Int64) : Except Fault (List UInt8) × Session ssl :=
  if s.authKey.length ≠ 256 then
    (.error (.runtimeError "AuthKey is not set or invalid for encrypted session"), s)
  else
    let (msgId, s) := s.generateMsgId epochMs
    let (seqNo, s) := s.generateSeqNo isContentRelated
    (.ok (s.innerPlaintext msgId seqNo payload draw), s)

/-- `Session::pack_encrypted_message`. -/
def packEncryptedMessage (s : Session ssl) (payload : List UInt8) (isContentRelated : Bool)
    (draw : Nat → UInt8) (epochMs : Int64) : Except Fault (List UInt8) × Session ssl :=
  let (inner, s) := s.compose payload isContentRelated draw epochMs
  (inner >>= s.encryptPlaintext, s)

/-- The loop of `unpack_encrypted_message` over the directions: `decrypted` and `plaintext`, which a
    failed attempt may have overwritten. -/
def decryptLoop (s : Session ssl) (msgKey ciphertext : List UInt8) :
    List Bool → List UInt8 → Bool × List UInt8
  | [], plaintext => (false, plaintext)
  | isClient :: directions, plaintext =>
    match kdfMtproto2 ssl s.authKey msgKey isClient with
    | none => s.decryptLoop msgKey ciphertext directions plaintext
    | some (aesKey, aesIv) =>
      match aesIgeDecrypt ssl ciphertext aesKey aesIv with
      -- `catch (...)`: the assignment to `plaintext` did not happen
      | .error _ => s.decryptLoop msgKey ciphertext directions plaintext
      -- from here on it did, and a later attempt or the end of the loop finds it so
      | .ok plaintext =>
        match computeMsgKey ssl s.authKey plaintext isClient with
        | .error _ => s.decryptLoop msgKey ciphertext directions plaintext
        | .ok expectedMsgKey =>
          if expectedMsgKey = msgKey then (true, plaintext)
          else s.decryptLoop msgKey ciphertext directions plaintext

/-- The end of `unpack_encrypted_message`: the fields of the plaintext. The salt and the session id
    are copied and not looked at. -/
def unpackPlaintext (plaintext : List UInt8) (out : MTProtoMessage) :
    Except Fault (Bool × MTProtoMessage) := do
  let _salt ← memcpy plaintext 0 8
  let _sessionId ← memcpy plaintext 8 8
  let msgId ← memcpy plaintext 16 8
  let out := { out with msgId := (UInt64.ofNat (Bytes.ofLE msgId)).toInt64 }
  let seqNo ← memcpy plaintext 24 4
  let out := { out with seqNo := (UInt32.ofNat (Bytes.ofLE seqNo)).toInt32 }
  let payloadLen ← memcpy plaintext 28 4
  unpackPayload 32 plaintext (UInt32.ofNat (Bytes.ofLE payloadLen)) out

/-- `Session::unpack_encrypted_message`. -/
def unpackEncryptedMessage (s : Session ssl) (data : List UInt8) (out : MTProtoMessage) :
    Except Fault (Bool × MTProtoMessage) := do
  if data.length < 24 + 32 ∨ s.authKey.length ≠ 256 then return (false, out)
  let keyId ← memcpy data 0 8
  if UInt64.ofNat (Bytes.ofLE keyId) ≠ s.authKeyId then return (false, out)
  let msgKey ← memcpy data 8 16
  let ciphertext ← memcpy data 24 (data.length - 24)
  if ciphertext.length % 16 ≠ 0 then return (false, out)
  let (decrypted, plaintext) := s.decryptLoop msgKey ciphertext [true, false] []
  if !decrypted ∨ plaintext.length < 32 then return (false, out)
  unpackPlaintext plaintext out

/-! ## Fields -/

/-- The message id in a plaintext. -/
def msgIdOf (plaintext : List UInt8) : Int64 :=
  (UInt64.ofNat (Bytes.ofLE (Bytes.span plaintext 16 8))).toInt64

/-- The sequence number in a plaintext. -/
def seqNoOf (plaintext : List UInt8) : Int32 :=
  (UInt32.ofNat (Bytes.ofLE (Bytes.span plaintext 24 4))).toInt32

/-- The declared payload length behind the sequence number. -/
def payloadLenOf (plaintext : List UInt8) : Nat := Bytes.ofLE (Bytes.span plaintext 28 4)

/-- A length field of four bytes holds what they spell. -/
lemma toNat_declared {data : List UInt8} {i} (inside : i + 4 ≤ data.length) :
    (UInt32.ofNat (Bytes.ofLE (Bytes.span data i 4))).toNat = Bytes.ofLE (Bytes.span data i 4) := by
  have lt := Bytes.ofLE_lt (Bytes.span data i 4)
  rw [Bytes.span_length inside] at lt
  exact UInt32.toNat_ofNat_of_lt' lt

/-- A payload that is all there is copied. -/
lemma unpackPayload_fits {headerLen payloadLen data out}
    (fits : headerLen.toNat + payloadLen.toNat ≤ data.length) :
    unpackPayload headerLen data payloadLen out =
      .ok (true, { out with payload := Bytes.span data headerLen.toNat payloadLen.toNat }) := by
  have sum : (headerLen + payloadLen).toNat ≤ headerLen.toNat + payloadLen.toNat := by
    rw [UInt32.toNat_add]
    exact Nat.mod_le _ _
  rw [unpackPayload, if_neg (by omega), memcpy_ok fits]
  rfl

/-- One that is not there is refused where the sum of the lengths fits in 32 bits. -/
lemma unpackPayload_short {headerLen payloadLen data out}
    (short : data.length < headerLen.toNat + payloadLen.toNat)
    (exact_sum : headerLen.toNat + payloadLen.toNat < 2 ^ 32) :
    unpackPayload headerLen data payloadLen out = .ok (false, out) := by
  have sum : (headerLen + payloadLen).toNat = headerLen.toNat + payloadLen.toNat := by
    rw [UInt32.toNat_add]
    exact Nat.mod_eq_of_lt exact_sum
  rw [unpackPayload, if_pos (by omega)]
  rfl

/-- Where the sum wraps, the check lets it pass and the copy leaves the buffer. -/
lemma unpackPayload_wraps {headerLen payloadLen data out}
    (header : headerLen.toNat ≤ data.length)
    (short : data.length < headerLen.toNat + payloadLen.toNat)
    (wraps : 2 ^ 32 ≤ headerLen.toNat + payloadLen.toNat) :
    unpackPayload headerLen data payloadLen out = .error .outOfBounds := by
  have lt := payloadLen.toNat_lt
  have sum : (headerLen + payloadLen).toNat < headerLen.toNat := by
    rw [UInt32.toNat_add]
    omega
  rw [unpackPayload, if_neg (by omega), memcpy_error short]
  rfl

/-- What becomes of a payload. -/
lemma unpackPayload_cases {headerLen : UInt32} {data : List UInt8}
    (header : headerLen.toNat ≤ data.length) (payloadLen out) :
    (headerLen.toNat + payloadLen.toNat ≤ data.length ∧
      unpackPayload headerLen data payloadLen out =
        .ok (true, { out with payload := Bytes.span data headerLen.toNat payloadLen.toNat })) ∨
    (data.length < headerLen.toNat + payloadLen.toNat ∧
      headerLen.toNat + payloadLen.toNat < 2 ^ 32 ∧
      unpackPayload headerLen data payloadLen out = .ok (false, out)) ∨
    (data.length < headerLen.toNat + payloadLen.toNat ∧
      2 ^ 32 ≤ headerLen.toNat + payloadLen.toNat ∧
      unpackPayload headerLen data payloadLen out = .error .outOfBounds) := by
  rcases Nat.lt_or_ge data.length (headerLen.toNat + payloadLen.toNat) with short | fits
  · rcases Nat.lt_or_ge (headerLen.toNat + payloadLen.toNat) (2 ^ 32) with exact_sum | wraps
    · exact .inr (.inl ⟨short, exact_sum, unpackPayload_short short exact_sum⟩)
    · exact .inr (.inr ⟨short, wraps, unpackPayload_wraps header short wraps⟩)
  · exact .inl ⟨fits, unpackPayload_fits fits⟩

/-- What is accepted is all there, and was copied, whatever the 32-bit sum was. -/
lemma unpackPayload_accepted {headerLen payloadLen data out out'}
    (header : headerLen.toNat ≤ data.length)
    (accepted : unpackPayload headerLen data payloadLen out = .ok (true, out')) :
    headerLen.toNat + payloadLen.toNat ≤ data.length ∧
      out' = { out with payload := Bytes.span data headerLen.toNat payloadLen.toNat } := by
  rcases unpackPayload_cases header payloadLen out with
    ⟨fits, run⟩ | ⟨-, -, run⟩ | ⟨-, -, run⟩
  · cases run.symm.trans accepted
    exact ⟨fits, rfl⟩
  · cases run.symm.trans accepted
  · cases run.symm.trans accepted

/-- The outputs are filled before the payload is looked at. -/
lemma unpackPlaintext_eq {plaintext out} (header : 32 ≤ plaintext.length) :
    unpackPlaintext plaintext out =
      unpackPayload 32 plaintext (UInt32.ofNat (payloadLenOf plaintext))
        { out with msgId := msgIdOf plaintext, seqNo := seqNoOf plaintext } := by
  rw [unpackPlaintext, memcpy_ok (by omega), memcpy_ok (by omega), memcpy_ok (by omega),
    memcpy_ok (by omega), memcpy_ok (by omega)]
  rfl

/-- The message id of an unencrypted message is put out before its payload is looked at. -/
lemma unpackUnencryptedMessage_eq {data out} (header : 20 ≤ data.length)
    (no_key : Bytes.ofLE (Bytes.span data 0 8) = 0) :
    unpackUnencryptedMessage data out =
      unpackPayload 20 data (UInt32.ofNat (Bytes.ofLE (Bytes.span data 16 4)))
        { out with msgId := (UInt64.ofNat (Bytes.ofLE (Bytes.span data 8 8))).toInt64 } := by
  rw [unpackUnencryptedMessage, if_neg (by omega), memcpy_ok (by omega), memcpy_ok (by omega),
    memcpy_ok (by omega)]
  exact if_neg (not_not.mpr no_key)

/-- A message that is too short or has a key id is refused, and the outputs stay. -/
lemma unpackUnencryptedMessage_refused {data out}
    (h : data.length < 20 ∨ Bytes.ofLE (Bytes.span data 0 8) ≠ 0) :
    unpackUnencryptedMessage data out = .ok (false, out) := by
  rw [unpackUnencryptedMessage]
  by_cases short : data.length < 20
  · rw [if_pos short]
    rfl
  · rw [if_neg short, memcpy_ok (by omega)]
    exact if_pos (h.resolve_left short)

/-- An unencrypted packet is refused for its header, or all depends on its payload. -/
lemma unpackUnencryptedMessage_cases (data : List UInt8) (out : MTProtoMessage) :
    ((20 ≤ data.length ∧ Bytes.ofLE (Bytes.span data 0 8) = 0) ∧
      unpackUnencryptedMessage data out =
        unpackPayload 20 data (UInt32.ofNat (Bytes.ofLE (Bytes.span data 16 4)))
          { out with msgId := (UInt64.ofNat (Bytes.ofLE (Bytes.span data 8 8))).toInt64 }) ∨
    (¬ (20 ≤ data.length ∧ Bytes.ofLE (Bytes.span data 0 8) = 0) ∧
      unpackUnencryptedMessage data out = .ok (false, out)) := by
  by_cases header : 20 ≤ data.length ∧ Bytes.ofLE (Bytes.span data 0 8) = 0
  · exact .inl ⟨header, unpackUnencryptedMessage_eq header.1 header.2⟩
  · refine .inr ⟨header, unpackUnencryptedMessage_refused ?_⟩
    rwa [not_and_or, not_le] at header

end Session

end CppGram
