import CppGram.Core.Machine
import CppGram.Lib.Ige

/-!
# Cryptographic functions

The part of `CryptoUtils` (C++ `crypto.cpp`) that the MTProto session rests on. What OpenSSL
computes is a parameter: `OpenSSL` has the two digests and the AES-256 block function in both
directions, about which nothing is assumed here; the chaining of the blocks, the key derivation and
the message key are the repository's own. `aesIgeDecrypt_encrypt` is what a session needs of the
cipher mode, for a block decryption that undoes the block encryption (`OpenSSL.Inverts`).
-/

namespace CppGram

/-- A block of sixteen bytes. -/
abbrev AesBlock := Ige.Block UInt8 16

/-- What is used of OpenSSL: `EVP_sha256`, `EVP_sha1`, and `EVP_aes_256_ecb` on one block. -/
structure OpenSSL where
  sha256 : List UInt8 → Ige.Block UInt8 32
  sha1 : List UInt8 → Ige.Block UInt8 20
  aesEncrypt : Ige.Block UInt8 32 → AesBlock → AesBlock
  aesDecrypt : Ige.Block UInt8 32 → AesBlock → AesBlock

/-- Under each key the block decryption undoes the block encryption. -/
def OpenSSL.Inverts (ssl : OpenSSL) : Prop :=
  ∀ key block, ssl.aesDecrypt key (ssl.aesEncrypt key block) = block

namespace CryptoUtils

variable (ssl : OpenSSL)

/-- SHA-256 of a text. -/
def computeSha256 (data : List UInt8) : List UInt8 := (ssl.sha256 data).toList

/-- SHA-1 of a text. -/
def computeSha1 (data : List UInt8) : List UInt8 := (ssl.sha1 data).toList

/-- `block_in[i] = a[i] ^ b[i]`. -/
def xorBlock (a b : AesBlock) : AesBlock := a.zipWith (· ^^^ ·) b

/-- `aes_ige_encrypt`. -/
def aesIgeEncrypt (plaintext key iv : List UInt8) : Except Fault (List UInt8) :=
  if h : key.length = 32 ∧ iv.length = 32 then
    if plaintext.length % 16 ≠ 0 then
      .error (.invalidArgument "Plaintext length must be a multiple of 16 bytes for AES-IGE")
    else
      let iv1 := Ige.block 16 iv
      let iv2 := Ige.block 16 (iv.drop 16)
      .ok (Ige.join (Ige.encrypt xorBlock (ssl.aesEncrypt ⟨key, h.1⟩) iv1 iv2
        (Ige.split 16 (plaintext.length / 16) plaintext)))
  else .error (.invalidArgument "AES-256-IGE requires 32-byte key and 32-byte IV")

/-- `aes_ige_decrypt`. -/
def aesIgeDecrypt (ciphertext key iv : List UInt8) : Except Fault (List UInt8) :=
  if h : key.length = 32 ∧ iv.length = 32 then
    if ciphertext.length % 16 ≠ 0 then
      .error (.invalidArgument "Ciphertext length must be a multiple of 16 bytes for AES-IGE")
    else
      let iv1 := Ige.block 16 iv
      let iv2 := Ige.block 16 (iv.drop 16)
      .ok (Ige.join (Ige.decrypt xorBlock (ssl.aesDecrypt ⟨key, h.1⟩) iv1 iv2
        (Ige.split 16 (ciphertext.length / 16) ciphertext)))
  else .error (.invalidArgument "AES-256-IGE requires 32-byte key and 32-byte IV")

/-- `kdf_mtproto2`: the key and the iv, `none` where the function returns `false`. -/
def kdfMtproto2 (authKey msgKey : List UInt8) (isClient : Bool) :
    Option (List UInt8 × List UInt8) :=
  if authKey.length ≠ 256 ∨ msgKey.length ≠ 16 then none
  else
    let x := if isClient then 0 else 8
    let a := computeSha256 ssl (msgKey ++ Bytes.span authKey x 36)
    let b := computeSha256 ssl (Bytes.span authKey (x + 40) 36 ++ msgKey)
    some
      (Bytes.span a 0 8 ++ Bytes.span b 8 16 ++ Bytes.span a 24 8,
        Bytes.span b 0 8 ++ Bytes.span a 8 16 ++ Bytes.span b 24 8)

/-- `compute_msg_key`. -/
def computeMsgKey (authKey plaintext : List UInt8) (isClient : Bool) :
    Except Fault (List UInt8) :=
  if authKey.length ≠ 256 then .error (.invalidArgument "AuthKey must be 256 bytes")
  else
    let offset := if isClient then 88 else 96
    let hash := computeSha256 ssl (Bytes.span authKey offset 32 ++ plaintext)
    .ok (Bytes.span hash 8 16)

/-- `generate_random_bytes`, from the bytes that are drawn. -/
def generateRandomBytes (draw : Nat → UInt8) (count : Nat) : List UInt8 :=
  (List.range count).map draw

/-- `compute_auth_key_id`. -/
def computeAuthKeyId (authKey : List UInt8) : UInt64 :=
  if authKey.length ≠ 256 then 0
  else
    let sha1Hash := computeSha1 ssl authKey
    (List.range 8).foldl
      (fun keyId i => keyId ||| ((sha1Hash.getD (12 + i) 0).toUInt64 <<< (i * 8).toUInt64)) 0

/-! ## Sizes -/

variable {ssl}

lemma computeSha256_length {data} : (computeSha256 ssl data).length = 32 :=
  (ssl.sha256 data).length_eq

/-- The pieces of two digests that are put together have 32 bytes. -/
lemma mixed_length {a b : List UInt8} (ha : a.length = 32) (hb : b.length = 32) :
    (Bytes.span a 0 8 ++ Bytes.span b 8 16 ++ Bytes.span a 24 8).length = 32 := by
  rw [List.length_append, List.length_append, Bytes.span_length (by omega),
    Bytes.span_length (by omega), Bytes.span_length (by omega)]

/-- Keys derived from a complete authorisation key fit the cipher. -/
lemma kdfMtproto2_some (ssl : OpenSSL) {authKey msgKey} (key : authKey.length = 256)
    (mac : msgKey.length = 16) (isClient : Bool) :
    ∃ aesKey aesIv, kdfMtproto2 ssl authKey msgKey isClient = some (aesKey, aesIv) ∧
      aesKey.length = 32 ∧ aesIv.length = 32 := by
  rw [kdfMtproto2, if_neg (by simp [key, mac])]
  exact ⟨_, _, rfl, mixed_length computeSha256_length computeSha256_length,
    mixed_length computeSha256_length computeSha256_length⟩

/-- With a key of 256 bytes the message key has 16 bytes. -/
lemma computeMsgKey_ok (ssl : OpenSSL) {authKey} (key : authKey.length = 256)
    (plaintext isClient) :
    ∃ msgKey, computeMsgKey ssl authKey plaintext isClient = .ok msgKey ∧ msgKey.length = 16 := by
  rw [computeMsgKey, if_neg (by simp [key])]
  exact ⟨_, rfl, Bytes.span_length (by rw [computeSha256_length]; decide)⟩

@[simp]
lemma generateRandomBytes_length {draw count} :
    (generateRandomBytes draw count).length = count := by
  rw [generateRandomBytes, List.length_map, List.length_range]

/-! ## The cipher mode -/

/-- A block added twice adds nothing. -/
lemma xorBlock_cancel (a b : AesBlock) : xorBlock (xorBlock a b) b = a := by
  apply Ige.Block.zipWith_cancel
  intro x y
  rw [UInt8.xor_assoc, UInt8.xor_self, UInt8.xor_zero]

/-- With the sizes that are asked for, encryption is that of the blocks. -/
lemma aesIgeEncrypt_join {data key iv} (key_size : key.length = 32) (iv_size : iv.length = 32)
    (whole : data.length % 16 = 0) :
    aesIgeEncrypt ssl data key iv = .ok (Ige.join (Ige.encrypt xorBlock
      (ssl.aesEncrypt ⟨key, key_size⟩) (Ige.block 16 iv) (Ige.block 16 (iv.drop 16))
      (Ige.split 16 (data.length / 16) data))) := by
  rw [aesIgeEncrypt, dif_pos ⟨key_size, iv_size⟩, if_neg (by simp [whole])]

/-- Likewise decryption. -/
lemma aesIgeDecrypt_join {data key iv} (key_size : key.length = 32) (iv_size : iv.length = 32)
    (whole : data.length % 16 = 0) :
    aesIgeDecrypt ssl data key iv = .ok (Ige.join (Ige.decrypt xorBlock
      (ssl.aesDecrypt ⟨key, key_size⟩) (Ige.block 16 iv) (Ige.block 16 (iv.drop 16))
      (Ige.split 16 (data.length / 16) data))) := by
  rw [aesIgeDecrypt, dif_pos ⟨key_size, iv_size⟩, if_neg (by simp [whole])]

/-- With key and vector of 32 bytes, whole blocks are decrypted to as many bytes. -/
lemma aesIgeDecrypt_ok (ssl : OpenSSL) {ciphertext key iv} (key_size : key.length = 32)
    (iv_size : iv.length = 32) (whole : ciphertext.length % 16 = 0) :
    ∃ plaintext, aesIgeDecrypt ssl ciphertext key iv = .ok plaintext ∧
      plaintext.length = ciphertext.length := by
  refine ⟨_, aesIgeDecrypt_join key_size iv_size whole, ?_⟩
  rw [Ige.join_length, Ige.decrypt_length, Ige.split_length]
  omega

/-- Whole blocks encrypt to as many bytes, which decrypt to the plaintext again. -/
lemma aesIgeDecrypt_encrypt {plaintext key iv} (inverts : ssl.Inverts) (key_size : key.length = 32)
    (iv_size : iv.length = 32) (whole : plaintext.length % 16 = 0) :
    ∃ ciphertext, aesIgeEncrypt ssl plaintext key iv = .ok ciphertext ∧
      ciphertext.length = plaintext.length ∧
      aesIgeDecrypt ssl ciphertext key iv = .ok plaintext := by
  obtain ⟨blocks, e⟩ : ∃ blocks, blocks = Ige.encrypt xorBlock (ssl.aesEncrypt ⟨key, key_size⟩)
    (Ige.block 16 iv) (Ige.block 16 (iv.drop 16))
    (Ige.split 16 (plaintext.length / 16) plaintext) := ⟨_, rfl⟩
  have count : blocks.length = plaintext.length / 16 := by
    rw [e, Ige.encrypt_length, Ige.split_length]
  have size : (Ige.join blocks).length = plaintext.length := by
    rw [Ige.join_length, count]
    omega
  have again : Ige.split 16 (plaintext.length / 16) (Ige.join blocks) = blocks := by
    rw [← count, Ige.split_join]
  refine ⟨Ige.join blocks, by rw [aesIgeEncrypt_join key_size iv_size whole, e], size, ?_⟩
  rw [aesIgeDecrypt_join key_size iv_size (by rw [size, whole]), size, again, e,
    Ige.decrypt_encrypt xorBlock_cancel (inverts _), Ige.join_split (by omega)]

end CryptoUtils

end CppGram
