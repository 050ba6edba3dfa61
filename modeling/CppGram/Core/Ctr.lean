import CppGram.Core.Crypto
import CppGram.Lib.StreamCipher

/-!
# Counter mode

`aes_ctr_encrypt` and `aes_ctr_decrypt` (C++ `crypto.cpp`). The keystream that OpenSSL derives from a
key and an iv is a parameter about which nothing is assumed. Each call makes a cipher context of its
own, so each call starts at position 0 of the keystream.
-/

namespace CppGram

/-- What is used of `EVP_aes_256_ctr`: the keystream of a key and an iv. -/
abbrev Keystream := Ige.Block UInt8 32 → AesBlock → Nat → UInt8

namespace CryptoUtils

variable (ctr : Keystream)

/-- What `EVP_EncryptUpdate` of a new context makes of the plaintext. -/
def aesCtr (key : Ige.Block UInt8 32) (iv : AesBlock) (plaintext : List UInt8) : List UInt8 :=
  StreamCipher.mask (ctr key iv) 0 plaintext

/-- `aes_ctr_encrypt`. -/
def aesCtrEncrypt (plaintext key iv : List UInt8) : Except Fault (List UInt8) :=
  if h : key.length ≠ 32 ∨ iv.length < 16 then
    .error (.invalidArgument "AES-256-CTR requires 32-byte key and at least 16-byte IV")
  else
    .ok (aesCtr ctr ⟨key, by omega⟩
      ⟨iv.take 16, List.length_take_of_le (by omega)⟩ plaintext)

/-- `aes_ctr_decrypt`. -/
def aesCtrDecrypt (ciphertext key iv : List UInt8) : Except Fault (List UInt8) :=
  aesCtrEncrypt ctr ciphertext key iv

variable {ctr}

/-- A key and an iv of the right sizes are not refused. -/
lemma aesCtrEncrypt_block {key : Ige.Block UInt8 32} {iv : AesBlock} {plaintext} :
    aesCtrEncrypt ctr plaintext key.toList iv.toList = .ok (aesCtr ctr key iv plaintext) := by
  have size : ¬ (key.toList.length ≠ 32 ∨ iv.toList.length < 16) := by
    rw [key.length_eq, iv.length_eq]
    decide
  have whole : iv.toList.take 16 = iv.toList := List.take_of_length_le iv.length_eq.le
  simp only [aesCtrEncrypt, dif_neg size, whole]

@[simp]
lemma aesCtr_length {key iv plaintext} :
    (aesCtr ctr key iv plaintext).length = plaintext.length :=
  StreamCipher.mask_length

end CryptoUtils

end CppGram
