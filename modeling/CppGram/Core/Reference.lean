import CppGram.Core.Ctr
import CppGram.Lib.Aes
import CppGram.Lib.Sha

/-!
# The real functions

`reference` is the `OpenSSL` of the standards: SHA-256, SHA-1 and AES-256. It shows that what
sessions assume of the library is met by what the library computes. `referenceCtr` is the keystream
of AES-256 in counter mode.
-/

namespace CppGram

/-- `EVP_sha256`, `EVP_sha1` and `EVP_aes_256_ecb`. -/
def reference : OpenSSL where
  sha256 data := ⟨Sha.sha256 data, Sha.sha256_length data⟩
  sha1 data := ⟨Sha.sha1 data, Sha.sha1_length data⟩
  aesEncrypt key block := ⟨Aes.encrypt key.toList block.toList, Aes.encrypt_length block.length_eq⟩
  aesDecrypt key block := ⟨Aes.decrypt key.toList block.toList, Aes.decrypt_length block.length_eq⟩

/-- AES is a permutation of the blocks under each key. -/
lemma reference_inverts : reference.Inverts := fun _ block =>
  Ige.Block.ext (Aes.decrypt_encrypt block.length_eq)

/-- `EVP_aes_256_ctr`: the iv is the first value of a big-endian block counter. -/
def referenceCtr : Keystream := fun key iv i =>
  let counter := Bytes.ofLE iv.toList.reverse + i / 16
  (Aes.encrypt key.toList (Bytes.toLE 16 counter).reverse).getD (i % 16) 0

end CppGram
