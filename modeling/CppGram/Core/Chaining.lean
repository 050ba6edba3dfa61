import CppGram.Core.Reference
import Mathlib.Data.FinEnum

/-!
# AES-IGE in both directions

`aes_ige_encrypt` and `aes_ige_decrypt` undo each other, and each ciphertext block is the one the
mode prescribes. Of the block cipher it is assumed that decryption undoes encryption
(`OpenSSL.Inverts`); there are finitely many blocks, so that encryption undoes decryption as well.
-/

namespace CppGram

/-- Under each key the block encryption undoes the block decryption. -/
lemma OpenSSL.Inverts.encrypt_decrypt {ssl : OpenSSL} (inverts : ssl.Inverts) (key block) :
    ssl.aesEncrypt key (ssl.aesDecrypt key block) = block := by
  have left : Function.LeftInverse (ssl.aesDecrypt key) (ssl.aesEncrypt key) := inverts key
  have onto : Function.Surjective (ssl.aesEncrypt key) :=
    Finite.surjective_of_injective left.injective
  exact left.rightInverse_of_surjective onto block

namespace CryptoUtils

/-- The sizes both directions ask for: a 32-byte key, a 32-byte iv and whole blocks. -/
def Sized (data key iv : List UInt8) : Prop :=
  key.length = 32 ∧ iv.length = 32 ∧ data.length % 16 = 0

/-- `iv1` behind the blocks of the ciphertext: block 0 is the first half of the iv. -/
def cipherBlock (iv ciphertext : List UInt8) : Nat → AesBlock :=
  Ige.chained (Ige.block 16 iv) ciphertext

/-- `iv2` behind the blocks of the plaintext: block 0 is the second half of the iv. -/
def plainBlock (iv plaintext : List UInt8) : Nat → AesBlock :=
  Ige.chained (Ige.block 16 (iv.drop 16)) plaintext

variable {ssl : OpenSSL} {data key iv : List UInt8}

/-- Whole blocks decrypt to as many bytes, which encrypt to the ciphertext again. -/
lemma aesIgeEncrypt_decrypt (inverts : ssl.Inverts) (sized : Sized data key iv) :
    ∃ plaintext, aesIgeDecrypt ssl data key iv = .ok plaintext ∧
      plaintext.length = data.length ∧ aesIgeEncrypt ssl plaintext key iv = .ok data := by
  obtain ⟨key_size, iv_size, whole⟩ := sized
  obtain ⟨blocks, e⟩ : ∃ blocks, blocks = Ige.decrypt xorBlock (ssl.aesDecrypt ⟨key, key_size⟩)
    (Ige.block 16 iv) (Ige.block 16 (iv.drop 16)) (Ige.split 16 (data.length / 16) data) := ⟨_, rfl⟩
  have count : blocks.length = data.length / 16 := by
    rw [e, Ige.decrypt_length, Ige.split_length]
  have size : (Ige.join blocks).length = data.length := by
    rw [Ige.join_length, count]
    omega
  have again : Ige.split 16 (data.length / 16) (Ige.join blocks) = blocks := by
    rw [← count, Ige.split_join]
  refine ⟨Ige.join blocks, by rw [aesIgeDecrypt_join key_size iv_size whole, e], size, ?_⟩
  rw [aesIgeEncrypt_join key_size iv_size (by rw [size, whole]), size, again, e,
    Ige.encrypt_decrypt xorBlock_cancel (inverts.encrypt_decrypt _), Ige.join_split (by omega)]

/-- Encrypted blocks are whole blocks again, masked as the mode prescribes. -/
lemma aesIgeEncrypt_chained {ciphertext i} (sized : Sized data key iv)
    (ok : aesIgeEncrypt ssl data key iv = .ok ciphertext) (inside : i < data.length / 16) :
    cipherBlock iv ciphertext (i + 1) =
      xorBlock
        (ssl.aesEncrypt ⟨key, sized.1⟩
          (xorBlock (plainBlock iv data (i + 1)) (cipherBlock iv ciphertext i)))
        (plainBlock iv data i) := by
  obtain ⟨key_size, iv_size, whole⟩ := sized
  rw [aesIgeEncrypt_join key_size iv_size whole] at ok
  obtain ⟨blocks, e⟩ : ∃ blocks, blocks = Ige.encrypt xorBlock (ssl.aesEncrypt ⟨key, key_size⟩)
    (Ige.block 16 iv) (Ige.block 16 (iv.drop 16)) (Ige.split 16 (data.length / 16) data) := ⟨_, rfl⟩
  have count : blocks.length = data.length / 16 := by
    rw [e, Ige.encrypt_length, Ige.split_length]
  have again : Ige.split 16 (data.length / 16) ciphertext = blocks := by
    cases ok
    rw [← e, ← count, Ige.split_join]
  -- the two registers of the loop stand in front of the block lists
  have c : (Ige.block 16 iv :: Ige.split 16 (data.length / 16) ciphertext)[i]? =
      some (cipherBlock iv ciphertext i) := Ige.chained_getElem? inside.le
  have p : (Ige.block 16 (iv.drop 16) :: Ige.split 16 (data.length / 16) data)[i]? =
      some (plainBlock iv data i) := Ige.chained_getElem? inside.le
  have out := Ige.encrypt_getElem? (Ige.split_getElem? inside) (by rw [← e, ← again]; exact c) p
  rw [← e, ← again, Ige.split_getElem? inside] at out
  exact Option.some.inj out

/-- Other sizes are refused by both. -/
lemma aesIge_refused (other : ¬ Sized data key iv) :
    (∃ what, aesIgeEncrypt ssl data key iv = .error (.invalidArgument what)) ∧
      ∃ what, aesIgeDecrypt ssl data key iv = .error (.invalidArgument what) := by
  by_cases sizes : key.length = 32 ∧ iv.length = 32
  · have part : data.length % 16 ≠ 0 := fun whole => other ⟨sizes.1, sizes.2, whole⟩
    rw [aesIgeEncrypt, aesIgeDecrypt, dif_pos sizes, dif_pos sizes, if_pos part, if_pos part]
    exact ⟨⟨_, rfl⟩, ⟨_, rfl⟩⟩
  · rw [aesIgeEncrypt, aesIgeDecrypt, dif_neg sizes, dif_neg sizes]
    exact ⟨⟨_, rfl⟩, ⟨_, rfl⟩⟩

/-- What holds of one string of any size, a key and an iv: both directions undo each other and keep
the length, the blocks of the ciphertext are chained as the mode prescribes, and what does not have
the right sizes is refused. -/
theorem aesIge_inverse (inverts : ssl.Inverts) :
    (∀ sized : Sized data key iv,
      (∃ ciphertext, aesIgeEncrypt ssl data key iv = .ok ciphertext ∧
        ciphertext.length = data.length ∧
        aesIgeDecrypt ssl ciphertext key iv = .ok data ∧
        ∀ i < data.length / 16,
          cipherBlock iv ciphertext (i + 1) =
            xorBlock
              (ssl.aesEncrypt ⟨key, sized.1⟩
                (xorBlock (plainBlock iv data (i + 1)) (cipherBlock iv ciphertext i)))
              (plainBlock iv data i)) ∧
      ∃ plaintext, aesIgeDecrypt ssl data key iv = .ok plaintext ∧
        plaintext.length = data.length ∧ aesIgeEncrypt ssl plaintext key iv = .ok data) ∧
    (¬ Sized data key iv →
      (∃ what, aesIgeEncrypt ssl data key iv = .error (.invalidArgument what)) ∧
        ∃ what, aesIgeDecrypt ssl data key iv = .error (.invalidArgument what)) := by
  refine ⟨fun sized => ⟨?_, aesIgeEncrypt_decrypt inverts sized⟩, aesIge_refused⟩
  obtain ⟨ciphertext, ok, size, back⟩ :=
    aesIgeDecrypt_encrypt inverts sized.1 sized.2.1 sized.2.2
  exact ⟨ciphertext, ok, size, back, fun i inside => aesIgeEncrypt_chained sized ok inside⟩

/-- With AES-256, two blocks decrypted and encrypted again. -/
theorem aesIge_inverse_reference :
    ∃ plaintext, aesIgeDecrypt reference (.replicate 32 7) (.replicate 32 1) (.replicate 32 0) =
        .ok plaintext ∧ plaintext.length = 32 ∧
      aesIgeEncrypt reference plaintext (.replicate 32 1) (.replicate 32 0) =
        .ok (.replicate 32 7) := by
  have sized : Sized (.replicate 32 7) (.replicate 32 1) (.replicate 32 0) := by
    simp [Sized]
  have := ((aesIge_inverse reference_inverts).1 sized).2
  rwa [List.length_replicate] at this

end CryptoUtils

end CppGram
