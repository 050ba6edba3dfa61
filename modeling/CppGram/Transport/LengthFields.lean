import CppGram.TL.RoundTrip
import CppGram.Transport.Abridged

/-!
# Lengths in three bytes

`TLWriter::write_bytes` and `AbridgedCodec::encode_packet` put a length into three bytes without a
check, so a length from `2 ^ 24` on loses its upper bits. `writeBytes_recovered_iff` and
`encodePacket_announced_iff` say that this is the only way either goes wrong.
-/

namespace CppGram
open Ige Reading

lemma bytes24_mod {n} : bytes24 (n % 2 ^ 24) = bytes24 n := by
  rw [bytes24_eq, bytes24_eq]
  exact Bytes.toLE_mod (w := 3)

/-! ## Byte strings -/

/-- What a write appends is read back by `read_bytes`, which stops behind it. -/
def Recovered (write : TLWriter → List UInt8 → TLWriter) (bytes : List UInt8) : Prop :=
  ∀ w : TLWriter, ∃ appended, (write w bytes).buffer = w.buffer ++ appended ∧
    Reads TLReader.readBytes appended bytes

namespace TLReader

/-- The content that is read has the length that was announced. -/
lemma length_of_readContent {len headerLen c bytes c'}
    (read : (readContent len headerLen).on c = (.ok bytes, c')) : bytes.length = len := by
  obtain ⟨_, _, _, read⟩ := on_bind_inv read
  obtain ⟨result, _, _, read⟩ := on_bind_inv read
  obtain ⟨_, _, _, read⟩ := on_bind_inv read
  obtain ⟨_, _, _, read⟩ := on_bind_inv read
  cases read
  exact result.length_eq

/-- Of a long string at most its length modulo `2 ^ 24` is read. -/
lemma length_of_readBytes {bytes read : List UInt8} (large : 253 < bytes.length)
    (reads : Reads readBytes (framed bytes) read) : read.length = bytes.length % 2 ^ 24 := by
  have header : Reads readLength (0xfe :: bytes24 bytes.length) (bytes.length % 2 ^ 24, 4) := by
    rw [← bytes24_mod]
    exact reads_length_large (Nat.mod_lt _ (by decide))
  have call := reads [] []
  rw [TLWriter.framed_large large, List.append_assoc] at call
  rw [readBytes, on_bind_ok (header [] _)] at call
  exact length_of_readContent call

/-- Bytes are read back exactly if their length has room in three bytes. -/
lemma reads_framed_iff {bytes : List UInt8} :
    Reads readBytes (framed bytes) bytes ↔ bytes.length < 2 ^ 24 := by
  refine ⟨fun reads => ?_, reads_framed⟩
  by_contra long
  have cut := length_of_readBytes (by omega) reads
  omega

end TLReader

/-- `write_bytes` keeps a byte string exactly if its length has room in three bytes. -/
lemma writeBytes_recovered_iff {bytes : List UInt8} :
    Recovered TLWriter.writeBytes bytes ↔ bytes.length < 2 ^ 24 := by
  rw [← TLReader.reads_framed_iff]
  constructor
  · intro recovered
    obtain ⟨appended, same, reads⟩ := recovered {}
    rwa [show appended = framed bytes from same.symm] at reads
  · intro reads w
    exact ⟨framed bytes, TLWriter.writeBytes_buffer, reads⟩

/-! ## Abridged frames -/

namespace Transport.AbridgedCodec

/-- The word count `decode_packets` takes from the head of a frame. -/
def announcedWords : List UInt8 → Option Nat
  | [] => none
  | first :: rest =>
    if first < 0x7f then some first.toNat
    else
      match rest with
      | b0 :: b1 :: b2 :: _ => some (word24 b0 b1 b2).toNat
      | _ => none

/-- The size of a frame is its header and the words it announces. -/
lemma total_announcedWords {s} :
    total s = (announcedWords s).map fun words => headerLen s + words * 4 := by
  cases s with
  | nil => rfl
  | cons first rest =>
    simp only [total, announcedWords, headerLen]
    split
    · rfl
    · -- the count is there with the third byte behind the mark
      rcases rest with _ | ⟨b0, _ | ⟨b1, _ | ⟨b2, rest⟩⟩⟩
      all_goals rfl

/-- The header announces the words modulo 2^24. -/
lemma announcedWords_wordsHeader {words t} :
    announcedWords (wordsHeader words ++ t) = some (words % 2 ^ 24) := by
  have size := total_wordsHeader words t
  rw [total_announcedWords, headerLen_wordsHeader] at size
  obtain ⟨announced, head, sum⟩ := Option.map_eq_some_iff.mp size
  rw [head, Option.some_inj]
  omega

/-- `encode_packet` announces the words of a payload exactly if their number has room in three
bytes. -/
lemma encodePacket_announced_iff {c : AbridgedCodec} {data} (whole : 4 ∣ data.length) :
    announcedWords (encodePacket c data).1 = some (data.length / 4) ↔
      data.length / 4 < 2 ^ 24 := by
  rw [encodePacket, announcedWords_wordsHeader, Option.some_inj]
  omega

end Transport.AbridgedCodec

open Transport (AbridgedCodec)

/-- A string is written so that it is recovered exactly below `2 ^ 24` bytes, a payload announced as
it is exactly below `2 ^ 24` words. -/
theorem length_kept_iff (bytes : List UInt8) :
    (Recovered TLWriter.writeBytes bytes ↔ bytes.length < 2 ^ 24) ∧
    (Recovered TLWriter.writeString bytes ↔ bytes.length < 2 ^ 24) ∧
    (4 ∣ bytes.length → ∀ c : AbridgedCodec,
      (AbridgedCodec.announcedWords (c.encodePacket bytes).1 = some (bytes.length / 4) ↔
        bytes.length / 4 < 2 ^ 24)) :=
  ⟨writeBytes_recovered_iff, writeBytes_recovered_iff,
    fun whole _ => AbridgedCodec.encodePacket_announced_iff whole⟩

/-- Three bytes as a string, a word as a payload. -/
theorem length_kept_word :
    Recovered TLWriter.writeBytes [1, 2, 3, 4] ∧
      AbridgedCodec.announcedWords (AbridgedCodec.encodePacket {} [1, 2, 3, 4]).1 = some 1 := by
  have kept := length_kept_iff [1, 2, 3, 4]
  exact ⟨kept.1.mpr (by decide), (kept.2.2 ⟨1, rfl⟩ {}).mpr (by decide)⟩

/-- `2 ^ 24` bytes are not recovered, and `2 ^ 24` words are announced as none. -/
theorem length_lost :
    ¬ Recovered TLWriter.writeBytes (.replicate (2 ^ 24) 0) ∧
    ¬ Recovered TLWriter.writeString (.replicate (2 ^ 24) 0) ∧
    AbridgedCodec.announcedWords (AbridgedCodec.encodePacket {} (.replicate (2 ^ 26) 0)).1 =
      some 0 := by
  have long : ¬ Recovered TLWriter.writeBytes (.replicate (2 ^ 24) 0) := by
    rw [writeBytes_recovered_iff, List.length_replicate]
    exact Nat.lt_irrefl _
  refine ⟨long, long, ?_⟩
  rw [AbridgedCodec.encodePacket, AbridgedCodec.announcedWords_wordsHeader, List.length_replicate,
    Option.some_inj]
  decide

end CppGram
