import CppGram.TL.RoundTrip

/-!
# Canonical TL strings

`read_bytes` accepts more than `write_bytes` writes: any padding, and the long header in front of a
short content. `canonical_iff` says that this is all: what was read is written again as it stood
exactly if neither is the case, and it is read back from what is written in any case.
-/

namespace CppGram
open Ige Reading

/-- The length of the header of a string. -/
def headerLen (s : List UInt8) : Nat := if s.head?.any (· ≤ 253) then 1 else 4

/-- The padding of a string with this content. -/
def padding (s bytes : List UInt8) : List UInt8 := s.drop (headerLen s + bytes.length)

/-- The padding of a short string. -/
lemma padding_short {first bytes rest} (small : first ≤ 253) :
    padding (first :: (bytes ++ rest)) bytes = rest := by
  have form : headerLen (first :: (bytes ++ rest)) = 1 := if_pos (decide_eq_true small)
  rw [padding, form, Nat.add_comm, List.drop_succ_cons, List.drop_left]

/-- The padding of a long string. -/
lemma padding_long {b0 b1 b2 bytes rest} :
    padding (0xfe :: b0 :: b1 :: b2 :: (bytes ++ rest)) bytes = rest := by
  have form : headerLen (0xfe :: b0 :: b1 :: b2 :: (bytes ++ rest)) = 4 := rfl
  rw [padding, form, Nat.add_comm]
  simp only [List.drop_succ_cons, List.drop_left]

/-- Bytes of a known number are written as so many zeros exactly if they are all zero. -/
lemma replicate_zero_iff {s : List UInt8} {n} (len : s.length = n) :
    List.replicate n 0 = s ↔ ∀ b ∈ s, b = 0 := by
  rw [eq_comm, List.eq_replicate_iff, and_iff_right len]

/-- The bytes of a length are those it was read from. -/
lemma bytes24_word24 {b0 b1 b2} : bytes24 (word24 b0 b1 b2).toNat = [b0, b1, b2] := by
  rw [bytes24_eq, word24_toNat]
  exact Bytes.toLE_ofLE_of_length rfl

namespace TLString
open TLWriter

/-- A short header is the header that is written. -/
lemma framed_short_iff {first bytes rest} (small : first ≤ 253) (len : bytes.length = first.toNat)
    (padded : rest.length = pad 1 first.toNat) :
    framed bytes = first :: (bytes ++ rest) ↔ ∀ b ∈ rest, b = 0 := by
  have room : bytes.length ≤ 253 := by
    rw [len]
    exact small
  rw [framed_small room, len, ← replicate_zero_iff padded]
  simp only [Nat.toUInt8_eq, UInt8.ofNat_toNat, List.singleton_append, List.cons_inj_right,
    List.append_cancel_left_eq]

/-- A long header is the header that is written if the short one has no room for the length. -/
lemma framed_long_iff {b0 b1 b2 bytes rest} (len : bytes.length = (word24 b0 b1 b2).toNat)
    (padded : rest.length = pad 4 (word24 b0 b1 b2).toNat) :
    framed bytes = 0xfe :: b0 :: b1 :: b2 :: (bytes ++ rest) ↔
      (∀ b ∈ rest, b = 0) ∧ 254 ≤ bytes.length := by
  rcases Nat.lt_or_ge 253 bytes.length with large | small
  · rw [and_iff_left (Nat.succ_le_of_lt large), framed_large large, len, bytes24_word24,
      ← replicate_zero_iff padded]
    simp only [List.cons_append, List.nil_append, List.cons_inj_right, List.append_cancel_left_eq]
  · have no_room : ¬ 254 ≤ bytes.length := Nat.not_le.mpr (Nat.lt_succ_of_le small)
    refine ⟨fun same => ?_, fun ⟨_, large⟩ => absurd large no_room⟩
    -- the first byte would be the length and the mark
    rw [framed_small small] at same
    have mark := congrArg UInt8.toNat (List.cons.inj same).1
    have value : bytes.length.toUInt8.toNat = bytes.length := by
      simp
      omega
    rw [value] at mark
    exact absurd (mark.symm.trans_le small) (by decide)

/-- What a string contains is written as it stands exactly if the string is canonical. -/
lemma framed_iff {s bytes} (str : TLString s bytes) :
    framed bytes = s ↔
      (∀ b ∈ padding s bytes, b = 0) ∧ (s.head?.any (· ≤ 253) ∨ 254 ≤ bytes.length) := by
  cases str with
  | @short first _ rest small len padded =>
    have form : (List.head? (first :: (bytes ++ rest))).any (· ≤ 253) = true :=
      decide_eq_true small
    rw [padding_short small, framed_short_iff small len padded]
    exact (and_iff_left (.inl form)).symm
  | long len padded =>
    have form : ¬ (0xfe : UInt8) ≤ 253 := by decide
    rw [padding_long, framed_long_iff len padded]
    simp only [List.head?_cons, Option.any_some, decide_eq_true_eq, form, false_or]

end TLString

/-- Where `read_bytes` has read `r` from the bytes `w`, `write_bytes` writes exactly `w` for `r` if and
only if the padding of `w` is zero and its header is short or has to be long. In any case `r` is read
back from what is written, wherever that stands. -/
theorem canonical_iff (reader reader' : TLReader) (r : List UInt8)
    (read : TLReader.readBytes.on reader = (.ok r, reader')) :
    let w := Bytes.span reader.data reader.offset (reader'.offset - reader.offset)
    ((TLWriter.writeBytes {} r).buffer = w ↔
      (∀ b ∈ padding w r, b = 0) ∧ (w.head?.any (· ≤ 253) ∨ 254 ≤ r.length)) ∧
    Reads TLReader.readBytes (TLWriter.writeBytes {} r).buffer r := by
  intro w
  obtain ⟨s, behind, str, ahead, rfl⟩ := TLReader.readBytes_inv read
  have taken : w = s := by
    change Bytes.span reader.data reader.offset (reader.offset + s.length - reader.offset) = s
    rw [Nat.add_sub_cancel_left, Bytes.span, ← Cursor.ahead, ahead, List.take_left]
  rw [taken]
  exact ⟨str.framed_iff, TLReader.reads_framed str.length_lt⟩

/-- A long header in front of one byte: read, and written with the short one. -/
theorem canonical_iff_long_header :
    (TLWriter.writeBytes {} [7]).buffer ≠ [0xfe, 1, 0, 0, 7, 0, 0, 0] ∧
      Reads TLReader.readBytes (TLWriter.writeBytes {} [7]).buffer [7] := by
  obtain ⟨written, back⟩ := canonical_iff ⟨[0xfe, 1, 0, 0, 7, 0, 0, 0], 0⟩
    ⟨[0xfe, 1, 0, 0, 7, 0, 0, 0], 8⟩ [7] rfl
  refine ⟨fun same => ?_, back⟩
  exact absurd (written.mp same).2 (by decide)

end CppGram
