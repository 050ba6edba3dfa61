import CppGram.Lib.Crc
import CppGram.Transport.FullStreams

/-!
# Burst errors in the full codec

The table-driven `compute_crc32` is the bit by bit register of `Crc` with the polynomial of the
table (`computeCrc32_eq`), and a frame passes the check of `decode_packets` exactly when the
register, having taken in the whole frame, is left with a constant (`checksum_iff`). So a frame and
what a burst of up to 32 bits makes of it do not both pass (`burst_detected`).
-/

namespace CppGram.Transport.FullCodec
open Framing

/-- The polynomial of `kCrc32Table`. -/
def polynomial : BitVec 32 := 0xEDB88320#32

/-- The value `compute_crc32` starts from, and takes off at the end. -/
def ones : BitVec 32 := 0xffffffff#32

/-- The shift of the code is that of the register. -/
lemma crc32Shift_eq (c : UInt32) :
    (crc32Shift c).toBitVec = Crc.shift polynomial c.toBitVec := by
  have low : (c &&& 1).toNat = c.toNat % 2 :=
    (UInt32.toNat_and c 1).trans (Nat.and_two_pow_sub_one_eq_mod c.toNat 1)
  have odd : c &&& 1 ≠ 0 ↔ c.toBitVec.getLsbD 0 = true := by
    rw [Ne, ← UInt32.toNat_inj, low, BitVec.getLsbD, Nat.testBit_zero, decide_eq_true_iff]
    change ¬ c.toNat % 2 = 0 ↔ c.toNat % 2 = 1
    omega
  rw [crc32Shift, Crc.shift]
  by_cases h : c &&& 1 ≠ 0
  · rw [if_pos h, if_pos (odd.mp h), BitVec.xor_comm]
    rfl
  · rw [if_neg h, if_neg (odd.not.mp h)]
    rfl

/-- Any number of shifts of the code are those of the register. -/
lemma crc32Shift_iterate (n : Nat) (c : UInt32) :
    (crc32Shift^[n] c).toBitVec = (Crc.shift polynomial)^[n] c.toBitVec := by
  induction n generalizing c with
  | zero => rfl
  | succ n ih => rw [Function.iterate_succ_apply, ih, crc32Shift_eq]; rfl

/-- The table has what the low byte of the register contributes to a shift by eight bits. -/
lemma crc32Step_eq (crc : UInt32) (byte : UInt8) :
    (crc32Step crc byte).toBitVec = Crc.feed polynomial crc.toBitVec (Crc.bits [byte]) := by
  have number : Crc.value (Crc.bits [byte]) = byte.toNat := Crc.value_bits [byte]
  have wide : byte.toUInt32.toBitVec = BitVec.ofNat 32 byte.toNat := by
    apply BitVec.eq_of_toNat_eq
    have lt := byte.toNat_lt
    rw [BitVec.toNat_ofNat, Nat.mod_eq_of_lt (by omega)]
    rfl
  have index : (((crc ^^^ byte.toUInt32) &&& 0xff).toUInt8.toUInt32).toBitVec =
      BitVec.ofNat 32 ((crc.toBitVec ^^^ BitVec.ofNat 32 byte.toNat).toNat % 2 ^ 8) := by
    rw [← wide]
    apply BitVec.eq_of_toNat_eq
    rw [low_byte, BitVec.toNat_ofNat, Nat.mod_eq_of_lt (by omega)]
    exact UInt8.toNat_ofNat'
  have high : (crc.toBitVec ^^^ BitVec.ofNat 32 byte.toNat) >>> 8 = crc.toBitVec >>> 8 := by
    have gone : BitVec.ofNat 32 byte.toNat >>> 8 = 0#32 := by
      apply BitVec.eq_of_toNat_eq
      have lt := byte.toNat_lt
      rw [BitVec.toNat_ushiftRight, BitVec.toNat_ofNat, Nat.shiftRight_eq_div_pow,
        Nat.mod_eq_of_lt (by omega), Nat.div_eq_of_lt lt]
      rfl
    rw [BitVec.ushiftRight_xor_distrib, gone, BitVec.xor_zero]
  have eight : (Crc.bits [byte]).length = 8 := Crc.bits_length
  rw [Crc.feed_eq polynomial _ (by rw [eight]; decide), eight, number,
    Crc.shift_iterate_split, high, ← index, ← crc32Shift_iterate]
  rfl

/-- `compute_crc32` is the register of the polynomial, bit by bit. -/
theorem computeCrc32_eq (data : List UInt8) :
    (computeCrc32 data).toBitVec = Crc.feed polynomial ones (Crc.bits data) ^^^ ones := by
  have fold (crc : UInt32) : (data.foldl crc32Step crc).toBitVec =
      Crc.feed polynomial crc.toBitVec (Crc.bits data) := by
    induction data generalizing crc with
    | nil => rfl
    | cons b data ih =>
      rw [List.foldl_cons, ih, crc32Step_eq, ← Crc.feed_append, ← Crc.bits_append]
      rfl
  rw [computeCrc32, UInt32.toBitVec_xor, fold]
  rfl

/-- A frame ends with its checksum exactly when the register is left with a constant. -/
lemma checksum_iff {frame : List UInt8} (long : 4 ≤ frame.length) :
    Bytes.ofLE (frame.drop (frame.length - 4)) =
        (computeCrc32 (frame.take (frame.length - 4))).toNat ↔
      Crc.feed polynomial ones (Crc.bits frame) = (Crc.shift polynomial)^[32] ones := by
  have split := List.take_append_drop (frame.length - 4) frame
  have four : (frame.drop (frame.length - 4)).length = 4 := by
    rw [List.length_drop]
    omega
  generalize frame.take (frame.length - 4) = body at split ⊢
  generalize frame.drop (frame.length - 4) = crc at split four ⊢
  subst split
  have width : (Crc.bits crc).length = 32 := by
    rw [Crc.bits_length, four]
  have lt : Bytes.ofLE crc < 2 ^ 32 := by
    have lt := Bytes.ofLE_lt crc
    rwa [four] at lt
  have stored : Bytes.ofLE crc = (computeCrc32 body).toNat ↔
      BitVec.ofNat 32 (Bytes.ofLE crc) = (computeCrc32 body).toBitVec := by
    rw [← BitVec.toNat_inj, BitVec.toNat_ofNat, Nat.mod_eq_of_lt lt]
    rfl
  rw [Crc.bits_append, Crc.feed_append, Crc.feed_eq polynomial _ width.le, width, Crc.value_bits,
    ((Crc.shift_injective polynomial (by decide)).iterate 32).eq_iff, stored, computeCrc32_eq]
  generalize Crc.feed polynomial ones (Crc.bits body) = register
  generalize BitVec.ofNat 32 (Bytes.ofLE crc) = x
  constructor
  · rintro rfl
    rw [← BitVec.xor_assoc, BitVec.xor_self, BitVec.zero_xor]
  · intro h
    rw [← h, ← BitVec.xor_assoc, BitVec.xor_self, BitVec.zero_xor]

/-- Two valid frames of one length do not differ in a burst of up to 32 bits only. -/
lemma no_burst {f f' : List UInt8} {t : Nat} (len : f'.length = f.length) (long : 4 ≤ f.length)
    (differ : f' ≠ f)
    (window : ∀ i, Crc.bit f i ≠ Crc.bit f' i → t ≤ i ∧ i < t + 32)
    (valid : Bytes.ofLE (f.drop (f.length - 4)) = (computeCrc32 (f.take (f.length - 4))).toNat) :
    Bytes.ofLE (f'.drop (f'.length - 4)) ≠ (computeCrc32 (f'.take (f'.length - 4))).toNat := by
  intro valid'
  rw [checksum_iff long] at valid
  rw [checksum_iff (by omega)] at valid'
  refine Crc.feed_ne polynomial (by decide) ones (t := t) ?_ ?_ ?_ (valid.trans valid'.symm)
  · rw [Crc.bits_length, Crc.bits_length, len]
  · exact fun same => differ (Crc.bits_injective len same.symm)
  · intro i h
    rw [Crc.bits_getElem?, Crc.bits_getElem?, len] at h
    apply window i
    rintro same
    rw [same] at h
    exact h rfl

/-- The full codec detects every burst of up to 32 bits behind the length of a frame: whatever the
    payload and the sequence number, a decoder with nothing in its buffer throws the checksum
    mismatch. -/
theorem burst_detected (e c : FullCodec) (p f' : List UInt8) (t : Nat)
    (fits : p.length + 12 ≤ 16 * 1024 * 1024) (empty : c.buffer = [])
    (len : f'.length = (encodePacket e p).1.length)
    (front : f'.take 4 = (encodePacket e p).1.take 4)
    (differ : f' ≠ (encodePacket e p).1)
    (window : ∀ i, Crc.bit (encodePacket e p).1 i ≠ Crc.bit f' i → t ≤ i ∧ i < t + 32) :
    decodePackets c f' = (.error crcMismatch, { c with buffer := f' }) := by
  obtain ⟨valid, -⟩ := valid_encodePacket (c := e) (p := p) fits
  have mismatch := no_burst len (by have := valid.long; omega) differ window valid.checksum
  have total : layout.total f' = some (.ok f'.length) := by
    rw [layout_total, total_ok (by rw [len]; exact valid.long), front, valid.size, len]
    rw [front, valid.size]
    have := valid.long
    have := valid.small
    omega
  have bad : layout.cut f' = .bad crcMismatch := by
    apply LengthPrefixed.cut_invalid total le_rfl
    rw [List.take_length, layout_unpack, unpack, if_neg mismatch]
  have here : buf.get c ++ f' = f' := by
    rw [show buf.get c = [] from empty, List.nil_append]
  have call := implements.decode_error .endlessLoop .done (here ▸ bad)
  rw [here] at call
  exact call

/-- Four bits of the payload flipped. -/
theorem burst_detected_payload :
    decodePackets {} ((encodePacket {} [7]).1.set 8 8) =
      (.error crcMismatch, { buffer := (encodePacket {} [7]).1.set 8 8 }) := by
  refine burst_detected {} {} [7] _ 64 (by decide) rfl (List.length_set ..) ?_ ?_ ?_
  · rw [List.take_set_of_le (by decide)]
  · decide +kernel
  · intro i differs
    by_contra outside
    have other : 8 ≠ i / 8 := by omega
    apply differs
    rw [Crc.bit, Crc.bit, List.getD_eq_getElem?_getD, List.getD_eq_getElem?_getD,
      List.getElem?_set_ne other]

end CppGram.Transport.FullCodec
