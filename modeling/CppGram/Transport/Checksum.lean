import CppGram.Transport.FullBursts

/-!
# The checksum of the full codec

`compute_crc32` takes a byte at a time from a table of 256 entries. The specification of CRC-32 takes
a bit at a time (`bitSerial`): the register is shifted right, and the polynomial is taken off when
the bit shifted out is not the message bit. `computeCrc32_bitSerial` is that the two are the same
function of every byte string.
-/

namespace CppGram.Transport.FullCodec

/-- The reflected polynomial of CRC-32, one message bit into the register. -/
def serialStep (crc : UInt32) (messageBit : Bool) : UInt32 :=
  let shiftedOut := decide (crc % 2 = 1)
  if shiftedOut != messageBit then (crc >>> 1) ^^^ 0xEDB88320 else crc >>> 1

/-- CRC-32 by the bits of the message, the lowest bit of each byte first. -/
def bitSerial (data : List UInt8) : UInt32 :=
  (Crc.bits data).foldl serialStep 0xFFFFFFFF ^^^ 0xFFFFFFFF

/-- A step of the register for one bit. -/
lemma serialStep_eq (crc : UInt32) (b : Bool) :
    (serialStep crc b).toBitVec = Crc.serial polynomial crc.toBitVec b := by
  have low : decide (crc % 2 = 1) = crc.toBitVec.getLsbD 0 := by
    rw [BitVec.getLsbD, Nat.testBit_zero]
    exact decide_eq_decide.mpr UInt32.toNat_inj.symm
  rw [serialStep, Crc.serial, low]
  cases crc.toBitVec.getLsbD 0 != b with
  | true => rfl
  | false => rfl

/-- The steps for some bits, one after the other. -/
lemma serialStep_fold (crc : UInt32) (bits : List Bool) :
    (bits.foldl serialStep crc).toBitVec = Crc.feed polynomial crc.toBitVec bits := by
  rw [Crc.feed_eq_serial]
  induction bits generalizing crc with
  | nil => rfl
  | cons b bits ih => rw [List.foldl_cons, List.foldl_cons, ih, serialStep_eq]

/-- One lookup in the table is eight steps of the register, whatever it holds. -/
lemma crc32Step_serial (crc : UInt32) (byte : UInt8) :
    crc32Step crc byte = (Crc.bits [byte]).foldl serialStep crc := by
  apply UInt32.toBitVec_inj.mp
  rw [crc32Step_eq, serialStep_fold]

/-- The register after a message, by the table and by bits. -/
lemma register_serial (crc : UInt32) (data : List UInt8) :
    data.foldl crc32Step crc = (Crc.bits data).foldl serialStep crc := by
  induction data generalizing crc with
  | nil => rfl
  | cons b data ih =>
    change data.foldl crc32Step (crc32Step crc b) = (Crc.bits ([b] ++ data)).foldl serialStep crc
    rw [ih, crc32Step_serial, Crc.bits_append, List.foldl_append]

/-- A step for a zero is a shift. -/
lemma serialStep_false (crc : UInt32) : serialStep crc false = crc32Shift crc := by
  apply UInt32.toBitVec_inj.mp
  rw [serialStep_eq, crc32Shift_eq, ← Crc.shift_xor_bit]
  exact congrArg (Crc.shift polynomial) BitVec.xor_zero

/-- An entry of the table is its index after eight bits of a message that has none set. -/
lemma crc32Table_serial (index : UInt8) :
    crc32Table index = (List.replicate 8 false).foldl serialStep index.toUInt32 := by
  have shifts (n : Nat) (crc : UInt32) :
      crc32Shift^[n] crc = (List.replicate n false).foldl serialStep crc := by
    induction n generalizing crc with
    | zero => rfl
    | succ n ih =>
      rw [Function.iterate_succ_apply, ih, List.replicate_succ, List.foldl_cons, serialStep_false]
  exact shifts 8 index.toUInt32

/-- The table-driven checksum is CRC-32: all its table entries, every lookup, every message; and a
    message taken in two parts leaves the register it leaves as a whole. -/
theorem computeCrc32_bitSerial :
    (∀ data, computeCrc32 data = bitSerial data) ∧
    (∀ index, crc32Table index = (List.replicate 8 false).foldl serialStep index.toUInt32) ∧
    (∀ crc byte, crc32Step crc byte = (Crc.bits [byte]).foldl serialStep crc) ∧
    ∀ crc (a b : List UInt8),
      (a ++ b).foldl crc32Step crc = b.foldl crc32Step (a.foldl crc32Step crc) := by
  refine ⟨fun data => ?_, crc32Table_serial, crc32Step_serial, fun crc a b => List.foldl_append⟩
  rw [computeCrc32, bitSerial, register_serial]

/-- The check value of CRC-32. -/
example : computeCrc32 [0x31, 0x32, 0x33, 0x34, 0x35, 0x36, 0x37, 0x38, 0x39] = 0xCBF43926 := by
  decide +kernel

end CppGram.Transport.FullCodec
