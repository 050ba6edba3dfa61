import Mathlib.Logic.Function.Iterate
import CppGram.Lib.Bytes

/-!
# Cyclic redundancy checks

The register of a reflected CRC of any width and polynomial. `shift` takes one bit out of the
register, `feed` puts a message in, lowest bit of each byte first. A shift is linear, and injective
when the top bit of the polynomial is set, so up to `w` message bits enter a register of width `w`
without loss (`feed_eq`); the main results are

* `shift_iterate_split`: a shift by several bits from a table of the low bits,
* `feed_ne`: two messages that differ, but only inside a window of `w` bits, leave different
  registers.
-/

namespace Crc

variable {w : Nat} (p : BitVec w)

/-- The lowest bit leaves the register; the polynomial is taken off where it was set. -/
def shift (r : BitVec w) : BitVec w :=
  if r.getLsbD 0 then (r >>> 1) ^^^ p else r >>> 1

/-- The register after some message bits. -/
def feed (r : BitVec w) (bits : List Bool) : BitVec w :=
  bits.foldl (fun r b => shift p (r ^^^ BitVec.ofNat w b.toNat)) r

/-- A message bit against the bit that leaves the register: the polynomial is taken off where they
    differ. -/
def serial (r : BitVec w) (b : Bool) : BitVec w :=
  if r.getLsbD 0 != b then (r >>> 1) ^^^ p else r >>> 1

/-- The number whose bits, lowest first, are given. -/
def value : List Bool → Nat
  | [] => 0
  | b :: bits => b.toNat + 2 * value bits

/-! ## Shifts -/

/-- A step is linear. -/
lemma shift_xor (a b : BitVec w) : shift p (a ^^^ b) = shift p a ^^^ shift p b := by
  simp only [shift, BitVec.getLsbD_xor, BitVec.ushiftRight_xor_distrib]
  cases a.getLsbD 0 with
  | false =>
    cases b.getLsbD 0 with
    | false => rfl
    | true => exact BitVec.xor_assoc ..
  | true =>
    cases b.getLsbD 0 with
    | false =>
      change (a >>> 1 ^^^ b >>> 1) ^^^ p = (a >>> 1 ^^^ p) ^^^ b >>> 1
      rw [BitVec.xor_assoc, BitVec.xor_assoc, BitVec.xor_comm p]
    | true =>
      change a >>> 1 ^^^ b >>> 1 = (a >>> 1 ^^^ p) ^^^ (b >>> 1 ^^^ p)
      rw [BitVec.xor_assoc, BitVec.xor_comm p, BitVec.xor_assoc, BitVec.xor_self, BitVec.xor_zero]

/-- A number below the top is shifted like a number. -/
lemma shift_double {n : Nat} (fits : 2 * n < 2 ^ w) :
    shift p (BitVec.ofNat w (2 * n)) = BitVec.ofNat w n := by
  have even : (BitVec.ofNat w (2 * n)).getLsbD 0 = false := by
    rw [BitVec.getLsbD_ofNat]
    simp
  rw [shift, even]
  apply BitVec.eq_of_toNat_eq
  simp only [Bool.false_eq_true, if_false, BitVec.toNat_ushiftRight, BitVec.toNat_ofNat,
    Nat.shiftRight_eq_div_pow]
  rw [Nat.mod_eq_of_lt fits, Nat.mod_eq_of_lt (by omega)]
  omega

/-- Any number of steps are linear. -/
lemma shift_iterate_xor (n : Nat) (a b : BitVec w) :
    (shift p)^[n] (a ^^^ b) = (shift p)^[n] a ^^^ (shift p)^[n] b := by
  induction n generalizing a b with
  | zero => rfl
  | succ n ih => rw [Function.iterate_succ_apply, shift_xor, ih]; rfl

/-- Steps move a register to the right as long as no bit falls out. -/
lemma shift_iterate_pow {n m : Nat} (fits : 2 ^ n * m < 2 ^ w) :
    (shift p)^[n] (BitVec.ofNat w (2 ^ n * m)) = BitVec.ofNat w m := by
  induction n with
  | zero => rw [pow_zero, Nat.one_mul]; rfl
  | succ n ih =>
    rw [pow_succ', Nat.mul_assoc] at fits ⊢
    rw [Function.iterate_succ_apply, shift_double p fits]
    exact ih (by omega)

/-- Bits below a position and bits from it on do not meet. -/
lemma add_eq_xor {n a m : Nat} (low : a < 2 ^ n) : a + 2 ^ n * m = a ^^^ 2 ^ n * m := by
  apply Nat.eq_of_testBit_eq
  intro j
  rw [Nat.add_comm, Nat.testBit_two_pow_mul_add m low, Nat.testBit_xor, Nat.testBit_two_pow_mul]
  rcases Nat.lt_or_ge j n with below | above
  · simp [Nat.not_le.mpr below, below]
  · have clear : a.testBit j = false :=
      Nat.testBit_lt_two_pow (Nat.lt_of_lt_of_le low (Nat.pow_le_pow_right (by decide) above))
    simp [above, Nat.not_lt.mpr above, clear]

/-- A shift by `n` bits: the high bits move down, the low ones are shifted out on their own. -/
theorem shift_iterate_split (n : Nat) (r : BitVec w) :
    (shift p)^[n] r = (r >>> n) ^^^ (shift p)^[n] (BitVec.ofNat w (r.toNat % 2 ^ n)) := by
  have split : r = BitVec.ofNat w (2 ^ n * (r.toNat / 2 ^ n)) ^^^
      BitVec.ofNat w (r.toNat % 2 ^ n) := by
    rw [BitVec.xor_comm, ← BitVec.ofNat_xor,
      ← add_eq_xor (Nat.mod_lt _ (Nat.two_pow_pos n)), Nat.mod_add_div, BitVec.ofNat_toNat,
      BitVec.setWidth_eq]
  have high : 2 ^ n * (r.toNat / 2 ^ n) < 2 ^ w := by
    have le := Nat.mul_div_le r.toNat (2 ^ n)
    have lt := r.isLt
    omega
  have down : BitVec.ofNat w (r.toNat / 2 ^ n) = r >>> n := by
    apply BitVec.eq_of_toNat_eq
    have le := Nat.div_le_self r.toNat (2 ^ n)
    have lt := r.isLt
    rw [BitVec.toNat_ofNat, BitVec.toNat_ushiftRight, Nat.shiftRight_eq_div_pow,
      Nat.mod_eq_of_lt (by omega)]
  calc (shift p)^[n] r
      = (shift p)^[n] (BitVec.ofNat w (2 ^ n * (r.toNat / 2 ^ n)) ^^^
          BitVec.ofNat w (r.toNat % 2 ^ n)) := by rw [← split]
    _ = (r >>> n) ^^^ (shift p)^[n] (BitVec.ofNat w (r.toNat % 2 ^ n)) := by
      rw [shift_iterate_xor, shift_iterate_pow p high, down]

/-- With the top bit of the polynomial set no information leaves the register. -/
lemma shift_injective (top : p.msb = true) : Function.Injective (shift p) := by
  have zero {r : BitVec w} (h : shift p r = 0) : r = 0 := by
    rw [shift] at h
    have pos : 0 < w := by
      rcases Nat.eq_zero_or_pos w with rfl | pos
      · simp [BitVec.of_length_zero] at top
      · exact pos
    split at h
    · -- the polynomial has a top bit, the shifted register has none
      have same := congrArg BitVec.msb (BitVec.xor_eq_zero_iff.mp h)
      rw [top, BitVec.msb_eq_getLsbD_last, BitVec.getLsbD_ushiftRight,
        BitVec.getLsbD_of_ge _ _ (by omega)] at same
      cases same
    · rename_i even
      apply BitVec.eq_of_getLsbD_eq
      intro i _
      change r.getLsbD i = (0#w).getLsbD i
      rw [BitVec.getLsbD_zero]
      cases i with
      | zero => exact Bool.eq_false_iff.mpr even
      | succ i =>
        have here := congrArg (BitVec.getLsbD · i) h
        simpa [BitVec.getLsbD_ushiftRight, Nat.add_comm] using here
  intro a b same
  apply BitVec.xor_eq_zero_iff.mp
  apply zero
  rw [shift_xor, same, BitVec.xor_self]
  rfl

/-! ## Messages -/

/-- `n` bits spell a number below `2 ^ n`. -/
lemma value_lt (bits : List Bool) : value bits < 2 ^ bits.length := by
  induction bits with
  | nil => exact Nat.one_pos
  | cons b bits ih =>
    have hb := Bool.toNat_lt b
    rw [value, List.length_cons, pow_succ]
    omega

/-- The bits of a number are determined by it and by how many they are. -/
lemma value_injective {bits bits' : List Bool} (len : bits.length = bits'.length)
    (same : value bits = value bits') : bits = bits' := by
  induction bits generalizing bits' with
  | nil => exact (List.eq_nil_of_length_eq_zero len.symm).symm
  | cons b bits ih =>
    cases bits' with
    | nil => cases len
    | cons b' bits' =>
      have hb := Bool.toNat_lt b
      have hb' := Bool.toNat_lt b'
      rw [value, value] at same
      have first : b = b' := by
        rw [Bool.eq_iff_iff, ← Bool.toNat_eq_one, ← Bool.toNat_eq_one]
        omega
      rw [first, ih (Nat.succ.inj len) (by omega)]

lemma feed_append (r : BitVec w) (bits bits' : List Bool) :
    feed p r (bits ++ bits') = feed p (feed p r bits) bits' :=
  List.foldl_append

/-- Message bits enter the register as a number and are shifted out together, as long as there are
    no more of them than the register is wide. -/
theorem feed_eq (r : BitVec w) {bits : List Bool} (fits : bits.length ≤ w) :
    feed p r bits = (shift p)^[bits.length] (r ^^^ BitVec.ofNat w (value bits)) := by
  induction bits generalizing r with
  | nil =>
    change r = r ^^^ 0#w
    rw [BitVec.xor_zero]
  | cons b bits ih =>
    rw [List.length_cons] at fits
    have lt : 2 * value bits < 2 ^ w :=
      calc 2 * value bits < 2 * 2 ^ bits.length := by have := value_lt bits; omega
        _ = 2 ^ (bits.length + 1) := (pow_succ' ..).symm
        _ ≤ 2 ^ w := Nat.pow_le_pow_right (by decide) fits
    have parts : value (b :: bits) = b.toNat ^^^ 2 * value bits :=
      add_eq_xor (n := 1) (Bool.toNat_lt b)
    have ih := ih (shift p (r ^^^ BitVec.ofNat w b.toNat)) (by omega)
    rw [← shift_double p lt, ← shift_xor, BitVec.xor_assoc, ← BitVec.ofNat_xor, ← parts] at ih
    exact ih

/-- Different registers stay different, whatever is fed. -/
lemma feed_injective (top : p.msb = true) (bits : List Bool) :
    Function.Injective (feed p · bits) := by
  induction bits with
  | nil => exact fun _ _ h => h
  | cons b bits ih =>
    intro r r' same
    have step := shift_injective p top (ih same)
    exact (BitVec.xor_left_inj _).mp step

/-- Burst detection: two messages of one length that differ, but only inside a window of `w` bits,
    leave different registers. -/
theorem feed_ne (top : p.msb = true) (r : BitVec w) {bits bits' : List Bool} {t : Nat}
    (len : bits.length = bits'.length) (differ : bits ≠ bits')
    (window : ∀ i, bits[i]? ≠ bits'[i]? → t ≤ i ∧ i < t + w) :
    feed p r bits ≠ feed p r bits' := by
  have before : bits.take t = bits'.take t := by
    apply List.ext_getElem?
    intro i
    rw [List.getElem?_take, List.getElem?_take]
    split
    · rename_i lt
      by_contra h
      have := window i h
      omega
    · rfl
  have after : (bits.drop t).drop w = (bits'.drop t).drop w := by
    apply List.ext_getElem?
    intro i
    rw [List.drop_drop, List.drop_drop, List.getElem?_drop, List.getElem?_drop]
    by_contra h
    have := window _ h
    omega
  have parts (b : List Bool) : b = b.take t ++ ((b.drop t).take w ++ (b.drop t).drop w) := by
    rw [List.take_append_drop, List.take_append_drop]
  intro same
  rw [parts bits, parts bits', before, after] at same
  simp only [feed_append] at same
  have middle := feed_injective p top _ same
  have fits (b : List Bool) : ((b.drop t).take w).length ≤ w := List.length_take_le ..
  have length : ((bits.drop t).take w).length = ((bits'.drop t).take w).length := by
    simp only [List.length_take, List.length_drop, len]
  rw [feed_eq p _ (fits bits), feed_eq p _ (fits bits'), length] at middle
  have numbers := (BitVec.xor_right_inj _).mp ((shift_injective p top).iterate _ middle)
  have small (b : List Bool) : value ((b.drop t).take w) < 2 ^ w :=
    Nat.lt_of_lt_of_le (value_lt _) (Nat.pow_le_pow_right (by decide) (fits b))
  have numbers := congrArg BitVec.toNat numbers
  rw [BitVec.toNat_ofNat, BitVec.toNat_ofNat, Nat.mod_eq_of_lt (small bits),
    Nat.mod_eq_of_lt (small bits')] at numbers
  apply differ
  rw [parts bits, parts bits', before, after, value_injective length numbers]

/-- It is the same whether a message bit enters the register or meets the bit that leaves it. -/
lemma shift_xor_bit (r : BitVec w) (b : Bool) :
    shift p (r ^^^ BitVec.ofNat w b.toNat) = serial p r b := by
  cases w with
  | zero => exact BitVec.eq_of_zero_length rfl
  | succ w =>
    have low : (r ^^^ BitVec.ofNat (w + 1) b.toNat).getLsbD 0 = (r.getLsbD 0 != b) := by
      have bit : (BitVec.ofNat (w + 1) b.toNat).getLsbD 0 = b := by
        rw [BitVec.getLsbD_ofNat]
        cases b <;> rfl
      rw [BitVec.getLsbD_xor, bit]
    have gone : BitVec.ofNat (w + 1) b.toNat >>> 1 = 0#(w + 1) := by
      apply BitVec.eq_of_toNat_eq
      have lt := Bool.toNat_lt b
      rw [BitVec.toNat_ushiftRight, BitVec.toNat_ofNat, Nat.shiftRight_eq_div_pow, pow_one,
        Nat.div_eq_of_lt (Nat.lt_of_le_of_lt (Nat.mod_le _ _) lt)]
      rfl
    rw [shift, serial, low, BitVec.ushiftRight_xor_distrib, gone, BitVec.xor_zero]

/-- The register, one message bit after the other. -/
theorem feed_eq_serial (r : BitVec w) (bits : List Bool) :
    feed p r bits = bits.foldl (serial p) r := by
  induction bits generalizing r with
  | nil => rfl
  | cons b bits ih =>
    rw [List.foldl_cons, ← shift_xor_bit]
    exact ih _

/-! ## Bytes -/

/-- Bit `i` of a byte string, lowest bit of each byte first. -/
def bit (s : List UInt8) (i : Nat) : Bool := (s.getD (i / 8) 0).toNat.testBit (i % 8)

/-- The bits of a text, those of the first byte first and each byte from the lowest. -/
def bits (s : List UInt8) : List Bool := (List.range (8 * s.length)).map (bit s)

@[simp]
lemma bits_length {s} : (bits s).length = 8 * s.length := by
  rw [bits, List.length_map, List.length_range]

/-- The bits of a byte and those of the rest. -/
lemma bits_cons (b : UInt8) (s : List UInt8) :
    bits (b :: s) = (List.range 8).map b.toNat.testBit ++ bits s := by
  have first : (List.range 8).map (bit (b :: s)) = (List.range 8).map b.toNat.testBit := by
    apply List.map_congr_left
    intro i hi
    have lt := List.mem_range.mp hi
    rw [bit, Nat.div_eq_of_lt lt, Nat.mod_eq_of_lt lt]
    rfl
  have rest (i : Nat) : bit (b :: s) (8 + i) = bit s i := by
    rw [bit, Nat.add_div_left i (by decide), Nat.add_mod_left]
    rfl
  rw [bits, List.length_cons, Nat.mul_succ, Nat.add_comm, List.range_add, List.map_append, first,
    List.map_map]
  congr 1
  exact List.map_congr_left fun i _ => rest i

/-- The bits of two texts one behind the other. -/
lemma bits_append (s t : List UInt8) : bits (s ++ t) = bits s ++ bits t := by
  induction s with
  | nil => rfl
  | cons b s ih => rw [List.cons_append, bits_cons, bits_cons, ih, List.append_assoc]

/-- The lowest `n` bits of a number spell it modulo `2 ^ n`. -/
lemma value_testBits (x n : Nat) : value ((List.range n).map x.testBit) = x % 2 ^ n := by
  induction n generalizing x with
  | zero => rw [pow_zero, Nat.mod_one]; rfl
  | succ n ih =>
    have half : (List.range n).map (x.testBit ∘ Nat.succ) = (List.range n).map (x / 2).testBit :=
      List.map_congr_left fun i _ => Nat.testBit_succ x i
    have low : (decide (x % 2 = 1)).toNat = x % 2 := by
      rcases Nat.mod_two_eq_zero_or_one x with h | h <;> rw [h] <;> rfl
    rw [List.range_succ_eq_map, List.map_cons, List.map_map, half, value, ih, Nat.testBit_zero,
      low, pow_succ', Nat.mod_mul]

/-- The bits behind others count by as much more. -/
lemma value_append (bits bits' : List Bool) :
    value (bits ++ bits') = value bits + 2 ^ bits.length * value bits' := by
  induction bits with
  | nil => rw [List.nil_append, value, List.length_nil, pow_zero, Nat.one_mul, Nat.zero_add]
  | cons b bits ih =>
    rw [List.cons_append, value, ih, value, List.length_cons, pow_succ', Nat.mul_add,
      Nat.mul_assoc, Nat.add_assoc]

/-- As a number the bits of a byte string are its bytes, lowest first. -/
lemma value_bits (s : List UInt8) : value (bits s) = Bytes.ofLE s := by
  induction s with
  | nil => rfl
  | cons b s ih =>
    rw [bits_cons, value_append, value_testBits, ih, List.length_map, List.length_range,
      Nat.mod_eq_of_lt b.toNat_lt]
    rfl

/-- Texts of one length with the same bits are the same. -/
lemma bits_injective {s t : List UInt8} (len : s.length = t.length) (same : bits s = bits t) :
    s = t := by
  have number : Bytes.ofLE s = Bytes.ofLE t := by
    rw [← value_bits, same, value_bits]
  rw [← Bytes.toLE_ofLE_of_length len, number]
  exact Bytes.toLE_ofLE

/-- The position of a bit in its byte. -/
lemma bits_getElem? (s : List UInt8) (i : Nat) :
    (bits s)[i]? = if i < 8 * s.length then some (bit s i) else none := by
  rw [bits, List.getElem?_map]
  split
  · rename_i lt
    rw [List.getElem?_range lt, Option.map_some]
  · rw [List.getElem?_eq_none (by rw [List.length_range]; omega), Option.map_none]

end Crc
