import CppGram.Lib.Bytes

/-!
# Machine conventions

What the modelled functions share with the machine they run on. A `Fault` is how a call can fail to
return: a C++ exception, with its type and its `what()` text, or undefined behaviour (a read outside
of a buffer, a loop that never ends), at which a model stops. A `std::string` is the list of its
bytes. `bytes24`, `bytes32`, `word24` and `word32` are the shift-and-mask sequences the sources
write out wherever a length goes on or off the wire, with the little-endian numbers they denote
(`bytes24_eq`, `bytes32_eq`, `word24_toNat`, `word32_toNat`). `memcpy` is the checked copy out of a
buffer; the bytes of an integer in memory are `Bytes.toLE`/`Bytes.ofLE` at its width: the hosts are
little-endian.
-/

namespace CppGram

/-- How a call fails to return a value. -/
inductive Fault where
  /-- `throw std::runtime_error(what)`. -/
  | runtimeError (what : String)
  /-- `throw std::invalid_argument(what)`. -/
  | invalidArgument (what : String)
  /-- A read outside of the buffer it reads from. -/
  | outOfBounds
  /-- A loop that repeats one turn for ever. -/
  | endlessLoop
  deriving DecidableEq, Repr

/-- C++ `std::string`. -/
abbrev Text := List UInt8

/-- `n` bytes copied out of a buffer from position `i`. -/
def memcpy (buffer : List UInt8) (i n : Nat) : Except Fault (List UInt8) :=
  match Bytes.readSpan buffer i n with
  | some bytes => .ok bytes
  | none => .error .outOfBounds

lemma memcpy_ok {buffer i n} (inside : i + n ≤ buffer.length) :
    memcpy buffer i n = .ok (Bytes.span buffer i n) := by
  rw [memcpy, Bytes.readSpan_of_le inside]

lemma memcpy_error {buffer i n} (outside : buffer.length < i + n) :
    memcpy buffer i n = .error .outOfBounds := by
  rw [memcpy, Bytes.readSpan_of_lt outside]

/-- Four `push_back`s of a 32-bit length, lowest byte first. -/
def bytes32 (n : UInt32) : List UInt8 :=
  [(n &&& 0xff).toUInt8, ((n >>> 8) &&& 0xff).toUInt8, ((n >>> 16) &&& 0xff).toUInt8,
    ((n >>> 24) &&& 0xff).toUInt8]

/-- Three `push_back`s of a length, lowest byte first: its low 24 bits. -/
def bytes24 (n : Nat) : List UInt8 :=
  [(n &&& 0xff).toUInt8, ((n >>> 8) &&& 0xff).toUInt8, ((n >>> 16) &&& 0xff).toUInt8]

/-- `b0 | (b1 << 8) | (b2 << 16)`. -/
def word24 (b0 b1 b2 : UInt8) : UInt32 :=
  b0.toUInt32 ||| (b1.toUInt32 <<< 8) ||| (b2.toUInt32 <<< 16)

/-- `b0 | (b1 << 8) | (b2 << 16) | (b3 << 24)`. -/
def word32 (b0 b1 b2 b3 : UInt8) : UInt32 :=
  b0.toUInt32 ||| (b1.toUInt32 <<< 8) ||| (b2.toUInt32 <<< 16) ||| (b3.toUInt32 <<< 24)

/-- The lowest byte of a word. -/
lemma low_byte {x : UInt32} : (x &&& 0xff).toUInt8 = x.toNat.toUInt8 := by
  apply UInt8.toNat_inj.mp
  have mask : (x &&& 0xff).toNat = x.toNat % 256 :=
    (UInt32.toNat_and x 0xff).trans (Nat.and_two_pow_sub_one_eq_mod x.toNat 8)
  rw [UInt32.toNat_toUInt8, mask, Nat.mod_mod]
  exact UInt8.toNat_ofNat'.symm

lemma toNat_shiftRight {x k : UInt32} (small : k.toNat < 32) :
    (x >>> k).toNat = x.toNat / 2 ^ k.toNat := by
  rw [UInt32.toNat_shiftRight, Nat.mod_eq_of_lt small, Nat.shiftRight_eq_div_pow]

/-- A byte shifted by at most 24 positions loses no bit. -/
lemma toNat_shiftLeft {b : UInt8} {k : UInt32} (small : k.toNat ≤ 24) :
    (b.toUInt32 <<< k).toNat = b.toNat <<< k.toNat := by
  have hb := b.toNat_lt
  have hk : (2 : Nat) ^ k.toNat ≤ 2 ^ 24 := Nat.pow_le_pow_right (by decide) small
  have fits : b.toNat * 2 ^ k.toNat < 2 ^ 32 :=
    calc b.toNat * 2 ^ k.toNat ≤ b.toNat * 2 ^ 24 := Nat.mul_le_mul_left _ hk
      _ < 2 ^ 32 := by omega
  rw [UInt32.toNat_shiftLeft, UInt8.toNat_toUInt32, Nat.mod_eq_of_lt (by omega : k.toNat < 32)]
  exact Nat.mod_eq_of_lt (by rwa [Nat.shiftLeft_eq])

/-- Or-ing a number into free positions adds it. -/
lemma or_shift {a b k : Nat} (low : a < 2 ^ k) : a ||| b <<< k = a + 2 ^ k * b := by
  have sum := Nat.shiftLeft_add_eq_or_of_lt low b
  rw [Nat.or_comm, ← sum, Nat.shiftLeft_eq, Nat.mul_comm, Nat.add_comm]

@[simp]
lemma bytes32_length {n} : (bytes32 n).length = 4 := rfl

/-- The four bytes of a word, the lowest first. -/
lemma bytes32_eq {n} : bytes32 n = Bytes.toLE 4 n.toNat := by
  rw [bytes32, low_byte, low_byte, low_byte, low_byte, toNat_shiftRight (by decide),
    toNat_shiftRight (by decide), toNat_shiftRight (by decide)]
  simp only [Bytes.toLE, Nat.div_div_eq_div_mul]
  rfl

/-- The mask in front of a cast to a byte does nothing. -/
lemma masked_byte (n : Nat) : (n &&& 0xff).toUInt8 = n.toUInt8 := by
  apply UInt8.toNat_inj.mp
  rw [show n &&& 0xff = n % 256 from Nat.and_two_pow_sub_one_eq_mod n 8]
  simp

lemma bytes24_eq {n} : bytes24 n = Bytes.toLE 3 n := by
  simp only [bytes24, masked_byte, Bytes.toLE, Nat.shiftRight_eq_div_pow, Nat.div_div_eq_div_mul]

/-- Three bytes are put together from the lowest. -/
lemma word24_toNat {b0 b1 b2} : (word24 b0 b1 b2).toNat = Bytes.ofLE [b0, b1, b2] := by
  have h0 : b0.toNat < 2 ^ 8 := b0.toNat_lt
  have h1 : b1.toNat < 2 ^ 8 := b1.toNat_lt
  rw [word24, UInt32.toNat_or, UInt32.toNat_or, toNat_shiftLeft (by decide),
    toNat_shiftLeft (by decide), UInt8.toNat_toUInt32, show UInt32.toNat 8 = 8 from rfl,
    show UInt32.toNat 16 = 16 from rfl, or_shift h0, or_shift (by omega)]
  simp only [Bytes.ofLE]
  omega

/-- Four bytes are put together from the lowest. -/
lemma word32_toNat {b0 b1 b2 b3} : (word32 b0 b1 b2 b3).toNat = Bytes.ofLE [b0, b1, b2, b3] := by
  have h0 : b0.toNat < 2 ^ 8 := b0.toNat_lt
  have h1 : b1.toNat < 2 ^ 8 := b1.toNat_lt
  have h2 : b2.toNat < 2 ^ 8 := b2.toNat_lt
  have h24 : (word24 b0 b1 b2).toNat = b0.toNat + 256 * (b1.toNat + 256 * (b2.toNat + 256 * 0)) :=
    word24_toNat
  rw [word32, UInt32.toNat_or, ← word24, h24, toNat_shiftLeft (by decide),
    show UInt32.toNat 24 = 24 from rfl, or_shift (by omega)]
  simp only [Bytes.ofLE]
  omega

end CppGram
