import Mathlib.Tactic.Lemma

/-!
# AES-256

The block cipher on states of four columns of four bytes, in both directions, with its key schedule.
`decrypt_encrypt` is proved step by step: each of the four layers of a round has an inverse, and the
rounds are undone from the last to the first.
-/

namespace Aes

/-- A column of the state, or a word of the key schedule. -/
@[ext]
structure Column where
  (b0 b1 b2 b3 : UInt8)
  deriving DecidableEq, Repr

/-- The four columns of a block. -/
@[ext]
structure State where
  (c0 c1 c2 c3 : Column)
  deriving DecidableEq, Repr

/-! ## The layers of a round -/

/-- The substitution of bytes, as a table. -/
def sboxTable : List UInt8 := [
  0x63, 0x7c, 0x77, 0x7b, 0xf2, 0x6b, 0x6f, 0xc5, 0x30, 0x01, 0x67, 0x2b, 0xfe, 0xd7, 0xab, 0x76,
  0xca, 0x82, 0xc9, 0x7d, 0xfa, 0x59, 0x47, 0xf0, 0xad, 0xd4, 0xa2, 0xaf, 0x9c, 0xa4, 0x72, 0xc0,
  0xb7, 0xfd, 0x93, 0x26, 0x36, 0x3f, 0xf7, 0xcc, 0x34, 0xa5, 0xe5, 0xf1, 0x71, 0xd8, 0x31, 0x15,
  0x04, 0xc7, 0x23, 0xc3, 0x18, 0x96, 0x05, 0x9a, 0x07, 0x12, 0x80, 0xe2, 0xeb, 0x27, 0xb2, 0x75,
  0x09, 0x83, 0x2c, 0x1a, 0x1b, 0x6e, 0x5a, 0xa0, 0x52, 0x3b, 0xd6, 0xb3, 0x29, 0xe3, 0x2f, 0x84,
  0x53, 0xd1, 0x00, 0xed, 0x20, 0xfc, 0xb1, 0x5b, 0x6a, 0xcb, 0xbe, 0x39, 0x4a, 0x4c, 0x58, 0xcf,
  0xd0, 0xef, 0xaa, 0xfb, 0x43, 0x4d, 0x33, 0x85, 0x45, 0xf9, 0x02, 0x7f, 0x50, 0x3c, 0x9f, 0xa8,
  0x51, 0xa3, 0x40, 0x8f, 0x92, 0x9d, 0x38, 0xf5, 0xbc, 0xb6, 0xda, 0x21, 0x10, 0xff, 0xf3, 0xd2,
  0xcd, 0x0c, 0x13, 0xec, 0x5f, 0x97, 0x44, 0x17, 0xc4, 0xa7, 0x7e, 0x3d, 0x64, 0x5d, 0x19, 0x73,
  0x60, 0x81, 0x4f, 0xdc, 0x22, 0x2a, 0x90, 0x88, 0x46, 0xee, 0xb8, 0x14, 0xde, 0x5e, 0x0b, 0xdb,
  0xe0, 0x32, 0x3a, 0x0a, 0x49, 0x06, 0x24, 0x5c, 0xc2, 0xd3, 0xac, 0x62, 0x91, 0x95, 0xe4, 0x79,
  0xe7, 0xc8, 0x37, 0x6d, 0x8d, 0xd5, 0x4e, 0xa9, 0x6c, 0x56, 0xf4, 0xea, 0x65, 0x7a, 0xae, 0x08,
  0xba, 0x78, 0x25, 0x2e, 0x1c, 0xa6, 0xb4, 0xc6, 0xe8, 0xdd, 0x74, 0x1f, 0x4b, 0xbd, 0x8b, 0x8a,
  0x70, 0x3e, 0xb5, 0x66, 0x48, 0x03, 0xf6, 0x0e, 0x61, 0x35, 0x57, 0xb9, 0x86, 0xc1, 0x1d, 0x9e,
  0xe1, 0xf8, 0x98, 0x11, 0x69, 0xd9, 0x8e, 0x94, 0x9b, 0x1e, 0x87, 0xe9, 0xce, 0x55, 0x28, 0xdf,
  0x8c, 0xa1, 0x89, 0x0d, 0xbf, 0xe6, 0x42, 0x68, 0x41, 0x99, 0x2d, 0x0f, 0xb0, 0x54, 0xbb, 0x16]

/-- Its inverse, as a table. -/
def invSboxTable : List UInt8 := [
  0x52, 0x09, 0x6a, 0xd5, 0x30, 0x36, 0xa5, 0x38, 0xbf, 0x40, 0xa3, 0x9e, 0x81, 0xf3, 0xd7, 0xfb,
  0x7c, 0xe3, 0x39, 0x82, 0x9b, 0x2f, 0xff, 0x87, 0x34, 0x8e, 0x43, 0x44, 0xc4, 0xde, 0xe9, 0xcb,
  0x54, 0x7b, 0x94, 0x32, 0xa6, 0xc2, 0x23, 0x3d, 0xee, 0x4c, 0x95, 0x0b, 0x42, 0xfa, 0xc3, 0x4e,
  0x08, 0x2e, 0xa1, 0x66, 0x28, 0xd9, 0x24, 0xb2, 0x76, 0x5b, 0xa2, 0x49, 0x6d, 0x8b, 0xd1, 0x25,
  0x72, 0xf8, 0xf6, 0x64, 0x86, 0x68, 0x98, 0x16, 0xd4, 0xa4, 0x5c, 0xcc, 0x5d, 0x65, 0xb6, 0x92,
  0x6c, 0x70, 0x48, 0x50, 0xfd, 0xed, 0xb9, 0xda, 0x5e, 0x15, 0x46, 0x57, 0xa7, 0x8d, 0x9d, 0x84,
  0x90, 0xd8, 0xab, 0x00, 0x8c, 0xbc, 0xd3, 0x0a, 0xf7, 0xe4, 0x58, 0x05, 0xb8, 0xb3, 0x45, 0x06,
  0xd0, 0x2c, 0x1e, 0x8f, 0xca, 0x3f, 0x0f, 0x02, 0xc1, 0xaf, 0xbd, 0x03, 0x01, 0x13, 0x8a, 0x6b,
  0x3a, 0x91, 0x11, 0x41, 0x4f, 0x67, 0xdc, 0xea, 0x97, 0xf2, 0xcf, 0xce, 0xf0, 0xb4, 0xe6, 0x73,
  0x96, 0xac, 0x74, 0x22, 0xe7, 0xad, 0x35, 0x85, 0xe2, 0xf9, 0x37, 0xe8, 0x1c, 0x75, 0xdf, 0x6e,
  0x47, 0xf1, 0x1a, 0x71, 0x1d, 0x29, 0xc5, 0x89, 0x6f, 0xb7, 0x62, 0x0e, 0xaa, 0x18, 0xbe, 0x1b,
  0xfc, 0x56, 0x3e, 0x4b, 0xc6, 0xd2, 0x79, 0x20, 0x9a, 0xdb, 0xc0, 0xfe, 0x78, 0xcd, 0x5a, 0xf4,
  0x1f, 0xdd, 0xa8, 0x33, 0x88, 0x07, 0xc7, 0x31, 0xb1, 0x12, 0x10, 0x59, 0x27, 0x80, 0xec, 0x5f,
  0x60, 0x51, 0x7f, 0xa9, 0x19, 0xb5, 0x4a, 0x0d, 0x2d, 0xe5, 0x7a, 0x9f, 0x93, 0xc9, 0x9c, 0xef,
  0xa0, 0xe0, 0x3b, 0x4d, 0xae, 0x2a, 0xf5, 0xb0, 0xc8, 0xeb, 0xbb, 0x3c, 0x83, 0x53, 0x99, 0x61,
  0x17, 0x2b, 0x04, 0x7e, 0xba, 0x77, 0xd6, 0x26, 0xe1, 0x69, 0x14, 0x63, 0x55, 0x21, 0x0c, 0x7d]

/-- The byte that stands for `b` in the table. -/
def sbox (b : UInt8) : UInt8 := sboxTable.getD b.toNat 0

/-- The byte that stands for `b` in the table of the inverse. -/
def invSbox (b : UInt8) : UInt8 := invSboxTable.getD b.toNat 0

/-- Multiplication by `x` in the field of 256 elements. -/
def xtime (b : UInt8) : UInt8 :=
  let high := b >>> 7
  (b <<< 1) ^^^ high ^^^ (high <<< 1) ^^^ (high <<< 3) ^^^ (high <<< 4)

/-- Applies a function to each byte of a column. -/
def Column.map (f : UInt8 → UInt8) (c : Column) : Column := ⟨f c.b0, f c.b1, f c.b2, f c.b3⟩

/-- Adds two columns byte by byte. -/
def Column.xor (c d : Column) : Column :=
  ⟨c.b0 ^^^ d.b0, c.b1 ^^^ d.b1, c.b2 ^^^ d.b2, c.b3 ^^^ d.b3⟩

/-- Two times the first byte, three times the second, the third and the fourth. -/
def mixByte (a b c d : UInt8) : UInt8 := xtime a ^^^ (xtime b ^^^ b) ^^^ c ^^^ d

/-- 14 times the first byte, 11 times the second, 13 times the third and 9 times the fourth. -/
def invMixByte (a b c d : UInt8) : UInt8 :=
  (xtime (xtime (xtime a)) ^^^ xtime (xtime a) ^^^ xtime a) ^^^
    (xtime (xtime (xtime b)) ^^^ xtime b ^^^ b) ^^^
    (xtime (xtime (xtime c)) ^^^ xtime (xtime c) ^^^ c) ^^^ (xtime (xtime (xtime d)) ^^^ d)

/-- Each byte of the new column mixes all four of the old one. -/
def Column.mix (c : Column) : Column :=
  ⟨mixByte c.b0 c.b1 c.b2 c.b3, mixByte c.b1 c.b2 c.b3 c.b0, mixByte c.b2 c.b3 c.b0 c.b1,
    mixByte c.b3 c.b0 c.b1 c.b2⟩

/-- The inverse of `mix`. -/
def Column.invMix (c : Column) : Column :=
  ⟨invMixByte c.b0 c.b1 c.b2 c.b3, invMixByte c.b1 c.b2 c.b3 c.b0, invMixByte c.b2 c.b3 c.b0 c.b1,
    invMixByte c.b3 c.b0 c.b1 c.b2⟩

/-- Applies a function to each column. -/
def State.map (f : Column → Column) (s : State) : State := ⟨f s.c0, f s.c1, f s.c2, f s.c3⟩

/-- Adds a round key. -/
def State.xor (s k : State) : State :=
  ⟨s.c0.xor k.c0, s.c1.xor k.c1, s.c2.xor k.c2, s.c3.xor k.c3⟩

/-- Row `i` goes `i` places to the left. -/
def State.shiftRows (s : State) : State :=
  ⟨⟨s.c0.b0, s.c1.b1, s.c2.b2, s.c3.b3⟩, ⟨s.c1.b0, s.c2.b1, s.c3.b2, s.c0.b3⟩,
    ⟨s.c2.b0, s.c3.b1, s.c0.b2, s.c1.b3⟩, ⟨s.c3.b0, s.c0.b1, s.c1.b2, s.c2.b3⟩⟩

/-- Row `i` goes `i` places to the right. -/
def State.invShiftRows (s : State) : State :=
  ⟨⟨s.c0.b0, s.c3.b1, s.c2.b2, s.c1.b3⟩, ⟨s.c1.b0, s.c0.b1, s.c3.b2, s.c2.b3⟩,
    ⟨s.c2.b0, s.c1.b1, s.c0.b2, s.c3.b3⟩, ⟨s.c3.b0, s.c2.b1, s.c1.b2, s.c0.b3⟩⟩

/-! ## The layers are invertible -/

/-- The second table undoes the first. -/
lemma invSbox_sbox (b : UInt8) : invSbox (sbox b) = b := by
  have all : ∀ n < 256, invSbox (sbox n.toUInt8) = n.toUInt8 := by decide +kernel
  have here := all b.toNat b.toNat_lt
  rwa [show b.toNat.toUInt8 = b from UInt8.ofNat_toNat] at here

/-- Adding a byte twice adds nothing. -/
lemma xor_cancel (a b : UInt8) : a ^^^ b ^^^ b = a := by
  rw [UInt8.xor_assoc, UInt8.xor_self, UInt8.xor_zero]

/-- Sums of three bytes in another order. -/
lemma xor_left_comm (a b c : UInt8) : a ^^^ (b ^^^ c) = b ^^^ (a ^^^ c) := by
  rw [← UInt8.xor_assoc, UInt8.xor_comm a b, UInt8.xor_assoc]

/-- A byte added to itself and to another one leaves the other. -/
lemma xor_self_left (a b : UInt8) : a ^^^ (a ^^^ b) = b := by
  rw [← UInt8.xor_assoc, UInt8.xor_self, UInt8.zero_xor]

/-- Doubling is linear. -/
lemma xtime_xor (a b : UInt8) : xtime (a ^^^ b) = xtime a ^^^ xtime b := by
  simp only [xtime, UInt8.shiftLeft_xor, UInt8.shiftRight_xor, UInt8.xor_assoc, UInt8.xor_comm,
    xor_left_comm]

/-- The inverse of mixing is linear. -/
lemma invMixByte_xor (a b c d a' b' c' d' : UInt8) :
    invMixByte (a ^^^ a') (b ^^^ b') (c ^^^ c') (d ^^^ d') =
      invMixByte a b c d ^^^ invMixByte a' b' c' d' := by
  simp only [invMixByte, xtime_xor]
  generalize xtime (xtime (xtime a)) = a3, xtime (xtime a) = a2, xtime a = a1
  ac_rfl

/-- The coefficients of the two column maps multiply to those of the identity. -/
lemma invMixByte_coefficients (a : UInt8) :
    invMixByte (xtime a) a a (xtime a ^^^ a) = a ∧
    invMixByte (xtime a ^^^ a) (xtime a) a a = 0 ∧
    invMixByte a (xtime a ^^^ a) (xtime a) a = 0 ∧
    invMixByte a a (xtime a ^^^ a) (xtime a) = 0 := by
  simp only [invMixByte, xtime_xor]
  generalize xtime (xtime (xtime (xtime a))) = a4, xtime (xtime (xtime a)) = a3,
    xtime (xtime a) = a2, xtime a = a1
  simp only [UInt8.xor_comm, xor_left_comm, xor_self_left, UInt8.xor_self, UInt8.xor_zero, and_self]

/-- Unmixing undoes mixing, at the first byte of a column. -/
lemma invMixByte_mixByte (a b c d : UInt8) :
    invMixByte (mixByte a b c d) (mixByte b c d a) (mixByte c d a b) (mixByte d a b c) = a := by
  have first : mixByte a b c d = xtime a ^^^ ((xtime b ^^^ b) ^^^ (c ^^^ d)) := by
    rw [mixByte]
    ac_rfl
  have second : mixByte b c d a = a ^^^ (xtime b ^^^ ((xtime c ^^^ c) ^^^ d)) := by
    rw [mixByte]
    ac_rfl
  have third : mixByte c d a b = a ^^^ (b ^^^ (xtime c ^^^ (xtime d ^^^ d))) := by
    rw [mixByte]
    ac_rfl
  have fourth : mixByte d a b c = (xtime a ^^^ a) ^^^ (b ^^^ (c ^^^ xtime d)) := by
    rw [mixByte]
    ac_rfl
  rw [first, second, third, fourth, invMixByte_xor, invMixByte_xor, invMixByte_xor,
    (invMixByte_coefficients a).1, (invMixByte_coefficients b).2.1,
    (invMixByte_coefficients c).2.2.1, (invMixByte_coefficients d).2.2.2]
  simp only [UInt8.xor_zero]

/-- Unmixing undoes mixing. -/
lemma Column.invMix_mix (c : Column) : c.mix.invMix = c :=
  Column.ext (invMixByte_mixByte ..) (invMixByte_mixByte ..) (invMixByte_mixByte ..)
    (invMixByte_mixByte ..)

/-- The inverse substitution undoes the substitution in a column. -/
lemma Column.map_invSbox_sbox (c : Column) : (c.map sbox).map invSbox = c :=
  Column.ext (invSbox_sbox _) (invSbox_sbox _) (invSbox_sbox _) (invSbox_sbox _)

/-- Adding a column twice adds nothing. -/
lemma Column.xor_cancel (c d : Column) : (c.xor d).xor d = c :=
  Column.ext (Aes.xor_cancel ..) (Aes.xor_cancel ..) (Aes.xor_cancel ..) (Aes.xor_cancel ..)

/-- Adding a round key twice adds nothing. -/
lemma State.xor_cancel (s k : State) : (s.xor k).xor k = s :=
  State.ext (Column.xor_cancel ..) (Column.xor_cancel ..) (Column.xor_cancel ..)
    (Column.xor_cancel ..)

/-- What is undone in each column is undone in the block. -/
lemma State.map_cancel {f g : Column → Column} (cancel : ∀ c, g (f c) = c) (s : State) :
    (s.map f).map g = s :=
  State.ext (cancel _) (cancel _) (cancel _) (cancel _)

/-! ## Rounds -/

/-- The substitution and the shift of the rows. -/
def State.substitute (s : State) : State := (s.map (·.map sbox)).shiftRows

/-- Rows back to their places, then the inverse substitution. -/
def State.invSubstitute (s : State) : State := s.invShiftRows.map (·.map invSbox)

/-- Substitution and shift are undone. -/
lemma State.invSubstitute_substitute (s : State) : s.substitute.invSubstitute = s :=
  State.map_cancel Column.map_invSbox_sbox s

/-- The rounds under the given keys; the last one does not mix the columns. -/
def rounds : List State → State → State
  | [], s => s
  | [k], s => s.substitute.xor k
  | k :: ks, s => rounds ks ((s.substitute.map Column.mix).xor k)

/-- The inverse of `rounds`, with the round keys from the last to the first. -/
def invRounds : List State → State → State
  | [], s => s
  | [k], s => (s.xor k).invSubstitute
  | k :: ks, s => (((invRounds ks s).xor k).map Column.invMix).invSubstitute

/-- The rounds are undone one by one. -/
lemma invRounds_rounds (ks : List State) (s : State) : invRounds ks (rounds ks s) = s := by
  induction ks generalizing s with
  | nil => rfl
  | cons k ks ih =>
    cases ks with
    | nil => rw [rounds, invRounds, State.xor_cancel, State.invSubstitute_substitute]
    | cons k' ks =>
      rw [rounds, invRounds, ih, State.xor_cancel, State.map_cancel Column.invMix_mix,
        State.invSubstitute_substitute]
      · exact List.cons_ne_nil _ _
      · exact List.cons_ne_nil _ _

/-! ## The key schedule -/

/-- The next eight words of the key schedule. -/
def nextKeys (rcon : UInt8) (w : State × State) : State × State :=
  let last := w.2.c3
  let t : Column := ⟨sbox last.b1 ^^^ rcon, sbox last.b2, sbox last.b3, sbox last.b0⟩
  let w0 := w.1.c0.xor t
  let w1 := w.1.c1.xor w0
  let w2 := w.1.c2.xor w1
  let w3 := w.1.c3.xor w2
  let w4 := w.2.c0.xor (w3.map sbox)
  let w5 := w.2.c1.xor w4
  let w6 := w.2.c2.xor w5
  let w7 := w.2.c3.xor w6
  (⟨w0, w1, w2, w3⟩, ⟨w4, w5, w6, w7⟩)

/-- Round keys from the given eight words on. -/
def roundKeys : List UInt8 → State × State → List State
  | [], w => [w.1]
  | rcon :: rcons, w => w.1 :: w.2 :: roundKeys rcons (nextKeys rcon w)

/-- The column that begins at byte `i`. -/
def columnAt (bytes : List UInt8) (i : Nat) : Column :=
  ⟨bytes.getD i 0, bytes.getD (i + 1) 0, bytes.getD (i + 2) 0, bytes.getD (i + 3) 0⟩

/-- The state that 16 bytes make, column by column. -/
def stateAt (bytes : List UInt8) (i : Nat) : State :=
  ⟨columnAt bytes i, columnAt bytes (i + 4), columnAt bytes (i + 8), columnAt bytes (i + 12)⟩

/-- The bytes of a column from top to bottom. -/
def Column.toList (c : Column) : List UInt8 := [c.b0, c.b1, c.b2, c.b3]

/-- The bytes of a block, column by column. -/
def State.toList (s : State) : List UInt8 :=
  s.c0.toList ++ s.c1.toList ++ s.c2.toList ++ s.c3.toList

/-- A block is read back from its bytes. -/
lemma stateAt_toList (s : State) : stateAt s.toList 0 = s := rfl

/-- Sixteen bytes are written back as they were read. -/
lemma toList_stateAt {bytes : List UInt8} (len : bytes.length = 16) :
    (stateAt bytes 0).toList = bytes := by
  match bytes, len with
  | [_, _, _, _, _, _, _, _, _, _, _, _, _, _, _, _], _ => rfl

/-- The fifteen round keys of a key of 32 bytes. -/
def expandKey (key : List UInt8) : List State :=
  roundKeys [0x01, 0x02, 0x04, 0x08, 0x10, 0x20, 0x40] (stateAt key 0, stateAt key 16)

/-! ## The cipher -/

/-- The cipher on 16 bytes under a key of 32 bytes. -/
def encrypt (key block : List UInt8) : List UInt8 :=
  match expandKey key with
  | [] => block
  | k :: ks => (rounds ks ((stateAt block 0).xor k)).toList

/-- Decrypts one block. -/
def decrypt (key block : List UInt8) : List UInt8 :=
  match expandKey key with
  | [] => block
  | k :: ks => ((invRounds ks (stateAt block 0)).xor k).toList

/-- A block is encrypted to a block. -/
lemma encrypt_length {key block : List UInt8} (len : block.length = 16) :
    (encrypt key block).length = 16 := by
  rw [encrypt]
  split
  · exact len
  · rfl

/-- A block is decrypted to a block. -/
lemma decrypt_length {key block : List UInt8} (len : block.length = 16) :
    (decrypt key block).length = 16 := by
  rw [decrypt]
  split
  · exact len
  · rfl

/-- Decryption undoes encryption, under every key. -/
theorem decrypt_encrypt {key block : List UInt8} (len : block.length = 16) :
    decrypt key (encrypt key block) = block := by
  rw [encrypt, decrypt]
  cases expandKey key with
  | nil => rfl
  | cons k ks =>
    simp only
    rw [stateAt_toList, invRounds_rounds, State.xor_cancel, toList_stateAt len]

/-- The example vector of the standard for 256-bit keys. -/
example :
    encrypt ((List.range 32).map (·.toUInt8)) ((List.range 16).map fun i => (i * 17).toUInt8) = [
      0x8e, 0xa2, 0xb7, 0xca, 0x51, 0x67, 0x45, 0xbf, 0xea, 0xfc, 0x49, 0x90, 0x4b, 0x49, 0x60,
      0x89] := by
  decide +kernel

end Aes
