import Mathlib.Tactic.Lemma

/-!
# SHA-1 and SHA-256

The two digests of byte strings, over 32-bit words. Both read the padded message in chunks of
sixteen words; a round takes the first word of a window of sixteen and appends the next word of the
message schedule to it.
-/

namespace Sha

/-! ## Messages -/

/-- A word in four bytes, highest first. -/
def toBE (w : UInt32) : List UInt8 :=
  [(w >>> 24).toUInt8, (w >>> 16).toUInt8, (w >>> 8).toUInt8, w.toUInt8]

/-- The words of a text, each of four bytes with the highest first. -/
def words : List UInt8 → List UInt32
  | a :: b :: c :: d :: rest =>
    (a.toUInt32 <<< 24 ||| b.toUInt32 <<< 16 ||| c.toUInt32 <<< 8 ||| d.toUInt32) :: words rest
  | _ => []

/-- The message with its padding: a one bit, zeros, and the length in bits. -/
def pad (message : List UInt8) : List UInt8 :=
  let bits := message.length * 8
  message ++ 0x80 :: List.replicate ((119 - message.length % 64) % 64) 0 ++
    toBE (bits / 0x100000000).toUInt32 ++ toBE bits.toUInt32

/-- Rotates a word to the left. -/
def rotl (w k : UInt32) : UInt32 := w <<< k ||| w >>> (32 - k)

/-- Rotates a word to the right. -/
def rotr (w k : UInt32) : UInt32 := w >>> k ||| w <<< (32 - k)

/-- Run a compression function over the first chunks of a message. -/
def compressAll {σ : Type} (compress : σ → List UInt32 → σ) : Nat → List UInt32 → σ → σ
  | 0, _, state => state
  | n + 1, message, state =>
    compressAll compress n (message.drop 16) (compress state (message.take 16))

/-- The window of the last sixteen words, moved on by one. -/
def slide (window : List UInt32) (next : UInt32) : List UInt32 := window.drop 1 ++ [next]

/-! ## SHA-256 -/

/-- The eight words of the state of SHA-256. -/
structure State256 where
  (a b c d e f g h : UInt32)
  deriving DecidableEq, Repr

/-- Adds two states word by word. -/
def State256.add (s t : State256) : State256 :=
  ⟨s.a + t.a, s.b + t.b, s.c + t.c, s.d + t.d, s.e + t.e, s.f + t.f, s.g + t.g, s.h + t.h⟩

/-- The state before the first chunk. -/
def initial256 : State256 :=
  ⟨0x6a09e667, 0xbb67ae85, 0x3c6ef372, 0xa54ff53a, 0x510e527f, 0x9b05688c, 0x1f83d9ab, 0x5be0cd19⟩

/-- The word that each of the 64 rounds adds. -/
def constants256 : List UInt32 := [
  0x428a2f98, 0x71374491, 0xb5c0fbcf, 0xe9b5dba5, 0x3956c25b, 0x59f111f1, 0x923f82a4, 0xab1c5ed5,
  0xd807aa98, 0x12835b01, 0x243185be, 0x550c7dc3, 0x72be5d74, 0x80deb1fe, 0x9bdc06a7, 0xc19bf174,
  0xe49b69c1, 0xefbe4786, 0x0fc19dc6, 0x240ca1cc, 0x2de92c6f, 0x4a7484aa, 0x5cb0a9dc, 0x76f988da,
  0x983e5152, 0xa831c66d, 0xb00327c8, 0xbf597fc7, 0xc6e00bf3, 0xd5a79147, 0x06ca6351, 0x14292967,
  0x27b70a85, 0x2e1b2138, 0x4d2c6dfc, 0x53380d13, 0x650a7354, 0x766a0abb, 0x81c2c92e, 0x92722c85,
  0xa2bfe8a1, 0xa81a664b, 0xc24b8b70, 0xc76c51a3, 0xd192e819, 0xd6990624, 0xf40e3585, 0x106aa070,
  0x19a4c116, 0x1e376c08, 0x2748774c, 0x34b0bcb5, 0x391c0cb3, 0x4ed8aa4a, 0x5b9cca4f, 0x682e6ff3,
  0x748f82ee, 0x78a5636f, 0x84c87814, 0x8cc70208, 0x90befffa, 0xa4506ceb, 0xbef9a3f7, 0xc67178f2]

/-- The word of the schedule behind a window. -/
def next256 (window : List UInt32) : UInt32 :=
  let w1 := window.getD 1 0
  let w14 := window.getD 14 0
  (rotr w14 17 ^^^ rotr w14 19 ^^^ w14 >>> 10) + window.getD 9 0 +
    (rotr w1 7 ^^^ rotr w1 18 ^^^ w1 >>> 3) + window.getD 0 0

/-- One round, with its constant and its word of the schedule. -/
def round256 (s : State256) (k w : UInt32) : State256 :=
  let t1 := s.h + (rotr s.e 6 ^^^ rotr s.e 11 ^^^ rotr s.e 25) +
    ((s.e &&& s.f) ^^^ (~~~s.e &&& s.g)) + k + w
  let t2 := (rotr s.a 2 ^^^ rotr s.a 13 ^^^ rotr s.a 22) +
    ((s.a &&& s.b) ^^^ (s.a &&& s.c) ^^^ (s.b &&& s.c))
  ⟨t1 + t2, s.a, s.b, s.c, s.d + t1, s.e, s.f, s.g⟩

/-- A round for each constant, the schedule computed in a window of sixteen words. -/
def rounds256 : List UInt32 → List UInt32 → State256 → State256
  | [], _, s => s
  | k :: ks, window, s =>
    rounds256 ks (slide window (next256 window)) (round256 s k (window.getD 0 0))

/-- The rounds over a chunk, added to the state before them. -/
def compress256 (s : State256) (chunk : List UInt32) : State256 :=
  s.add (rounds256 constants256 chunk s)

/-- The digest of a message. -/
def sha256 (message : List UInt8) : List UInt8 :=
  let padded := pad message
  let s := compressAll compress256 (padded.length / 64) (words padded) initial256
  toBE s.a ++ toBE s.b ++ toBE s.c ++ toBE s.d ++ toBE s.e ++ toBE s.f ++ toBE s.g ++ toBE s.h

/-- A digest has 32 bytes. -/
lemma sha256_length (message : List UInt8) : (sha256 message).length = 32 := rfl

/-! ## SHA-1 -/

/-- The five words of the state of SHA-1. -/
structure State1 where
  (a b c d e : UInt32)
  deriving DecidableEq, Repr

/-- Adds two states word by word. -/
def State1.add (s t : State1) : State1 := ⟨s.a + t.a, s.b + t.b, s.c + t.c, s.d + t.d, s.e + t.e⟩

/-- The state before the first chunk. -/
def initial1 : State1 := ⟨0x67452301, 0xefcdab89, 0x98badcfe, 0x10325476, 0xc3d2e1f0⟩

/-- The next word of the schedule of SHA-1. -/
def next1 (window : List UInt32) : UInt32 :=
  rotl (window.getD 13 0 ^^^ window.getD 8 0 ^^^ window.getD 2 0 ^^^ window.getD 0 0) 1

/-- The function and the constant of a round, by how many rounds are left. -/
def mix1 (left : Nat) (b c d : UInt32) : UInt32 :=
  if 60 < left then ((b &&& c) ^^^ (~~~b &&& d)) + 0x5a827999
  else if 40 < left then (b ^^^ c ^^^ d) + 0x6ed9eba1
  else if 20 < left then ((b &&& c) ^^^ (b &&& d) ^^^ (c &&& d)) + 0x8f1bbcdc
  else (b ^^^ c ^^^ d) + 0xca62c1d6

/-- The rounds that are left, counted down from 80. -/
def rounds1 : Nat → List UInt32 → State1 → State1
  | 0, _, s => s
  | left + 1, window, s =>
    let t := rotl s.a 5 + mix1 (left + 1) s.b s.c s.d + s.e + window.getD 0 0
    rounds1 left (slide window (next1 window)) ⟨t, s.a, rotl s.b 30, s.c, s.d⟩

/-- The rounds over a chunk, added to the state before them. -/
def compress1 (s : State1) (chunk : List UInt32) : State1 := s.add (rounds1 80 chunk s)

/-- The digest of a message. -/
def sha1 (message : List UInt8) : List UInt8 :=
  let padded := pad message
  let s := compressAll compress1 (padded.length / 64) (words padded) initial1
  toBE s.a ++ toBE s.b ++ toBE s.c ++ toBE s.d ++ toBE s.e

/-- A digest has 20 bytes. -/
lemma sha1_length (message : List UInt8) : (sha1 message).length = 20 := rfl

/-- The digests of the message `abc`. -/
example : (sha256 [0x61, 0x62, 0x63]).take 8 = [0xba, 0x78, 0x16, 0xbf, 0x8f, 0x01, 0xcf, 0xea] ∧
    (sha1 [0x61, 0x62, 0x63]).take 8 = [0xa9, 0x99, 0x3e, 0x36, 0x47, 0x06, 0x81, 0x6a] := by
  decide +kernel

end Sha
