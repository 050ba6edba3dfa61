import Mathlib.Tactic.Lemma
import Mathlib.Tactic.Ring

/-!
# Byte strings

Little-endian numbers and contiguous spans of byte strings, for formats that put fixed-width
integers in front of variable-length bodies. `toLE w n` writes `n` in `w` bytes, `ofLE` reads a
number back, and the two are inverse on numbers below `256 ^ w` and on strings of `w` bytes.
`span s i n` is the `n` entries from position `i`; `readSpan` is the same read with its bounds
check, which is how a C-style copy out of a buffer is modelled: `none` is the access that leaves
the buffer.
-/

namespace Bytes

/-- The `w` least significant bytes of `n`, lowest first. -/
def toLE : Nat → Nat → List UInt8
  | 0, _ => []
  | w + 1, n => n.toUInt8 :: toLE w (n / 256)

/-- The number whose bytes, lowest first, are given. -/
def ofLE : List UInt8 → Nat
  | [] => 0
  | b :: bs => b.toNat + 256 * ofLE bs

@[simp]
lemma toLE_length {w n} : (toLE w n).length = w := by
  induction w generalizing n with
  | zero => rfl
  | succ w ih => rw [toLE, List.length_cons, ih]

/-- Reading what was written gives the number modulo the width. -/
lemma ofLE_toLE {w n} : ofLE (toLE w n) = n % 256 ^ w := by
  induction w generalizing n with
  | zero => simp [toLE, ofLE, Nat.mod_one]
  | succ w ih =>
    have low : n.toUInt8.toNat = n % 256 := by simp
    rw [toLE, ofLE, ih, low, pow_succ', Nat.mod_mul]

lemma ofLE_toLE_of_lt {w n} (fits : n < 256 ^ w) : ofLE (toLE w n) = n := by
  rw [ofLE_toLE, Nat.mod_eq_of_lt fits]

/-- `n` bytes spell a number below `256 ^ n`. -/
lemma ofLE_lt (bs : List UInt8) : ofLE bs < 256 ^ bs.length := by
  induction bs with
  | nil => simp [ofLE]
  | cons b bs ih =>
    have hb : b.toNat < 256 := b.toNat_lt
    rw [ofLE, List.length_cons, pow_succ]
    omega

/-- Bytes are written back as they were read. -/
lemma toLE_ofLE {bs} : toLE bs.length (ofLE bs) = bs := by
  induction bs with
  | nil => rfl
  | cons b bs ih =>
    have hb : b.toNat < 256 := b.toNat_lt
    have low : (b.toNat + 256 * ofLE bs).toUInt8 = b := by
      apply UInt8.toNat_inj.mp
      simp
    have high : (b.toNat + 256 * ofLE bs) / 256 = ofLE bs := by omega
    rw [List.length_cons, ofLE, toLE, low, high, ih]

lemma toLE_ofLE_of_length {w bs} (len : bs.length = w) : toLE w (ofLE bs) = bs := by
  subst len
  exact toLE_ofLE

/-- The width is all that is written of a number. -/
lemma toLE_mod {w n} : toLE w (n % 256 ^ w) = toLE w n := by
  rw [← ofLE_toLE]
  exact toLE_ofLE_of_length toLE_length

/-- The `n` entries of `s` from position `i`. -/
def span {α} (s : List α) (i n : Nat) : List α := (s.drop i).take n

/-- A read of `n` entries at position `i`, refused when it leaves `s`. -/
def readSpan {α} (s : List α) (i n : Nat) : Option (List α) :=
  if i + n ≤ s.length then some (span s i n) else none

/-- A span inside the list has the length asked for. -/
lemma span_length {α} {s : List α} {i n} (inside : i + n ≤ s.length) :
    (span s i n).length = n := by
  rw [span, List.length_take, List.length_drop]
  omega

lemma readSpan_of_le {α} {s : List α} {i n} (inside : i + n ≤ s.length) :
    readSpan s i n = some (span s i n) :=
  if_pos inside

lemma readSpan_of_lt {α} {s : List α} {i n} (outside : s.length < i + n) :
    readSpan s i n = none :=
  if_neg (by omega)

/-- The span that starts right after `s` and is as long as `t` is `t`. -/
lemma span_middle {α} {s t u : List α} {i n} (at_end : i = s.length) (len : n = t.length) :
    span (s ++ (t ++ u)) i n = t := by
  subst at_end len
  rw [span, List.drop_left, List.take_left]

lemma span_drop {α} {s : List α} {o i n} : span (s.drop o) i n = span s (o + i) n := by
  rw [span, span, List.drop_drop]

lemma span_eq_drop {α} {s : List α} {i n} : span s i n = (s.take (i + n)).drop i := by
  rw [span, List.take_drop]

lemma span_take {α} {s : List α} {i m n} (inside : i + m ≤ n) :
    span (s.take n) i m = span s i m := by
  rw [span, span, List.drop_take, List.take_take, Nat.min_eq_left (by omega)]

lemma drop_eq_cons {α} {s : List α} {o} (h : o < s.length) : s.drop o = s[o] :: s.drop (o + 1) :=
  List.drop_eq_getElem_cons h

/-- Four elements at the front of what is left of a list. -/
lemma drop_eq_cons4 {α} {s : List α} {o} (h : o + 4 ≤ s.length) :
    s.drop o = s[o] :: s[o + 1] :: s[o + 2] :: s[o + 3] :: s.drop (o + 4) := by
  rw [drop_eq_cons (by omega), drop_eq_cons (by omega), drop_eq_cons (by omega),
    drop_eq_cons (by omega)]

end Bytes
