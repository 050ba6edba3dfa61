import Mathlib.Data.Fintype.Vector
import Mathlib.Data.List.TakeDrop
import Mathlib.Tactic.Lemma

/-!
# Blocks and infinite garble extension

A string is split into blocks of `w` entries and joined again (`join_split`, `split_join`). On
blocks, `encrypt` and `decrypt` are the IGE mode of a block cipher: each block is masked with the
ciphertext block before it on the way in and with the plaintext block before it on the way out. The
masking is any operation that undoes itself, the cipher any pair of functions; one mode undoes the
other when one function undoes the other (`decrypt_encrypt`, `encrypt_decrypt`). What an encrypted
block is in terms of the blocks before it is `encrypt_getElem?`.
-/

namespace Ige

/-- A list of `w` elements. -/
@[ext]
structure Block (α : Type*) (w : ℕ) where
  toList : List α
  length_eq : toList.length = w
  deriving DecidableEq

section
variable {α : Type*} {w : ℕ}

/-- Combines two blocks element by element. -/
def Block.zipWith (f : α → α → α) (a b : Block α w) : Block α w where
  toList := List.zipWith f a.toList b.toList
  length_eq := by rw [List.length_zipWith, a.length_eq, b.length_eq, Nat.min_self]

/-- Masking twice with one block changes nothing. -/
lemma Block.zipWith_cancel {f : α → α → α} (cancel : ∀ x y, f (f x y) y = x) {a b : Block α w} :
    (a.zipWith f b).zipWith f b = a := by
  have len := a.length_eq.trans b.length_eq.symm
  apply Block.ext
  apply List.ext_getElem (by simp [zipWith, len])
  intro i _ _
  simp [zipWith, cancel]

/-- Over finitely many entries there are finitely many blocks. -/
instance [Finite α] : Finite (Block α w) := by
  let vector (b : Block α w) : List.Vector α w := ⟨b.toList, b.length_eq⟩
  apply Finite.of_injective vector
  intro a b same
  exact Block.ext (congrArg Subtype.val same)

/-- The `m` entries from position `i`. -/
def Block.slice (b : Block α w) (i m : ℕ) (inside : i + m ≤ w) : Block α m where
  toList := (b.toList.drop i).take m
  length_eq := by
    rw [List.length_take, List.length_drop, b.length_eq]
    omega

/-- The entries of `s` written into a block from position `i`. -/
def Block.patch (b : Block α w) (i : ℕ) (s : List α) (inside : i + s.length ≤ w) : Block α w where
  toList := b.toList.take i ++ (s ++ b.toList.drop (i + s.length))
  length_eq := by
    rw [List.length_append, List.length_append, List.length_take, List.length_drop, b.length_eq]
    omega

/-- A slice that ends with the block is all that is left of it. -/
lemma Block.slice_end {b : Block α w} {i m : ℕ} (ends : i + m = w) :
    (b.slice i m (Nat.le_of_eq ends)).toList = b.toList.drop i := by
  apply List.take_of_length_le
  rw [List.length_drop, b.length_eq]
  omega

/-- What stands in front of the entries written is kept. -/
lemma Block.patch_take {b : Block α w} {i : ℕ} {s : List α} {inside : i + s.length ≤ w} :
    (b.patch i s inside).toList.take i = b.toList.take i := by
  have len : (b.toList.take i).length = i := by
    rw [List.length_take, b.length_eq]
    omega
  exact List.take_left' len

/-- Behind the place of a patch stand the patch and what it does not cover. -/
lemma Block.patch_drop {b : Block α w} {i : ℕ} {s : List α} {inside : i + s.length ≤ w} :
    (b.patch i s inside).toList.drop i = s ++ b.toList.drop (i + s.length) := by
  have len : (b.toList.take i).length = i := by
    rw [List.length_take, b.length_eq]
    omega
  exact List.drop_left' len

/-- A patch that ends with the block replaces its end. -/
lemma Block.patch_end {b : Block α w} {i : ℕ} {s : List α} (ends : i + s.length = w) :
    (b.patch i s (Nat.le_of_eq ends)).toList = b.toList.take i ++ s := by
  have gone : b.toList.drop (i + s.length) = [] := by
    apply List.drop_eq_nil_of_le
    rw [b.length_eq]
    exact Nat.le_of_eq ends.symm
  calc b.toList.take i ++ (s ++ b.toList.drop (i + s.length))
      = b.toList.take i ++ s := by rw [gone, List.append_nil]

/-- The elements from the last to the first. -/
def Block.reverse (b : Block α w) : Block α w where
  toList := b.toList.reverse
  length_eq := by rw [List.length_reverse, b.length_eq]

/-- The first block of a string. -/
def block [Inhabited α] (w : ℕ) (s : List α) : Block α w where
  toList := s.takeD w default
  length_eq := List.takeD_length ..

/-- The first `n` blocks of a string. -/
def split [Inhabited α] (w : ℕ) : ℕ → List α → List (Block α w)
  | 0, _ => []
  | n + 1, s => block w s :: split w n (s.drop w)

/-- Writes blocks one behind the other. -/
def join : List (Block α w) → List α
  | [] => []
  | b :: bs => b.toList ++ join bs

/-- Each block has `w` elements. -/
lemma join_length {blocks : List (Block α w)} : (join blocks).length = blocks.length * w := by
  induction blocks with
  | nil => exact (Nat.zero_mul w).symm
  | cons b bs ih =>
    rw [join, List.length_append, ih, b.length_eq, List.length_cons, Nat.succ_mul, Nat.add_comm]

variable [Inhabited α]

@[simp]
lemma split_length {n} {s : List α} : (split w n s).length = n := by
  induction n generalizing s with
  | zero => rfl
  | succ n ih => rw [split, List.length_cons, ih]

lemma block_toList {s : List α} (long : w ≤ s.length) : (block w s).toList = s.take w :=
  List.takeD_eq_take _ long

/-- Block `i` of a list begins behind `i * w` elements. -/
lemma split_getElem? {n i} {s : List α} (inside : i < n) :
    (split w n s)[i]? = some (block w (s.drop (i * w))) := by
  induction n generalizing s i with
  | zero => exact absurd inside (Nat.not_lt_zero i)
  | succ n ih =>
    cases i with
    | zero => rw [split, List.getElem?_cons_zero, Nat.zero_mul, List.drop_zero]
    | succ i =>
      rw [split, List.getElem?_cons_succ, ih (Nat.lt_of_succ_lt_succ inside), List.drop_drop,
        Nat.succ_mul, Nat.add_comm]

/-- The blocks of a string, counted from 1, behind a block 0. -/
def chained (first : Block α w) (s : List α) : ℕ → Block α w
  | 0 => first
  | i + 1 => block w (s.drop (i * w))

/-- The block that step `i` is chained to. -/
lemma chained_getElem? {first : Block α w} {n i} {s : List α} (inside : i ≤ n) :
    (first :: split w n s)[i]? = some (chained first s i) := by
  cases i with
  | zero => rfl
  | succ i => exact split_getElem? inside

/-- A list of whole blocks is put together again. -/
lemma join_split {n} {s : List α} (whole : s.length = n * w) : join (split w n s) = s := by
  induction n generalizing s with
  | zero => exact (List.length_eq_zero_iff.mp (whole.trans (Nat.zero_mul w))).symm
  | succ n ih =>
    rw [Nat.succ_mul] at whole
    have rest : (s.drop w).length = n * w := by
      rw [List.length_drop]
      omega
    rw [split, join, ih rest, block_toList (by omega), List.take_append_drop]

/-- Blocks are cut apart again. -/
lemma split_join {blocks : List (Block α w)} : split w blocks.length (join blocks) = blocks := by
  induction blocks with
  | nil => rfl
  | cons b bs ih =>
    have first : block w (b.toList ++ join bs) = b := Block.ext (List.takeD_left' b.length_eq)
    rw [List.length_cons, split, join, List.drop_left' b.length_eq, ih, first]

end

section
variable {β : Type*} (mask : β → β → β)

/-- IGE encryption of blocks behind a ciphertext block `c` and a plaintext block `p`. -/
def encrypt (E : β → β) : β → β → List β → List β
  | _, _, [] => []
  | c, p, block :: blocks =>
    let out := mask (E (mask block c)) p
    out :: encrypt E out block blocks

/-- IGE decryption of blocks behind a ciphertext block `c` and a plaintext block `p`. -/
def decrypt (D : β → β) : β → β → List β → List β
  | _, _, [] => []
  | c, p, block :: blocks =>
    let out := mask (D (mask block p)) c
    out :: decrypt D block out blocks

variable {mask} {E D : β → β}

@[simp]
lemma encrypt_length {c p blocks} : (encrypt mask E c p blocks).length = blocks.length := by
  induction blocks generalizing c p with
  | nil => rfl
  | cons block blocks ih => rw [encrypt, List.length_cons, ih, List.length_cons]

@[simp]
lemma decrypt_length {c p blocks} : (decrypt mask D c p blocks).length = blocks.length := by
  induction blocks generalizing c p with
  | nil => rfl
  | cons block blocks ih => rw [decrypt, List.length_cons, ih, List.length_cons]

/-- Decryption undoes encryption, whatever the blocks in front. -/
theorem decrypt_encrypt (cancel : ∀ x y, mask (mask x y) y = x) (inverse : ∀ x, D (E x) = x)
    {c p blocks} : decrypt mask D c p (encrypt mask E c p blocks) = blocks := by
  induction blocks generalizing c p with
  | nil => rfl
  | cons block blocks ih => simp only [encrypt, decrypt, cancel, inverse, ih]

/-- Encryption undoes decryption, whatever the blocks in front. -/
theorem encrypt_decrypt (cancel : ∀ x y, mask (mask x y) y = x) (inverse : ∀ x, E (D x) = x)
    {c p blocks} : encrypt mask E c p (decrypt mask D c p blocks) = blocks := by
  induction blocks generalizing c p with
  | nil => rfl
  | cons block blocks ih => simp only [encrypt, decrypt, cancel, inverse, ih]

/-- A block is masked with the ciphertext block before it on the way in and with the plaintext
block before it on the way out. -/
theorem encrypt_getElem? {c p blocks} {i : ℕ} {block c' p'} (plain : blocks[i]? = some block)
    (cipher_before : (c :: encrypt mask E c p blocks)[i]? = some c')
    (plain_before : (p :: blocks)[i]? = some p') :
    (encrypt mask E c p blocks)[i]? = some (mask (E (mask block c')) p') := by
  induction blocks generalizing c p i with
  | nil => simp at plain
  | cons b bs ih =>
    cases i with
    | zero =>
      cases plain
      cases cipher_before
      cases plain_before
      rfl
    | succ i => exact ih plain cipher_before plain_before

end

end Ige
