import Mathlib.Data.List.Induction
import Mathlib.Tactic.Lemma

/-!
# Stream ciphers

Byte strings masked with a keystream. `mask ks start data` takes the keystream from position `start`
on, so that successive pieces of one stream are masked with successive parts of it (`mask_append`).
A piece is masked to the same effect from two positions only where the keystream repeats
(`mask_eq_iff`). `Symbol` is a byte of a ciphertext with the keystream left open, in the clear or
masked at a position; which of the two it is shows when the keystream is varied
(`Symbol.eval_eq_iff`).
-/

namespace StreamCipher

/-- `data` masked with the keystream from position `start` on. -/
def mask (ks : Nat → UInt8) : Nat → List UInt8 → List UInt8
  | _, [] => []
  | start, b :: data => (b ^^^ ks start) :: mask ks (start + 1) data

variable {ks : Nat → UInt8}

@[simp]
lemma mask_length {start data} : (mask ks start data).length = data.length := by
  induction data generalizing start with
  | nil => rfl
  | cons b data ih => rw [mask, List.length_cons, ih, List.length_cons]

/-- The second part is masked where the first one ends in the keystream. -/
lemma mask_append {start data data'} :
    mask ks start (data ++ data') = mask ks start data ++ mask ks (start + data.length) data' := by
  induction data generalizing start with
  | nil => rfl
  | cons b data ih =>
    rw [List.cons_append, mask, ih, mask, List.cons_append, List.length_cons, Nat.add_assoc,
      Nat.add_comm 1]

/-- Masking is its own inverse. -/
lemma mask_mask (ks : Nat → UInt8) (start : Nat) (data : List UInt8) :
    mask ks start (mask ks start data) = data := by
  induction data generalizing start with
  | nil => rfl
  | cons b data ih => rw [mask, mask, ih, UInt8.xor_assoc, UInt8.xor_self, UInt8.xor_zero]

/-- Masking from two positions agrees exactly where the keystream repeats. -/
theorem mask_eq_iff (ks : Nat → UInt8) (m n : Nat) (data : List UInt8) :
    mask ks m data = mask ks n data ↔ ∀ i < data.length, ks (m + i) = ks (n + i) := by
  induction data generalizing m n with
  | nil => exact ⟨fun _ _ h => absurd h (Nat.not_lt_zero _), fun _ => rfl⟩
  | cons b data ih =>
    rw [mask, mask, List.cons_eq_cons, UInt8.xor_right_inj, ih, List.length_cons]
    constructor
    · rintro ⟨first, rest⟩ i hi
      cases i with
      | zero => exact first
      | succ i =>
        have here := rest i (Nat.lt_of_succ_lt_succ hi)
        rwa [Nat.add_assoc, Nat.add_assoc, Nat.add_comm 1] at here
    · intro all
      refine ⟨all 0 (Nat.succ_pos _), ?_⟩
      intro i hi
      rw [Nat.add_assoc, Nat.add_assoc, Nat.add_comm 1]
      exact all (i + 1) (Nat.succ_lt_succ hi)

/-- A byte of a ciphertext with the keystream left open. -/
inductive Symbol where
  | clear (b : UInt8)
  | masked (b : UInt8) (position : Nat)

/-- The byte that a symbol is under a keystream. -/
def Symbol.eval (ks : Nat → UInt8) : Symbol → UInt8
  | .clear b => b
  | .masked b i => b ^^^ ks i

/-- A piece of plaintext masked from position `start` on. -/
def symbols : Nat → List UInt8 → List Symbol
  | _, [] => []
  | start, b :: data => .masked b start :: symbols (start + 1) data

/-- The symbols of a text are its bytes once the keystream is known. -/
lemma eval_symbols {start data} :
    (symbols start data).map (Symbol.eval ks) = mask ks start data := by
  induction data generalizing start with
  | nil => rfl
  | cons b data ih =>
    rw [symbols, List.map_cons, ih]
    rfl

/-- Symbol `j` is byte `j` at its place in the keystream. -/
lemma symbols_getElem? {start data} {j : Nat} :
    (symbols start data)[j]? = data[j]?.map (.masked · (start + j)) := by
  induction data generalizing start j with
  | nil => rfl
  | cons b data ih =>
    cases j with
    | zero => rfl
    | succ j =>
      rw [symbols, List.getElem?_cons_succ, ih, List.getElem?_cons_succ, Nat.add_assoc,
        Nat.add_comm 1]

/-- Which byte is masked at which position shows when the keystream is varied. -/
theorem Symbol.eval_eq_iff {x : Symbol} {b i} :
    (∀ ks, x.eval ks = b ^^^ ks i) ↔ x = .masked b i := by
  constructor
  · intro same
    have zero := same fun _ => 0
    cases x with
    | clear c =>
      have one := same fun _ => 1
      change c = b ^^^ 0 at zero
      change c = b ^^^ 1 at one
      have bits := (UInt8.xor_right_inj b).mp (zero.symm.trans one)
      cases bits
    | masked c j =>
      change c ^^^ 0 = b ^^^ 0 at zero
      cases (UInt8.xor_left_inj 0).mp zero
      -- a keystream that is 0 but at one position
      have here := (UInt8.xor_right_inj b).mp (same fun k => if k = j then 1 else 0)
      by_cases h : i = j
      · rw [h]
      · simp [h] at here
  · rintro rfl ks
    rfl

/-- A piece masks its bytes at their own positions. -/
lemma masked_mem_symbols {data : List UInt8} {b i} :
    .masked b i ∈ symbols 0 data ↔ data[i]? = some b := by
  rw [List.mem_iff_getElem?]
  constructor
  · rintro ⟨j, h⟩
    rw [symbols_getElem?, Option.map_eq_some_iff] at h
    obtain ⟨c, hc, e⟩ := h
    cases e
    rwa [Nat.zero_add]
  · intro h
    refine ⟨i, ?_⟩
    rw [symbols_getElem?, h, Option.map_some, Nat.zero_add]

/-- The positions at which bytes are masked increase along a ciphertext. -/
def Increasing (out : List Symbol) : Prop :=
  ∀ (j j' : Nat) i i' b b', j < j' → out[j]? = some (.masked b i) →
    out[j']? = some (.masked b' i') → i < i'

/-- Of two strings that agree wherever both have a byte one is the beginning of the other. -/
lemma prefix_or_iff {x y : List UInt8} :
    x <+: y ∨ y <+: x ↔ ∀ (i : Nat) b b', x[i]? = some b → y[i]? = some b' → b = b' := by
  constructor
  · rintro (⟨t, rfl⟩ | ⟨t, rfl⟩) i b b' hb hb'
    · obtain ⟨lt, -⟩ := List.getElem?_eq_some_iff.mp hb
      rw [List.getElem?_append_left lt, hb] at hb'
      exact Option.some.inj hb'
    · obtain ⟨lt, -⟩ := List.getElem?_eq_some_iff.mp hb'
      rw [List.getElem?_append_left lt, hb'] at hb
      exact (Option.some.inj hb).symm
  · intro agree
    induction x generalizing y with
    | nil => exact .inl List.nil_prefix
    | cons a x ih =>
      cases y with
      | nil => exact .inr List.nil_prefix
      | cons c y =>
        cases agree 0 a c rfl rfl
        rw [List.prefix_cons_inj, List.prefix_cons_inj]
        exact ih fun i => agree (i + 1)

end StreamCipher
