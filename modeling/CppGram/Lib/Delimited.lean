import CppGram.Lib.Reading

/-!
# Length-delimited formats

Formats in which a body stands behind its length, a big-endian number of a fixed width, and bodies hold
such bodies again. `vector w p` reads a length and gives `p` just the bytes that the length covers; `p`
has to use them up. `items p` reads one item after the other up to the end. `Whole p s b` says that `p`
makes `b` of `s` and uses it up, so a reader of a nested format is the inverse of its writer along the
structure of the format (`reads_vector`, `whole_items`).
-/

namespace Delimited
open Ige Reading

variable {β : Type}

/-- The `w` least significant bytes of `n`, highest first. -/
def toBE (w n : Nat) : List UInt8 := (Bytes.toLE w n).reverse

/-- The number whose bytes, highest first, are given. -/
def ofBE (bs : List UInt8) : Nat := Bytes.ofLE bs.reverse

/-- A body behind its length. -/
def delimit (w : Nat) (s : List UInt8) : List UInt8 := toBE w s.length ++ s

@[simp]
lemma toBE_length {w n} : (toBE w n).length = w := by
  rw [toBE, List.length_reverse, Bytes.toLE_length]

@[simp]
lemma delimit_length {w s} : (delimit w s).length = w + s.length := by
  rw [delimit, List.length_append, toBE_length]

lemma ofBE_toBE {w n} (fits : n < 256 ^ w) : ofBE (toBE w n) = n := by
  rw [ofBE, toBE, List.reverse_reverse, Bytes.ofLE_toLE_of_lt fits]

/-! ## Readers -/

/-- Reads of bytes that may fail. -/
abbrev Reader := Read UInt8 Unit

/-- A number of `w` bytes. -/
def number (w : Nat) : Reader Nat := do return ofBE (← take w ()).toList

/-- A byte that has to be this one. -/
def expect (b : UInt8) : Reader Unit := do
  if (← next ()) ≠ b then throw ()

/-- All that is left. -/
def rest : Reader (List UInt8) := do
  let c ← get
  return (← take c.ahead.length ()).toList

/-- Only `p` on these bytes, which it has to use up. -/
def exactly (p : Reader β) (s : List UInt8) : Except Unit β :=
  match p.on ⟨s, 0⟩ with
  | (.ok b, c) => if c.offset = s.length then .ok b else .error ()
  | (.error e, _) => .error e

/-- A body behind a length of `w` bytes. -/
def vector (w : Nat) (p : Reader β) : Reader β := do
  let len ← number w
  let body ← take len ()
  match exactly p body.toList with
  | .ok b => return b
  | .error e => throw e

/-- At most `n` items, up to the end. -/
def upTo (p : Reader β) : Nat → Reader (List β)
  | 0 => return []
  | n + 1 => do
    let c ← get
    if c.ahead = [] then return []
    let b ← p
    return b :: (← upTo p n)

/-- Items up to the end. -/
def items (p : Reader β) : Reader (List β) := do upTo p (← get).data.length

/-! ## Whole strings -/

/-- `p` makes `b` of `s` and uses it up. -/
def Whole (p : Reader β) (s : List UInt8) (b : β) : Prop := p.on ⟨s, 0⟩ = (.ok b, ⟨s, s.length⟩)

/-- What is read from the front is read when nothing stands behind it. -/
lemma whole_of_reads {p : Reader β} {s b} (h : Reads p s b) : Whole p s b := by
  have call := h [] []
  simp only [List.nil_append, List.append_nil, List.length_nil, Nat.zero_add] at call
  exact call

/-- The rest is all there is. -/
lemma whole_rest {s : List UInt8} : Whole rest s s := by
  let c : Cursor UInt8 := ⟨s, 0⟩
  obtain ⟨block, taken, content⟩ := on_take (c := c) () (Nat.zero_le _) (Nat.le_refl _)
  have finish : c.advance c.ahead.length = ⟨s, s.length⟩ :=
    congrArg (Cursor.mk s) (Nat.zero_add _)
  have call : rest.on c = (.ok block.toList, c.advance c.ahead.length) := by
    rw [rest, on_bind_ok on_get, on_bind_ok taken]
    rfl
  rw [content, List.take_length, finish] at call
  exact call

lemma exactly_whole {p : Reader β} {s b} (h : Whole p s b) : exactly p s = .ok b := by
  simp only [exactly, show p.on ⟨s, 0⟩ = _ from h, if_true]

lemma reads_number {w n} (fits : n < 256 ^ w) : Reads (number w) (toBE w n) n := by
  have read := (Reads.take toBE_length : Reads (take w ()) (toBE w n) _).map fun b => ofBE b.toList
  rwa [show ofBE (toBE w n) = n from ofBE_toBE fits] at read

/-- A byte that is expected is read. -/
lemma reads_expect {b : UInt8} : Reads (expect b) [b] () := by
  refine Reads.next.bind (t := []) ?_
  rw [if_neg (not_not_intro rfl)]
  exact .pure

/-- A body that is read whole is read behind its length. -/
lemma reads_vector {w} {p : Reader β} {s b} (h : Whole p s b) (fits : s.length < 256 ^ w) :
    Reads (vector w p) (delimit w s) b := by
  refine (reads_number fits).bind ?_
  have body := (Reads.take rfl : Reads (take s.length ()) s _)
  have whole := body.bind (f := fun body => match exactly p body.toList with
    | .ok b => pure b
    | .error e => throw e) (t := []) (c := b) ?_
  · rwa [List.append_nil] at whole
  · rw [exactly_whole h]
    exact .pure

/-- Items that are read one by one are read up to the end. -/
lemma upTo_reads {p : Reader β} {write : β → List UInt8} {xs : List β}
    (each : ∀ x ∈ xs, Reads p (write x) x ∧ write x ≠ []) {n} (enough : (xs.flatMap write).length ≤ n)
    (before : List UInt8) :
    (upTo p n).on ⟨before ++ xs.flatMap write, before.length⟩ =
      (.ok xs, ⟨before ++ xs.flatMap write, (before ++ xs.flatMap write).length⟩) := by
  induction xs generalizing n before with
  | nil =>
    have done : (⟨before, before.length⟩ : Cursor UInt8).ahead = [] := List.drop_length
    rw [List.flatMap_nil, List.append_nil]
    cases n with
    | zero => rfl
    | succ n =>
      rw [upTo, on_bind_ok on_get, if_pos done]
      rfl
  | cons x xs ih =>
    obtain ⟨read, some⟩ := each x List.mem_cons_self
    have others := fun y member => each y (List.mem_cons_of_mem x member)
    have more : (⟨before ++ (write x ++ xs.flatMap write), before.length⟩ : Cursor UInt8).ahead ≠
        [] := by
      rw [Cursor.ahead, List.drop_left]
      exact List.append_ne_nil_of_left_ne_nil some _
    rw [List.flatMap_cons, List.length_append] at enough
    have one := List.length_pos_of_ne_nil some
    cases n with
    | zero => omega
    | succ n =>
      have rest := @ih others n (by omega) (before ++ write x)
      rw [List.append_assoc, List.length_append] at rest
      rw [List.flatMap_cons, upTo, on_bind_ok on_get, if_neg more, on_bind_ok (read before _),
        on_bind_ok rest]
      rfl

/-- Items are read one after the other, up to the end. -/
lemma whole_items {p : Reader β} {write : β → List UInt8} {xs : List β}
    (each : ∀ x ∈ xs, Reads p (write x) x ∧ write x ≠ []) :
    Whole (items p) (xs.flatMap write) xs := by
  have call := upTo_reads each (Nat.le_refl _) []
  exact call

end Delimited
