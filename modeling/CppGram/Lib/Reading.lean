import CppGram.Lib.Bytes
import CppGram.Lib.Ige

/-!
# Reading a string from a position

A `Read` takes values from a string at a position, moves the position, and may fail; what it has
moved stays moved when it fails. `Reads p s b` says that `p` makes `b` of `s` and stops behind it,
whatever `s` stands between. It is closed under the ways reads are put together, so that a reader is
the inverse of a writer is proved along the structure of the reader (`Reads.bind`, `Reads.require`,
`Reads.traverse`).
-/

namespace Reading
open Ige

/-- A string and a position in it. -/
structure Cursor (α : Type) where
  data : List α
  offset : Nat := 0

/-- Computations that move a cursor and may fail. -/
abbrev Read (α ε β : Type) := ExceptT ε (StateM (Cursor α)) β

variable {α ε β γ : Type}

/-- What a read makes of a cursor: its result, and the cursor it leaves. -/
def Read.on (p : Read α ε β) (c : Cursor α) : Except ε β × Cursor α := p.run.run c

/-- `bytes` entries are left behind the cursor. -/
def Cursor.hasRemaining (c : Cursor α) (bytes : Nat) : Bool := c.offset + bytes ≤ c.data.length

/-- Fails with `error` unless `bytes` entries are left. -/
def require (bytes : Nat) (error : ε) : Read α ε Unit := do
  let c ← get
  if c.hasRemaining bytes then pure () else throw error

/-- The next `n` entries. A copy that leaves the string fails with `error`. -/
def take (n : Nat) (error : ε) : Read α ε (Block α n) := do
  let c ← get
  if inside : c.offset + n ≤ c.data.length then
    set { c with offset := c.offset + n }
    return ⟨Bytes.span c.data c.offset n, Bytes.span_length inside⟩
  else throw error

/-- The next entry. -/
def next (error : ε) : Read α ε α := do
  let c ← get
  match c.data[c.offset]? with
  | some a =>
    set { c with offset := c.offset + 1 }
    return a
  | none => throw error

/-- Skips `n` entries, unchecked. -/
def skip (n : Nat) : Read α ε Unit := modify fun c => { c with offset := c.offset + n }

/-! ## What a read does to a cursor -/

/-- The second part goes on where the first one stopped, or the first fault ends both. -/
lemma on_bind {p : Read α ε β} {f : β → Read α ε γ} {c} :
    (p >>= f).on c = match p.on c with
      | (.ok b, c') => (f b).on c'
      | (.error e, c') => (.error e, c') := by
  simp only [Read.on, ExceptT.run_bind, StateT.run_bind]
  cases p.run.run c with
  | mk result c' => cases result <;> rfl

lemma on_bind_ok {p : Read α ε β} {f : β → Read α ε γ} {c c' b} (h : p.on c = (.ok b, c')) :
    (p >>= f).on c = (f b).on c' := by
  rw [on_bind, h]

lemma on_bind_error {p : Read α ε β} {f : β → Read α ε γ} {c c' e}
    (h : p.on c = (.error e, c')) : (p >>= f).on c = (.error e, c') := by
  rw [on_bind, h]

/-- A read that succeeds has both its parts succeed. -/
lemma on_bind_inv {p : Read α ε β} {f : β → Read α ε γ} {c c' r}
    (h : (p >>= f).on c = (.ok r, c')) :
    ∃ b between, p.on c = (.ok b, between) ∧ (f b).on between = (.ok r, c') := by
  rw [on_bind] at h
  cases first : p.on c with
  | mk result between =>
    rw [first] at h
    cases result with
    | ok b => exact ⟨b, between, rfl, h⟩
    | error e => cases h

lemma on_get {c : Cursor α} : (get : Read α ε (Cursor α)).on c = (.ok c, c) := rfl

/-- A check moves nothing. -/
lemma on_require (bytes : Nat) (error : ε) (c : Cursor α) :
    (require bytes error).on c = (if c.hasRemaining bytes then .ok () else .error error, c) := by
  rw [require, on_bind_ok on_get]
  split <;> rfl

/-- Elements that are there are taken. -/
lemma on_take_ok {n} {error : ε} {c : Cursor α} (inside : c.offset + n ≤ c.data.length) :
    (take n error).on c = (.ok ⟨Bytes.span c.data c.offset n, Bytes.span_length inside⟩,
      { c with offset := c.offset + n }) := by
  rw [take, on_bind_ok on_get, dif_pos inside]
  rfl

/-- An element that is there is taken. -/
lemma on_next_ok {error : ε} {c : Cursor α} {a} (here : c.data[c.offset]? = some a) :
    (next error).on c = (.ok a, { c with offset := c.offset + 1 }) := by
  rw [next, on_bind_ok on_get, here]
  rfl

@[simp]
lemma on_skip {n} {c : Cursor α} :
    (skip n : Read α ε Unit).on c = (.ok (), { c with offset := c.offset + n }) := rfl

/-! ## What stands ahead of a cursor -/

namespace Cursor

/-- The entries from the position on. -/
def ahead (c : Cursor α) : List α := c.data.drop c.offset

/-- The position moved by `n`. -/
def advance (c : Cursor α) (n : Nat) : Cursor α := { c with offset := c.offset + n }

@[simp]
lemma advance_data {c : Cursor α} {n} : (c.advance n).data = c.data := rfl

@[simp]
lemma advance_offset {c : Cursor α} {n} : (c.advance n).offset = c.offset + n := rfl

lemma advance_advance {c : Cursor α} {m n} : (c.advance m).advance n = c.advance (m + n) := by
  simp only [advance, Nat.add_assoc]

lemma ahead_advance {c : Cursor α} {n} : (c.advance n).ahead = c.ahead.drop n := by
  rw [ahead, ahead, List.drop_drop]
  rfl

lemma ahead_length {c : Cursor α} : c.ahead.length = c.data.length - c.offset :=
  List.length_drop

/-- Whether enough remains is seen by what is ahead, but for the empty request behind the end. -/
lemma hasRemaining_of {c : Cursor α} {n} (h : c.offset ≤ c.data.length ∨ 0 < n) :
    c.hasRemaining n = decide (n ≤ c.ahead.length) := by
  rw [hasRemaining, ahead_length]
  congr 1
  apply propext
  omega

lemma hasRemaining_eq {c : Cursor α} {n} (inside : c.offset ≤ c.data.length) :
    c.hasRemaining n = decide (n ≤ c.ahead.length) :=
  hasRemaining_of (.inl inside)

/-- Where an entry is asked for, the position need not be inside. -/
lemma hasRemaining_pos {c : Cursor α} {n} (some : 0 < n) :
    c.hasRemaining n = decide (n ≤ c.ahead.length) :=
  hasRemaining_of (.inr some)

/-- A position inside of the string splits it. -/
lemma split_at {c : Cursor α} (inside : c.offset ≤ c.data.length) :
    c = ⟨c.data.take c.offset ++ c.ahead, (c.data.take c.offset).length⟩ := by
  rw [ahead, List.take_append_drop, List.length_take, Nat.min_eq_left inside]

end Cursor

lemma on_require_met {bytes : Nat} {error : ε} {c : Cursor α} (met : c.hasRemaining bytes = true) :
    (require bytes error).on c = (.ok (), c) := by
  rw [on_require, if_pos met]

/-- A read behind a check that is not met. -/
lemma on_require_unmet {bytes : Nat} {error : ε} {p : Read α ε β} {c : Cursor α}
    (unmet : c.hasRemaining bytes = false) :
    (require bytes error >>= fun _ => p).on c = (.error error, c) := by
  rw [on_bind, on_require, unmet]
  rfl

/-- Elements that are ahead are taken. -/
lemma on_take {n} (error : ε) {c : Cursor α} (inside : c.offset ≤ c.data.length)
    (enough : n ≤ c.ahead.length) :
    ∃ block : Block α n, (take n error).on c = (.ok block, c.advance n) ∧
      block.toList = c.ahead.take n := by
  rw [Cursor.ahead_length] at enough
  exact ⟨_, on_take_ok (by omega), rfl⟩

/-- The element ahead is taken. -/
lemma on_next {error : ε} {c : Cursor α} {a rest} (ahead : c.ahead = a :: rest) :
    (next error).on c = (.ok a, c.advance 1) := by
  have here : c.data[c.offset]? = some a := by
    rw [← List.head?_drop, ← Cursor.ahead, ahead]
    rfl
  exact on_next_ok here

/-! ## Reads that undo writes -/

/-- `p` makes `b` of `s` and stops behind it, wherever `s` stands. -/
def Reads (p : Read α ε β) (s : List α) (b : β) : Prop :=
  ∀ before behind, p.on ⟨before ++ (s ++ behind), before.length⟩ =
    (.ok b, ⟨before ++ (s ++ behind), before.length + s.length⟩)

/-- Such a read at a cursor that has the entries in front of it. -/
lemma Reads.on_ahead {p : Read α ε β} {s b} (h : Reads p s b) {c : Cursor α} {behind}
    (inside : c.offset ≤ c.data.length) (ahead : c.ahead = s ++ behind) :
    p.on c = (.ok b, c.advance s.length) := by
  have split := c.split_at inside
  rw [ahead] at split
  rw [split]
  exact h _ behind

lemma Reads.pure {b : β} : Reads (pure b : Read α ε β) [] b := fun _ _ => rfl

/-- Readers one behind the other read texts one behind the other. -/
lemma Reads.bind {p : Read α ε β} {f : β → Read α ε γ} {s t b c} (first : Reads p s b)
    (second : Reads (f b) t c) : Reads (p >>= f) (s ++ t) c := by
  intro before behind
  have call := first before (t ++ behind)
  have next := second (before ++ s) behind
  rw [List.append_assoc, List.length_append] at next
  rw [List.append_assoc, on_bind_ok call, next, List.length_append, Nat.add_assoc]

/-- What is made of the value afterwards reads nothing. -/
lemma Reads.map {p : Read α ε β} {s b} (h : Reads p s b) (f : β → γ) :
    Reads (do return f (← p)) s (f b) := by
  have whole := h.bind (f := fun b => Pure.pure (f b)) (.pure (b := f b))
  rwa [List.append_nil] at whole

/-- A check that what is read meets. -/
lemma Reads.require {p : Read α ε β} {s b bytes} {error : ε} (h : Reads p s b)
    (enough : bytes ≤ s.length) :
    Reads (do Reading.require bytes error; p) s b := by
  intro before behind
  have met : (⟨before ++ (s ++ behind), before.length⟩ : Cursor α).hasRemaining bytes = true := by
    simp only [Cursor.hasRemaining, List.length_append, decide_eq_true_eq]
    omega
  have check := on_require bytes error ⟨before ++ (s ++ behind), before.length⟩
  rw [if_pos met] at check
  rw [on_bind_ok check, h]

/-- As many elements as were asked for. -/
lemma Reads.take {n} {error : ε} {s : List α} (len : s.length = n) :
    Reads (Reading.take n error) s ⟨s, len⟩ := by
  intro before behind
  have inside : before.length + n ≤ (before ++ (s ++ behind)).length := by
    rw [List.length_append, List.length_append]
    omega
  rw [on_take_ok inside, len]
  congr
  exact Bytes.span_middle rfl len.symm

/-- One element. -/
lemma Reads.next {error : ε} {a : α} : Reads (Reading.next error) [a] a := by
  intro before behind
  apply on_next_ok
  rw [List.getElem?_append_right (Nat.le_refl _), Nat.sub_self]
  rfl

/-- Elements that are passed over. -/
lemma Reads.skip {n} {s : List α} (len : s.length = n) :
    Reads (Reading.skip n : Read α ε Unit) s () := by
  intro before behind
  rw [on_skip, len]

/-- Reads one after the other undo writes one after the other. -/
lemma Reads.mapM {ι τ : Type} {kind : ι → τ} {read : τ → Read α ε ι} {write : ι → List α}
    {xs : List ι} (each : ∀ x ∈ xs, Reads (read (kind x)) (write x) x) :
    Reads ((xs.map kind).mapM read) (xs.flatMap write) xs := by
  induction xs with
  | nil => exact .pure
  | cons x xs ih =>
    have first := each x List.mem_cons_self
    have others := ih fun y member => each y (List.mem_cons_of_mem x member)
    rw [List.map_cons, List.mapM_cons, List.flatMap_cons]
    exact first.bind (others.map (x :: ·))

end Reading
