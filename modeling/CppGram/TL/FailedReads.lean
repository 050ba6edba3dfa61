import CppGram.TL.Calls

/-!
# Where a failed read stands

A scalar read, `set_offset` and `read_invoke_with_layer` leave the offset alone when they fail.
`read_bytes`, `read_string` and `read_vector_header` move past what they have looked at, so they fail in
place only if they fail at the first check. `fails_in_place_iff` says for each call at which readers
that is.
-/

namespace CppGram
open Reading

namespace TLReader

variable {β γ : Type} {r : TLReader}

/-- If the method throws, the offset is the one from before the call. -/
def FailsInPlace (p : Method β) (r : TLReader) : Prop :=
  ∀ fault r', p.on r = (.error fault, r') → r'.offset = r.offset

/-- A method that returns does not fail. -/
lemma failsInPlace_of_ok {p : Method β} {b r'} (returned : p.on r = (.ok b, r')) :
    FailsInPlace p r := by
  intro fault r'' thrown
  cases returned.symm.trans thrown

/-- A throw is in place exactly if nothing was moved. -/
lemma Throws.failsInPlace_iff {p : Method β} {n} (h : Throws p r n) : FailsInPlace p r ↔ n = 0 := by
  obtain ⟨fault, -, thrown⟩ := h
  constructor
  · intro in_place
    have same := in_place _ _ thrown
    rw [Cursor.advance_offset] at same
    omega
  · rintro rfl _ _ again
    cases thrown.symm.trans again
    rfl

/-- What is made of the value afterwards throws nothing. -/
lemma failsInPlace_map {p : Method β} (f : β → γ) :
    FailsInPlace (do return f (← p)) r ↔ FailsInPlace p r := by
  cases call : p.on r with
  | mk result r' =>
    cases result with
    | ok b =>
      have mapped : (do return f (← p) : Method γ).on r = (.ok (f b), r') := on_bind_ok call
      exact iff_of_true (failsInPlace_of_ok mapped) (failsInPlace_of_ok call)
    | error e =>
      have mapped : (do return f (← p) : Method γ).on r = (.error e, r') := on_bind_error call
      rw [FailsInPlace, FailsInPlace, call, mapped]
      constructor
      all_goals
        rintro in_place _ _ ⟨⟩
        exact in_place _ _ rfl

/-- A read of fixed length fails where it stands. -/
lemma failsInPlace_fixed {n : Nat} (some : 0 < n) (what : String) :
    FailsInPlace (readFixed n what) r := by
  rcases readFixed_cases some what r with ⟨enough, s, behind, b, ahead, reads⟩ | throws
  · exact failsInPlace_of_ok (reads.on_ahead (inside_of_enough some enough) ahead)
  · exact throws.failsInPlace_iff.mpr rfl

/-- A string is refused in place exactly if nothing is ahead. -/
lemma failsInPlace_bytes : FailsInPlace readBytes r ↔ r.ahead = [] ∨ StringAhead r := by
  rcases readBytes_cases r with here | ⟨nothing, throws⟩ | ⟨n, some, bound, throws⟩
  · obtain ⟨s, bytes, behind, str, ahead⟩ := id here
    exact iff_of_true (failsInPlace_of_ok (readBytes_ahead str ahead)) (.inr here)
  · exact iff_of_true (throws.failsInPlace_iff.mpr rfl) (.inl nothing)
  · refine iff_of_false (fun in_place => ?_) ?_
    · exact absurd (throws.failsInPlace_iff.mp in_place) (Nat.ne_of_gt some)
    · rintro (nothing | ⟨s, bytes, behind, str, ahead⟩)
      · rw [nothing] at bound
        exact absurd (some.trans_le bound) (Nat.lt_irrefl 0)
      · obtain ⟨fault, -, thrown⟩ := throws
        cases thrown.symm.trans (readBytes_ahead str ahead)

/-- A vector header is refused in place exactly if not even its constructor is ahead. -/
lemma failsInPlace_vector_header :
    FailsInPlace readVectorHeader r ↔ r.ahead.length < 4 ∨ VectorAhead r := by
  rcases readVectorHeader_cases r with ⟨here, s, behind, count, ahead, reads⟩ | ⟨short, throws⟩ |
    ⟨enough, wrong, throws⟩
  · have inside := inside_of_enough (by decide) here.1
    exact iff_of_true (failsInPlace_of_ok (reads.on_ahead inside ahead)) (.inr here)
  · exact iff_of_true (throws.failsInPlace_iff.mpr rfl) (.inl short)
  · refine iff_of_false (fun in_place => ?_) ?_
    · exact absurd (throws.failsInPlace_iff.mp in_place) (by decide)
    · rintro (short | here)
      · exact absurd short (Nat.not_lt.mpr enough)
      · exact wrong here

/-- Setting the offset fails where the reader stands. -/
lemma failsInPlace_setOffset (offset : Nat) : FailsInPlace (setOffset offset) r := by
  intro fault r' thrown
  rw [on_setOffset] at thrown
  split at thrown
  · cases thrown
    rfl
  · cases thrown

/-- The reads of a fixed number of bytes. -/
lemma failsInPlace_scalar {type : TLType}
    (scalar : type ∉ [TLType.string, .bytes, .vectorHeader]) : FailsInPlace (read type) r := by
  cases type with
  | int32 | int64 =>
    refine (failsInPlace_map _).mpr ((failsInPlace_map _).mpr ((failsInPlace_map _).mpr ?_))
    exact failsInPlace_fixed (by decide) _
  | uint32 | uint64 =>
    refine (failsInPlace_map _).mpr ((failsInPlace_map _).mpr ?_)
    exact failsInPlace_fixed (by decide) _
  | int128 | int256 | double => exact (failsInPlace_map _).mpr (failsInPlace_fixed (by decide) _)
  | string | bytes | vectorHeader => exact absurd (by decide) scalar

/-- What a compound read asks for stands whole ahead, or not even what it looks at first does. -/
def Call.WholeOrNothing : Call → TLReader → Prop
  | .read .string, r => r.ahead = [] ∨ StringAhead r
  | .read .bytes, r => r.ahead = [] ∨ StringAhead r
  | .read .vectorHeader, r => r.ahead.length < 4 ∨ VectorAhead r
  | _, _ => True

/-- A call that throws leaves the offset alone, over every buffer and from every offset, exactly where a
string or a vector header that is asked for stands whole or does not start. -/
theorem fails_in_place_iff (call : Call) (r : TLReader) :
    FailsInPlace call.method r ↔ call.WholeOrNothing r := by
  cases call with
  | setOffset offset =>
    have in_place : FailsInPlace (Call.setOffset offset).method r :=
      (failsInPlace_map fun _ => Returned.void).mpr (failsInPlace_setOffset offset)
    exact iff_of_true in_place trivial
  | readInvokeWithLayer outLayer outQuery =>
    refine iff_of_true ?_ trivial
    by_cases here : EnvelopeAhead r
    · exact failsInPlace_of_ok (on_bind_ok (readInvokeWithLayer_found here))
    · exact failsInPlace_of_ok (on_bind_ok (readInvokeWithLayer_refused here))
  | read type =>
    refine (failsInPlace_map _).trans ?_
    cases type with
    | string | bytes => exact (failsInPlace_map _).trans failsInPlace_bytes
    | vectorHeader => exact (failsInPlace_map _).trans failsInPlace_vector_header
    | _ => exact iff_of_true (failsInPlace_scalar (by decide)) trivial

/-- A mark that is no length is passed, and so is a word that is not the vector constructor. -/
theorem fails_behind_first :
    ¬ FailsInPlace (Call.read .bytes).method ⟨[0xff], 0⟩ ∧
      ¬ FailsInPlace (Call.read .vectorHeader).method ⟨[1, 0, 0, 0], 0⟩ := by
  constructor
  · intro in_place
    cases in_place (.runtimeError "Invalid TL length prefix byte") ⟨[0xff], 1⟩ rfl
  · intro in_place
    cases in_place (.runtimeError "Invalid vector constructor ID") ⟨[1, 0, 0, 0], 4⟩ rfl

end TLReader

end CppGram
