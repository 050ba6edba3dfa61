import CppGram.TL.Envelope

/-!
# Calls of a reader

A reader is driven by calls on bytes that nobody has checked, and goes on after a call that has thrown.
`Outcome` says what a read can do at a place: take some bytes off what is ahead, in a way that depends
on nothing else, or throw without leaving what is ahead. So the offset stays inside of the buffer
(`runCalls_inside`), whether they throw or not, and what a read returns is made of the bytes it takes
(`calls_safe`).
-/

namespace CppGram
open Ige Reading

namespace TLReader

variable {β γ : Type} {r : TLReader}

/-! ## What a read can do -/

/-- A read at a place: it takes some bytes and makes a value of them, wherever they stand, or it throws
before it has left what is ahead. -/
inductive Outcome (p : Method β) (r : TLReader) : Prop where
  | taken {s behind b} :
    r.ahead = s ++ behind →
    Reads p s b →
    Outcome p r
  | thrown {n} :
    n ≤ r.ahead.length →
    Throws p r n →
    Outcome p r

/-- What is made of the result does not change how a method comes out. -/
lemma Outcome.map {p : Method β} (f : β → γ) (h : Outcome p r) :
    Outcome (do return f (← p)) r := by
  cases h with
  | taken ahead reads => exact .taken ahead (reads.map f)
  | thrown bound throws => exact .thrown bound throws.first

/-- A block stands ahead, or is missed where it would start. -/
lemma readFixed_cases {n : Nat} (some : 0 < n) (what : String) (r : TLReader) :
    (n ≤ r.ahead.length ∧
      ∃ s behind, ∃ b : Block UInt8 n, r.ahead = s ++ behind ∧ Reads (readFixed n what) s b) ∨
      Throws (readFixed n what) r 0 := by
  by_cases enough : n ≤ r.ahead.length
  · have len : (r.ahead.take n).length = n := List.length_take_of_le enough
    exact .inl ⟨enough, r.ahead.take n, r.ahead.drop n, ⟨r.ahead.take n, len⟩,
      (List.take_append_drop n _).symm, reads_fixed what ⟨r.ahead.take n, len⟩⟩
  · refine .inr (throws_underflow ?_)
    rw [Cursor.hasRemaining_pos some, decide_eq_false enough]

/-- A read of fixed length reads its bytes or throws where it stands. -/
lemma outcome_fixed {n : Nat} (some : 0 < n) (what : String) : Outcome (readFixed n what) r := by
  rcases readFixed_cases some what r with ⟨-, s, behind, b, ahead, reads⟩ | throws
  · exact .taken ahead reads
  · exact .thrown (Nat.zero_le _) throws

/-- A read of bytes takes them, or throws before it has left what is ahead. -/
lemma outcome_bytes : Outcome readBytes r := by
  rcases readBytes_cases r with ⟨s, bytes, behind, str, ahead⟩ | ⟨-, throws⟩ |
    ⟨n, -, bound, throws⟩
  · exact .taken ahead (reads_string str)
  · exact .thrown (Nat.zero_le _) throws
  · exact .thrown bound throws

/-- A whole vector header stands ahead. -/
def VectorAhead (r : TLReader) : Prop := 8 ≤ r.ahead.length ∧ r.nextWord = TL_VECTOR

lemma throws_uint32 (short : r.ahead.length < 4) : Throws readUint32 r 0 := by
  refine (throws_underflow ?_).first
  rw [Cursor.hasRemaining_pos (by decide), decide_eq_false (Nat.not_le.mpr short)]

/-- A vector header stands ahead, or its constructor is missed where it would start, or something is
wrong behind the constructor. -/
lemma readVectorHeader_cases (r : TLReader) :
    (VectorAhead r ∧ ∃ s behind count, r.ahead = s ++ behind ∧ Reads readVectorHeader s count) ∨
    (r.ahead.length < 4 ∧ Throws readVectorHeader r 0) ∨
    (4 ≤ r.ahead.length ∧ ¬ VectorAhead r ∧ Throws readVectorHeader r 4) := by
  by_cases enough : 4 ≤ r.ahead.length
  · have first := readUint32_ahead enough
    have rest : (r.advance 4).ahead = r.ahead.drop 4 := Cursor.ahead_advance
    by_cases word : r.nextWord = TL_VECTOR
    · by_cases whole : 8 ≤ r.ahead.length
      · have count : 4 ≤ (r.advance 4).ahead.length := by
          rw [rest, List.length_drop]
          omega
        refine .inl ⟨⟨whole, word⟩, _, (r.advance 4).ahead.drop 4, _, ?_,
          reads_vector (nextWord (r.advance 4))⟩
        rw [List.append_assoc, ← ahead_word count, rest, ← word]
        exact ahead_word enough
      · have short : (r.advance 4).ahead.length < 4 := by
          rw [rest, List.length_drop]
          omega
        refine .inr (.inr ⟨enough, fun here => whole here.1, .after (n := 0) first ?_⟩)
        rw [if_neg (not_not_intro word)]
        exact throws_uint32 short
    · refine .inr (.inr ⟨enough, fun here => word here.2, .after (n := 0) first ?_⟩)
      rw [if_pos word]
      exact ⟨.runtimeError _, (fun same => by cases same), rfl⟩
  · exact .inr (.inl ⟨Nat.not_le.mp enough, (throws_uint32 (Nat.not_le.mp enough)).first⟩)

/-- A read of a vector header takes it, or throws before it has left what is ahead. -/
lemma outcome_vector_header : Outcome readVectorHeader r := by
  rcases readVectorHeader_cases r with ⟨-, s, behind, count, ahead, reads⟩ | ⟨-, throws⟩ |
    ⟨bound, -, throws⟩
  · exact .taken ahead reads
  · exact .thrown (Nat.zero_le _) throws
  · exact .thrown bound throws

/-- A read of any type takes its bytes, or throws before it has left what is ahead. -/
lemma outcome_read (type : TLType) : Outcome (read type) r := by
  cases type with
  | int32 => exact (((outcome_fixed (by decide) _).map _).map _).map _
  | uint32 => exact ((outcome_fixed (by decide) _).map _).map _
  | int64 => exact (((outcome_fixed (by decide) _).map _).map _).map _
  | uint64 => exact ((outcome_fixed (by decide) _).map _).map _
  | int128 | int256 | double => exact (outcome_fixed (by decide) _).map _
  | string | bytes => exact outcome_bytes.map _
  | vectorHeader => exact outcome_vector_header.map _

/-! ## Calls -/

/-- A call that reads, or that moves the reader. -/
inductive Call where
  | read (type : TLType)
  | setOffset (offset : Nat)
  | readInvokeWithLayer (outLayer : Int32) (outQuery : List UInt8)

/-- What a call returns; for `read_invoke_with_layer`, also what it leaves in its arguments. -/
inductive Returned where
  | value (v : TLValue)
  | void
  | envelope (found : Bool) (outLayer : Int32) (outQuery : List UInt8)

namespace Call

/-- The method of the reader that a call is of. -/
def method : Call → Method Returned
  | .read type => do return .value (← TLReader.read type)
  | .setOffset offset => do
    TLReader.setOffset offset
    return .void
  | .readInvokeWithLayer outLayer outQuery => do
    let (found, layer, query) ← TLReader.readInvokeWithLayer outLayer outQuery
    return .envelope found layer query

/-- The calls that take bytes. -/
def IsRead : Call → Prop
  | .setOffset _ => False
  | _ => True

/-- What may stand behind the bytes that a read takes: nothing, if it takes all there are. -/
def MayFollow : Call → List UInt8 → Prop
  | .readInvokeWithLayer _ _, behind => behind = []
  | _, _ => True

end Call

/-- The reader after calls one after the other, whether they throw or not. -/
def runCalls (calls : List Call) (r : TLReader) : TLReader :=
  calls.foldl (fun r call => (call.method.on r).2) r

/-- The offset is set if it lies in the data. -/
lemma on_setOffset (offset : Nat) :
    (setOffset offset).on r = if r.data.length < offset then
        (.error (.outOfRange "TLReader offset out of range"), r)
      else (.ok (), { r with offset }) := by
  rw [setOffset, on_bind_ok on_get]
  split
  · rfl
  · rfl

/-- What a read has returned depended on the bytes `w` alone: it takes just these, and returns the same,
wherever they stand. -/
def Determined (call : Call) (w : List UInt8) (returned : Returned) : Prop :=
  ∀ before behind, call.MayFollow behind →
    call.method.on ⟨before ++ (w ++ behind), before.length⟩ =
      (.ok returned, ⟨before ++ (w ++ behind), before.length + w.length⟩)

/-- What a call leaves of a reader that is inside of its buffer. -/
structure Safe (call : Call) (r : TLReader) : Prop where
  data : (call.method.on r).2.data = r.data
  inside : (call.method.on r).2.offset ≤ r.data.length
  bounds : (call.method.on r).1 ≠ .error .outOfBounds
  determined : call.IsRead → ∀ returned, (call.method.on r).1 = .ok returned →
    r.offset ≤ (call.method.on r).2.offset ∧
      Determined call (Bytes.span r.data r.offset ((call.method.on r).2.offset - r.offset)) returned

/-- A call that has taken what was ahead. -/
lemma safe_of_taken {call : Call} {s behind : List UInt8} {returned : Returned}
    (inside : r.offset ≤ r.data.length) (ahead : r.ahead = s ++ behind)
    (took : call.method.on r = (.ok returned, r.advance s.length))
    (determined : Determined call s returned) : Safe call r := by
  have taken : Bytes.span r.data r.offset ((r.advance s.length).offset - r.offset) = s := by
    rw [Cursor.advance_offset, Nat.add_sub_cancel_left, Bytes.span, ← Cursor.ahead, ahead,
      List.take_left]
  have bound : s.length ≤ r.ahead.length := by
    rw [ahead, List.length_append]
    exact Nat.le_add_right _ _
  refine ⟨?_, ?_, ?_, ?_⟩
  · rw [took]
    rfl
  · rw [took]
    exact inside_advance inside bound
  · rw [took]
    exact fun this => by cases this
  · rw [took, taken]
    rintro - _ ⟨⟩
    exact ⟨Nat.le_add_right _ _, determined⟩

/-- A call that throws before it has left what was ahead. -/
lemma safe_of_thrown {call : Call} {n} (inside : r.offset ≤ r.data.length)
    (bound : n ≤ r.ahead.length) (throws : Throws call.method r n) : Safe call r := by
  obtain ⟨fault, within, thrown⟩ := throws
  refine ⟨?_, ?_, ?_, ?_⟩
  · rw [thrown]
    rfl
  · rw [thrown]
    exact inside_advance inside bound
  · rw [thrown]
    exact fun this => within (Except.error.inj this)
  · rw [thrown]
    exact fun _ _ this => by cases this

/-- A read is safe. -/
lemma safe_read (type : TLType) (inside : r.offset ≤ r.data.length) : Safe (.read type) r := by
  cases (outcome_read (r := r) type).map Returned.value with
  | taken ahead reads =>
    exact safe_of_taken inside ahead (reads.on_ahead inside ahead)
      fun before behind _ => reads before behind
  | thrown bound throws => exact safe_of_thrown inside bound throws

/-- To set the offset is safe. -/
lemma safe_setOffset (offset : Nat) (inside : r.offset ≤ r.data.length) :
    Safe (.setOffset offset) r := by
  by_cases outside : r.data.length < offset
  · have thrown : Throws (Call.setOffset offset).method r 0 := by
      refine Throws.first ⟨.outOfRange "TLReader offset out of range", ?_, ?_⟩
      · exact fun this => by cases this
      · rw [on_setOffset, if_pos outside]
        rfl
    exact safe_of_thrown inside (Nat.zero_le _) thrown
  · have moved : (Call.setOffset offset).method.on r = (.ok .void, { r with offset }) := by
      refine on_bind_ok (b := ()) ?_
      rw [on_setOffset, if_neg outside]
    refine ⟨?_, ?_, ?_, ?_⟩
    · rw [moved]
    · rw [moved]
      exact Nat.not_lt.mp outside
    · rw [moved]
      exact fun this => by cases this
    · exact fun none => none.elim

/-- The end of a buffer holds an envelope exactly if the whole buffer does. -/
lemma envelopeAhead_congr {r r' : TLReader} (same : r.ahead = r'.ahead) :
    EnvelopeAhead r ↔ EnvelopeAhead r' := by
  rw [EnvelopeAhead, EnvelopeAhead, remainingBytes_ahead, remainingBytes_ahead, nextWord, nextWord,
    same]

lemma layer_congr {r r' : TLReader} (same : r.ahead = r'.ahead) :
    nextWord (r.advance 4) = nextWord (r'.advance 4) := by
  rw [nextWord, nextWord, Cursor.ahead_advance, Cursor.ahead_advance, same]

lemma ahead_at_end (before s : List UInt8) :
    (⟨before ++ (s ++ []), before.length⟩ : TLReader).ahead = s := by
  rw [Cursor.ahead, List.append_nil, List.drop_left]

/-- To open an envelope is safe. -/
lemma safe_readInvokeWithLayer (outLayer : Int32) (outQuery : List UInt8)
    (inside : r.offset ≤ r.data.length) : Safe (.readInvokeWithLayer outLayer outQuery) r := by
  by_cases here : EnvelopeAhead r
  · refine safe_of_taken inside (List.append_nil _).symm
      (on_bind_ok (readInvokeWithLayer_found here)) ?_
    rintro before behind ⟨⟩
    have same := ahead_at_end before r.ahead
    refine on_bind_ok ((readInvokeWithLayer_found ((envelopeAhead_congr same).mpr here)).trans ?_)
    rw [layer_congr same, same]
    rfl
  · refine safe_of_taken inside (List.nil_append _).symm
      (on_bind_ok (readInvokeWithLayer_refused here)) ?_
    rintro before behind ⟨⟩
    refine on_bind_ok (readInvokeWithLayer_refused fun there => ?_)
    have long := there.1
    rw [remainingBytes_ahead, ahead_at_end] at long
    exact absurd long (by decide)

/-- Every call keeps a reader inside of its buffer. -/
lemma safe_call (call : Call) (inside : r.offset ≤ r.data.length) : Safe call r := by
  cases call with
  | read type => exact safe_read type inside
  | setOffset offset => exact safe_setOffset offset inside
  | readInvokeWithLayer outLayer outQuery => exact safe_readInvokeWithLayer outLayer outQuery inside

/-- Calls keep the buffer, and the reader inside of it. -/
lemma runCalls_inside (calls : List Call) (inside : r.offset ≤ r.data.length) :
    (runCalls calls r).data = r.data ∧ (runCalls calls r).offset ≤ r.data.length := by
  induction calls generalizing r with
  | nil => exact ⟨rfl, inside⟩
  | cons call calls ih =>
    have first := safe_call call inside
    have rest := ih (first.inside.trans_eq (congrArg List.length first.data.symm))
    rw [first.data] at rest
    exact rest

/-- Over every buffer and after all calls, those that threw included, a reader is inside of its buffer,
and so it is after the next call, which touches no byte outside. What that returns if it is a read is
determined by the bytes between the offsets before and after it. -/
theorem calls_safe (data : List UInt8) (calls : List Call) (call : Call) :
    let r := runCalls calls ⟨data, 0⟩
    let r' := (call.method.on r).2
    r.data = data ∧ r.offset ≤ data.length ∧ r'.offset ≤ data.length ∧
      (call.method.on r).1 ≠ .error .outOfBounds ∧
      (call.IsRead → ∀ returned, (call.method.on r).1 = .ok returned →
        r.offset ≤ r'.offset ∧
          Determined call (Bytes.span data r.offset (r'.offset - r.offset)) returned) := by
  intro r r'
  obtain ⟨same, inside⟩ := runCalls_inside (r := ⟨data, 0⟩) calls (Nat.zero_le _)
  have next := safe_call call (inside.trans_eq (congrArg List.length same.symm))
  have determined := next.determined
  rw [same] at determined
  exact ⟨same, inside, next.inside.trans_eq (congrArg List.length same), next.bounds, determined⟩

/-- A string, behind a word that was refused as a vector header. -/
theorem calls_safe_string :
    Determined (.read .string) (Bytes.span [7, 0, 0, 0, 1, 65, 0, 0] 4 (8 - 4))
      (.value (.string [65])) := by
  have safe := calls_safe [7, 0, 0, 0, 1, 65, 0, 0] [.read .vectorHeader] (.read .string)
  exact (safe.2.2.2.2 trivial _ rfl).2

end TLReader

end CppGram
