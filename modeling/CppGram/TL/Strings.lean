import CppGram.TL.Basic

/-!
# TL strings

`TLString s bytes` is the form of a string that `read_bytes` accepts: a header that announces the
length of `bytes`, in its first byte or in three bytes behind the mark, then `bytes`, then as much
padding as completes a word. `read_bytes` reads what stands in this form (`reads_string`). Where
nothing ahead does, it throws, and it has not moved only if nothing at all is ahead
(`readBytes_cases`).
-/

namespace CppGram
open Ige Reading

/-- The strings that `read_bytes` accepts, and their contents. -/
inductive TLString : List UInt8 → List UInt8 → Prop where
  | short {first bytes padding} :
    first ≤ 253 →
    bytes.length = first.toNat →
    padding.length = TLWriter.pad 1 first.toNat →
    TLString (first :: (bytes ++ padding)) bytes
  | long {b0 b1 b2 bytes padding} :
    bytes.length = (word24 b0 b1 b2).toNat →
    padding.length = TLWriter.pad 4 (word24 b0 b1 b2).toNat →
    TLString (0xfe :: b0 :: b1 :: b2 :: (bytes ++ padding)) bytes

/-- A string has a first byte. -/
lemma TLString.nonempty {s bytes} (str : TLString s bytes) : 0 < s.length := by
  cases str with
  | short => exact Nat.succ_pos _
  | long => exact Nat.succ_pos _

/-- Three bytes announce a length below `2 ^ 24`. -/
lemma word24_lt {b0 b1 b2} : (word24 b0 b1 b2).toNat < 2 ^ 24 := by
  rw [word24_toNat]
  have bound : Bytes.ofLE [b0, b1, b2] < 256 ^ 3 := Bytes.ofLE_lt _
  omega

/-- A string has less than 2^24 bytes. -/
lemma TLString.length_lt {s bytes} (str : TLString s bytes) : bytes.length < 2 ^ 24 := by
  cases str with
  | @short first _ _ _ len _ =>
    have := first.toNat_lt
    omega
  | long len _ =>
    rw [len]
    exact word24_lt

namespace TLReader

/-- `p` throws at `r`, having moved by `n`. -/
def Throws {β : Type} (p : Method β) (r : TLReader) (n : Nat) : Prop :=
  ∃ fault, fault ≠ .outOfBounds ∧ p.on r = (.error fault, r.advance n)

/-- A check that is not met throws where it stands. -/
lemma throws_underflow {β : Type} {bytes what} {p : Method β} {r : TLReader}
    (unmet : r.hasRemaining bytes = false) :
    Throws (requireRemaining bytes what >>= fun _ => p) r 0 := by
  refine ⟨.underflowError _, ?_, on_require_unmet unmet⟩
  exact fun same => by cases same

/-- A throw behind a check that is met. -/
lemma Throws.checked {β : Type} {bytes what n} {p : Method β} {r : TLReader}
    (met : r.hasRemaining bytes = true) (h : Throws p r n) :
    Throws (requireRemaining bytes what >>= fun _ => p) r n := by
  obtain ⟨fault, inside, thrown⟩ := h
  exact ⟨fault, inside, (on_bind_ok (on_require_met met)).trans thrown⟩

/-- A throw behind a part that has moved. -/
lemma Throws.after {β γ : Type} {p : Method β} {f : β → Method γ} {r : TLReader} {m n b}
    (first : p.on r = (.ok b, r.advance m)) (h : Throws (f b) (r.advance m) n) :
    Throws (p >>= f) r (m + n) := by
  obtain ⟨fault, inside, thrown⟩ := h
  refine ⟨fault, inside, ?_⟩
  rw [on_bind_ok first, thrown, Cursor.advance_advance]

/-- A throw of the first part. -/
lemma Throws.first {β γ : Type} {p : Method β} {f : β → Method γ} {r : TLReader} {n}
    (h : Throws p r n) : Throws (p >>= f) r n := by
  obtain ⟨fault, inside, thrown⟩ := h
  exact ⟨fault, inside, on_bind_error thrown⟩

/-! ## Strings are read -/

/-- A length up to 253 is its own header. -/
lemma reads_length_first {first : UInt8} (small : first ≤ 253) :
    Reads readLength [first] (first.toNat, 1) := by
  refine Reads.require (Reads.next.bind (t := []) ?_) (Nat.le_refl _)
  rw [if_pos small]
  exact .pure

/-- Behind the mark the length stands in three bytes. -/
lemma reads_length_word {b0 b1 b2 : UInt8} :
    Reads readLength [0xfe, b0, b1, b2] ((word24 b0 b1 b2).toNat, 4) := by
  refine Reads.require (Reads.next.bind (t := [b0, b1, b2]) ?_) (Nat.le_add_left _ _)
  rw [if_neg (by decide), if_pos rfl]
  refine Reads.require ?_ (Nat.le_refl _)
  exact Reads.next.bind (Reads.next.bind (Reads.next.bind (t := []) .pure))

/-- The padding may be any bytes. -/
lemma reads_content {bytes padding : List UInt8} {len headerLen} (length : bytes.length = len)
    (padded : padding.length = TLWriter.pad headerLen len) :
    Reads (readContent len headerLen) (bytes ++ padding) bytes := by
  subst length
  refine Reads.require ((Reads.take rfl).bind ?_) (by simp)
  refine Reads.require ?_ padded.ge
  have skipped : Reads (skip (TLWriter.pad headerLen bytes.length) : Method Unit) padding () :=
    .skip padded
  have whole := skipped.map fun _ => bytes
  exact whole

/-- A string is read as its bytes. -/
lemma reads_string {s bytes} (str : TLString s bytes) : Reads readBytes s bytes := by
  cases str with
  | short small length padded =>
    exact (reads_length_first small).bind (reads_content length padded)
  | long length padded => exact reads_length_word.bind (reads_content length padded)

/-- A reader with a byte ahead is inside of its data. -/
lemma inside_of_ahead {r : TLReader} {first rest} (ahead : r.ahead = first :: rest) :
    r.offset ≤ r.data.length := by
  have some := r.ahead_length
  rw [ahead, List.length_cons] at some
  omega

/-- A string that stands ahead is taken. -/
lemma readBytes_ahead {r : TLReader} {s bytes behind} (str : TLString s bytes)
    (ahead : r.ahead = s ++ behind) : readBytes.on r = (.ok bytes, r.advance s.length) := by
  cases s with
  | nil => exact absurd str.nonempty (Nat.lt_irrefl 0)
  | cons first rest => exact (reads_string str).on_ahead (inside_of_ahead ahead) ahead

/-! ## Nothing else is -/

/-- A whole string stands ahead. -/
def StringAhead (r : TLReader) : Prop := ∃ s bytes behind, TLString s bytes ∧ r.ahead = s ++ behind

/-- A reader stays inside of its data as long as it takes what is there. -/
lemma inside_advance {r : TLReader} {n} (inside : r.offset ≤ r.data.length)
    (enough : n ≤ r.ahead.length) : (r.advance n).offset ≤ (r.advance n).data.length := by
  rw [r.ahead_length] at enough
  simp only [Cursor.advance_data, Cursor.advance_offset]
  omega

/-- The content and the padding are there, or are missed where the length was read or behind the
content. -/
lemma readContent_cases {r : TLReader} (inside : r.offset ≤ r.data.length) (len headerLen : Nat) :
    (∃ bytes padding behind, r.ahead = bytes ++ padding ++ behind ∧ bytes.length = len ∧
      padding.length = TLWriter.pad headerLen len) ∨
    ∃ n ≤ r.ahead.length, Throws (readContent len headerLen) r n := by
  rcases Nat.lt_or_ge r.ahead.length len with short | enough
  · refine .inr ⟨0, Nat.zero_le _, throws_underflow ?_⟩
    rw [r.hasRemaining_eq inside, decide_eq_false (Nat.not_le.mpr short)]
  rcases Nat.lt_or_ge (r.ahead.length - len) (TLWriter.pad headerLen len) with short | padded
  · -- the content is taken before the padding is missed
    obtain ⟨block, taken, -⟩ := on_take TLFault.outOfBounds inside enough
    have met : r.hasRemaining len = true := by
      rw [r.hasRemaining_eq inside, decide_eq_true enough]
    refine .inr ⟨len + 0, enough, .checked met (.after taken (throws_underflow ?_))⟩
    rw [Cursor.hasRemaining_eq (inside_advance inside enough), Cursor.ahead_advance,
      List.length_drop]
    exact decide_eq_false (Nat.not_le.mpr short)
  · refine .inl ⟨r.ahead.take len, (r.ahead.drop len).take (TLWriter.pad headerLen len),
      (r.ahead.drop len).drop (TLWriter.pad headerLen len), ?_, ?_, ?_⟩
    · rw [List.append_assoc, List.take_append_drop, List.take_append_drop]
    · exact List.length_take_of_le enough
    · rw [List.length_take, List.length_drop, Nat.min_eq_left padded]

/-- A length is announced, or is missed. -/
lemma readLength_cases {r : TLReader} {first rest} (ahead : r.ahead = first :: rest) :
    (first ≤ 253) ∨ (∃ b0 b1 b2 behind, first = 0xfe ∧ rest = b0 :: b1 :: b2 :: behind) ∨
    Throws readLength r 1 := by
  have met : r.hasRemaining 1 = true := by
    rw [Cursor.hasRemaining_pos (Nat.one_pos), ahead]
    exact decide_eq_true (Nat.le_add_left _ _)
  by_cases small : first ≤ 253
  · exact .inl small
  by_cases mark : first = 0xfe
  · by_cases short : rest.length < 3
    · refine .inr (.inr (.checked met (.after (n := 0) (on_next ahead) ?_)))
      rw [if_neg small, if_pos mark]
      refine throws_underflow ?_
      rw [Cursor.hasRemaining_pos (by decide), Cursor.ahead_advance, ahead]
      exact decide_eq_false (Nat.not_le.mpr short)
    · rcases rest with _ | ⟨b0, _ | ⟨b1, _ | ⟨b2, behind⟩⟩⟩
      · exact absurd (by decide) short
      · exact absurd (Nat.lt_of_sub_eq_succ rfl) short
      · exact absurd (Nat.lt_of_sub_eq_succ rfl) short
      · exact .inr (.inl ⟨b0, b1, b2, behind, mark, rfl⟩)
  · refine .inr (.inr (.checked met (.after (n := 0) (on_next ahead) ?_)))
    rw [if_neg small, if_neg mark]
    exact ⟨.runtimeError _, (fun same => by cases same), rfl⟩

/-- Behind a header, either a string stands ahead or what is missed of it makes `read_bytes` throw. -/
lemma readBytes_behind {r : TLReader} {header behind len}
    (read : Reads readLength header (len, header.length))
    (form : ∀ {bytes padding}, bytes.length = len →
      padding.length = TLWriter.pad header.length len → TLString (header ++ (bytes ++ padding)) bytes)
    (inside : r.offset ≤ r.data.length) (ahead : r.ahead = header ++ behind) :
    StringAhead r ∨ ∃ n, header.length + n ≤ r.ahead.length ∧
      Throws readBytes r (header.length + n) := by
  have within : header.length ≤ r.ahead.length := by
    rw [ahead, List.length_append]
    exact Nat.le_add_right _ _
  have rest : (r.advance header.length).ahead = behind := by
    rw [Cursor.ahead_advance, ahead, List.drop_left]
  rcases readContent_cases (inside_advance inside within) len header.length with
    ⟨bytes, padding, beyond, there, length, padded⟩ | ⟨n, more, thrown⟩
  · refine .inl ⟨_, bytes, beyond, form length padded, ?_⟩
    rw [ahead, ← rest, there]
    simp only [List.append_assoc]
  · refine .inr ⟨n, ?_, .after (read.on_ahead inside ahead) thrown⟩
    rw [Cursor.ahead_advance, List.length_drop] at more
    omega

/-- A string stands ahead, or `read_bytes` throws, in front of the first byte only if there is
none. -/
lemma readBytes_cases (r : TLReader) :
    StringAhead r ∨ (r.ahead = [] ∧ Throws readBytes r 0) ∨
      ∃ n, 0 < n ∧ n ≤ r.ahead.length ∧ Throws readBytes r n := by
  cases ahead : r.ahead with
  | nil =>
    refine .inr (.inl ⟨rfl, (throws_underflow ?_).first⟩)
    rw [Cursor.hasRemaining_pos Nat.one_pos, ahead]
    rfl
  | cons first rest =>
    have inside := inside_of_ahead ahead
    rw [← ahead]
    rcases readLength_cases ahead with small | ⟨b0, b1, b2, behind, rfl, rfl⟩ | bad
    · have read := reads_length_first small
      rcases readBytes_behind read (.short small) inside ahead with here | ⟨n, bound, thrown⟩
      · exact .inl here
      · exact .inr (.inr ⟨_, Nat.add_pos_left Nat.one_pos n, bound, thrown⟩)
    · have read : Reads readLength [0xfe, b0, b1, b2] _ := reads_length_word
      rcases readBytes_behind read .long inside ahead with here | ⟨n, bound, thrown⟩
      · exact .inl here
      · exact .inr (.inr ⟨_, Nat.add_pos_left (Nat.succ_pos 3) n, bound, thrown⟩)
    · refine .inr (.inr ⟨1, Nat.one_pos, ?_, bad.first⟩)
      rw [ahead]
      exact Nat.le_add_left _ _

/-- `read_bytes` accepts what starts with a string, and takes the string. -/
lemma readBytes_inv {r r' : TLReader} {bytes} (read : readBytes.on r = (.ok bytes, r')) :
    ∃ s behind, TLString s bytes ∧ r.ahead = s ++ behind ∧ r' = r.advance s.length := by
  rcases readBytes_cases r with ⟨s, found, behind, str, ahead⟩ | ⟨-, _, -, thrown⟩ |
    ⟨_, -, -, _, -, thrown⟩
  · have call := readBytes_ahead str ahead
    rw [read] at call
    cases call
    exact ⟨s, behind, str, ahead, rfl⟩
  · cases read.symm.trans thrown
  · cases read.symm.trans thrown

end TLReader

end CppGram
