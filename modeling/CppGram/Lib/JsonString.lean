import CppGram.Lib.Json

/-!
# The grammar of JSON strings

What stands between the quotes of a JSON string, as a relation between a text and the bytes it
spells: a printable byte for itself, a backslash and a letter, a `\u` escape, or two of them that are
a surrogate pair. A byte above 127 stands for itself, half a surrogate pair for nothing.

No spelling starts like another (`Spelling.unique`), so a string ends at its first quote that no
spelling takes, and says one thing only (`Chars.unique`).
-/

namespace Json

/-- The number of four hexadecimal digits. -/
def hex4 (w x y z : UInt8) : Option Nat := do
  return 4096 * (← hexValue w) + 256 * (← hexValue x) + 16 * (← hexValue y) + (← hexValue z)

/-- The UTF-8 bytes of a code point. -/
def encodeUtf8 (n : Nat) : List UInt8 := String.utf8EncodeChar (Char.ofNat n)

/-- The first half of a surrogate pair. -/
def HighSurrogate (n : Nat) : Prop := 0xD800 ≤ n ∧ n < 0xDC00

/-- The second half of a surrogate pair. -/
def LowSurrogate (n : Nat) : Prop := 0xDC00 ≤ n ∧ n < 0xE000

/-- `Spelling u bs` when `u` is one way to spell `bs`. -/
inductive Spelling : List UInt8 → List UInt8 → Prop where
  | plain {c} : 32 ≤ c → c ≠ 34 → c ≠ 92 → Spelling [c] [c]
  | letter {e b} : unescape e = some b → Spelling [92, e] [b]
  | unit {w x y z n} : hex4 w x y z = some n → ¬ HighSurrogate n → ¬ LowSurrogate n →
      Spelling [92, 117, w, x, y, z] (encodeUtf8 n)
  | pair {w x y z w' x' y' z' hi lo} : hex4 w x y z = some hi → HighSurrogate hi →
      hex4 w' x' y' z' = some lo → LowSurrogate lo →
      Spelling [92, 117, w, x, y, z, 92, 117, w', x', y', z']
        (encodeUtf8 (0x10000 + (hi - 0xD800) * 0x400 + (lo - 0xDC00)))

/-- `Chars body bs` when the text `body` spells the string `bs`. -/
inductive Chars : List UInt8 → List UInt8 → Prop where
  | nil : Chars [] []
  | cons {u b body bs} : Spelling u b → Chars body bs → Chars (u ++ body) (b ++ bs)

/-- The bytes of a text that no backslash takes with it. -/
def unescaped : List UInt8 → List UInt8
  | [] => []
  | [c] => [c]
  | c :: d :: s => if c = 92 then unescaped s else c :: unescaped (d :: s)

/-- A spelling does not begin with a quote, and is not empty. -/
lemma Spelling.head {u b : List UInt8} (sp : Spelling u b) : ∃ c u', u = c :: u' ∧ c ≠ 34 := by
  cases sp with
  | plain _ quote _ => exact ⟨_, _, rfl, quote⟩
  | letter => exact ⟨_, _, rfl, by decide⟩
  | unit => exact ⟨_, _, rfl, by decide⟩
  | pair => exact ⟨_, _, rfl, by decide⟩

/-- The letter of a short escape is not the `u` of a long one. -/
lemma unescape_ne {e b : UInt8} (names : unescape e = some b) : e ≠ 117 := by
  rintro rfl
  cases names

/-- No spelling starts like another one. -/
lemma Spelling.unique {u b u' b' r r' : List UInt8} (sp : Spelling u b) (sp' : Spelling u' b')
    (same : u ++ r = u' ++ r') : u = u' ∧ b = b' ∧ r = r' := by
  cases sp with
  | plain _ _ backslash =>
    cases sp' with
    | plain =>
      obtain ⟨rfl, rfl⟩ := List.cons.inj same
      exact ⟨rfl, rfl, rfl⟩
    | letter => exact absurd (List.cons.inj same).1 backslash
    | unit => exact absurd (List.cons.inj same).1 backslash
    | pair => exact absurd (List.cons.inj same).1 backslash
  | letter names =>
    cases sp' with
    | plain _ _ backslash => exact absurd (List.cons.inj same).1.symm backslash
    | letter names' =>
      obtain ⟨-, same⟩ := List.cons.inj same
      obtain ⟨rfl, rfl⟩ := List.cons.inj same
      cases Option.some.inj (names.symm.trans names')
      exact ⟨rfl, rfl, rfl⟩
    | unit => exact absurd (List.cons.inj (List.cons.inj same).2).1 (unescape_ne names)
    | pair => exact absurd (List.cons.inj (List.cons.inj same).2).1 (unescape_ne names)
  | unit four notHigh =>
    cases sp' with
    | plain _ _ backslash => exact absurd (List.cons.inj same).1.symm backslash
    | letter names => exact absurd (List.cons.inj (List.cons.inj same).2).1.symm (unescape_ne names)
    | unit four' =>
      simp only [List.cons_append, List.nil_append, List.cons.injEq, true_and] at same
      obtain ⟨rfl, rfl, rfl, rfl, rfl⟩ := same
      cases Option.some.inj (four.symm.trans four')
      exact ⟨rfl, rfl, rfl⟩
    | pair four' high' =>
      simp only [List.cons_append, List.nil_append, List.cons.injEq, true_and] at same
      obtain ⟨rfl, rfl, rfl, rfl, -⟩ := same
      cases Option.some.inj (four.symm.trans four')
      exact absurd high' notHigh
  | pair four high four₂ =>
    cases sp' with
    | plain _ _ backslash => exact absurd (List.cons.inj same).1.symm backslash
    | letter names => exact absurd (List.cons.inj (List.cons.inj same).2).1.symm (unescape_ne names)
    | unit four' notHigh =>
      simp only [List.cons_append, List.nil_append, List.cons.injEq, true_and] at same
      obtain ⟨rfl, rfl, rfl, rfl, -⟩ := same
      cases Option.some.inj (four.symm.trans four')
      exact absurd high notHigh
    | pair four' _ four₂' =>
      simp only [List.cons_append, List.nil_append, List.cons.injEq, true_and] at same
      obtain ⟨rfl, rfl, rfl, rfl, rfl, rfl, rfl, rfl, rfl⟩ := same
      cases Option.some.inj (four.symm.trans four')
      cases Option.some.inj (four₂.symm.trans four₂')
      exact ⟨rfl, rfl, rfl⟩

/-- A string ends at one place only and spells one string only, whatever stands behind it. -/
theorem Chars.unique {body bs body' bs' r r' : List UInt8} (ch : Chars body bs)
    (ch' : Chars body' bs') (same : body ++ 34 :: r = body' ++ 34 :: r') :
    body = body' ∧ bs = bs' ∧ r = r' := by
  induction ch generalizing body' bs' with
  | nil =>
    cases ch' with
    | nil => exact ⟨rfl, rfl, (List.cons.inj same).2⟩
    | cons sp =>
      obtain ⟨c, u, rfl, quote⟩ := sp.head
      exact absurd (List.cons.inj same).1.symm quote
  | cons sp _ ih =>
    cases ch' with
    | nil =>
      obtain ⟨c, u, rfl, quote⟩ := sp.head
      exact absurd (List.cons.inj same).1 quote
    | cons sp' ch' =>
      rw [List.append_assoc, List.append_assoc] at same
      obtain ⟨rfl, rfl, rest⟩ := sp.unique sp' same
      obtain ⟨rfl, rfl, rfl⟩ := ih ch' rest
      exact ⟨rfl, rfl, rfl⟩

/-- A character that is not escaped stays. -/
lemma unescaped_cons {c : UInt8} (backslash : c ≠ 92) (s : List UInt8) :
    unescaped (c :: s) = c :: unescaped s := by
  cases s with
  | nil => rfl
  | cons d s => rw [unescaped, if_neg backslash]

lemma unescaped_escape (e : UInt8) (s : List UInt8) : unescaped (92 :: e :: s) = unescaped s := by
  rw [unescaped, if_pos rfl]

/-- A hexadecimal digit is printable, and neither a quote nor a backslash. -/
lemma hexValue_plain {c : UInt8} {n : Nat} (digit : hexValue c = some n) :
    32 ≤ c ∧ c ≠ 34 ∧ c ≠ 92 := by
  rw [hexValue, isDigit] at digit
  split_ifs at digit with decimal lower upper
  · grind
  · grind
  · grind

/-- Four hexadecimal digits are plain characters. -/
lemma hex4_plain {w x y z : UInt8} {n : Nat} (four : hex4 w x y z = some n) :
    ∀ c ∈ [w, x, y, z], 32 ≤ c ∧ c ≠ 34 ∧ c ≠ 92 := by
  simp only [hex4, Option.bind_eq_bind, Option.bind_eq_some_iff] at four
  obtain ⟨_, hw, _, hx, _, hy, _, hz, -⟩ := four
  simp only [List.forall_mem_cons]
  exact ⟨hexValue_plain hw, hexValue_plain hx, hexValue_plain hy, hexValue_plain hz,
    fun _ inside => absurd inside List.not_mem_nil⟩

/-- So they stay when escapes are taken out. -/
lemma unescaped_hex4 {w x y z : UInt8} {n : Nat} (four : hex4 w x y z = some n) (s : List UInt8) :
    unescaped (w :: x :: y :: z :: s) = [w, x, y, z] ++ unescaped s := by
  obtain ⟨hw, hx, hy, hz, -⟩ := by simpa only [List.forall_mem_cons] using hex4_plain four
  rw [unescaped_cons hw.2.2, unescaped_cons hx.2.2, unescaped_cons hy.2.2, unescaped_cons hz.2.2]
  rfl

/-- What a spelling leaves outside its escapes has no quote and no backslash. -/
lemma Spelling.unescaped {u b : List UInt8} (sp : Spelling u b) (s : List UInt8) :
    ∃ v, unescaped (u ++ s) = v ++ unescaped s ∧ ∀ c ∈ v, c ≠ 34 ∧ c ≠ 92 := by
  cases sp with
  | @plain c _ quote backslash =>
    refine ⟨[c], unescaped_cons backslash s, ?_⟩
    intro d inside
    cases List.mem_singleton.mp inside
    exact ⟨quote, backslash⟩
  | letter => exact ⟨[], unescaped_escape _ s, fun _ inside => absurd inside List.not_mem_nil⟩
  | @unit w x y z _ four =>
    exact ⟨[w, x, y, z], (unescaped_escape 117 _).trans (unescaped_hex4 four s),
      fun c inside => (hex4_plain four c inside).2⟩
  | @pair w x y z w' x' y' z' _ _ four _ four' =>
    refine ⟨[w, x, y, z] ++ [w', x', y', z'], ?_, ?_⟩
    · rw [List.append_assoc, ← unescaped_hex4 four' s, ← unescaped_escape 117 (w' :: _),
        ← unescaped_hex4 four]
      exact unescaped_escape 117 _
    · intro c inside
      rcases List.mem_append.mp inside with inside | inside
      · exact (hex4_plain four c inside).2
      · exact (hex4_plain four' c inside).2

/-- Nothing inside a string is a quote or a backslash that no backslash takes with it. -/
lemma Chars.unescaped {body bs : List UInt8} (ch : Chars body bs) :
    ∀ c ∈ unescaped body, c ≠ 34 ∧ c ≠ 92 := by
  induction ch with
  | nil => exact fun _ inside => absurd inside List.not_mem_nil
  | cons sp _ ih =>
    obtain ⟨v, outside, marks⟩ := sp.unescaped _
    rw [outside]
    intro c inside
    rcases List.mem_append.mp inside with inside | inside
    · exact marks c inside
    · exact ih c inside

lemma unicodeMark_printable : ∀ c ∈ [(92 : UInt8), 117], 32 ≤ c := by decide +kernel

/-- Nothing in a spelling is a control character. -/
lemma Spelling.printable {u b : List UInt8} (sp : Spelling u b) : ∀ c ∈ u, 32 ≤ c := by
  cases sp with
  | plain printable =>
    intro d inside
    cases List.mem_singleton.mp inside
    exact printable
  | @letter e _ names =>
    have printable : 32 ≤ e := by
      rw [unescape] at names
      split_ifs at names with mark b f n r t
      · rcases mark with rfl | rfl | rfl <;> decide
      · exact b ▸ by decide
      · exact f ▸ by decide
      · exact n ▸ by decide
      · exact r ▸ by decide
      · exact t ▸ by decide
    simp only [List.forall_mem_cons]
    exact ⟨by decide, printable, fun _ inside => absurd inside List.not_mem_nil⟩
  | @unit w x y z _ four =>
    change ∀ c ∈ [92, 117] ++ [w, x, y, z], 32 ≤ c
    exact List.forall_mem_append.mpr ⟨unicodeMark_printable, fun c inside => (hex4_plain four c inside).1⟩
  | @pair w x y z w' x' y' z' _ _ four _ four' =>
    change ∀ c ∈ [92, 117] ++ ([w, x, y, z] ++ ([92, 117] ++ [w', x', y', z'])), 32 ≤ c
    simp only [List.forall_mem_append]
    exact ⟨unicodeMark_printable, fun c inside => (hex4_plain four c inside).1,
      unicodeMark_printable, fun c inside => (hex4_plain four' c inside).1⟩

/-- Nothing inside a string is a control character. -/
lemma Chars.printable {body bs : List UInt8} (ch : Chars body bs) : ∀ c ∈ body, 32 ≤ c := by
  induction ch with
  | nil => exact fun _ inside => absurd inside List.not_mem_nil
  | cons sp _ ih =>
    intro c inside
    rcases List.mem_append.mp inside with inside | inside
    · exact sp.printable c inside
    · exact ih c inside

/-- A text spelt byte by byte. -/
lemma Chars.flatMap {escape : UInt8 → List UInt8} (spells : ∀ b, Spelling (escape b) [b])
    (s : List UInt8) : Chars (s.flatMap escape) s := by
  induction s with
  | nil => exact .nil
  | cons b s ih => exact .cons (spells b) ih

end Json
