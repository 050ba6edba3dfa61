import CppGram.Lib.Find
import CppGram.Lib.JsonString

/-!
# Searching JSON texts

A JSON document as it is written: its strings are the bytes between their quotes, its numbers the text
that stands for them. Where the text has no blanks, a search for the bytes `"key":` and the beginning
of a value finds the members of that name and nothing else, as what looks like them inside a string has
its quotes behind backslashes (`after_text`). So the first such place is that of the first member of
that name, in the order in which the members are written (`find_member`).
-/

/-- A JSON document as it is written. -/
inductive Doc where
  | null
  | bool (b : Bool)
  | number (text : List UInt8)
  | string (body : List UInt8)
  | array (items : List Doc)
  | object (members : List (List UInt8 × Doc))

namespace Json

/-- A token: a mark, a word or number, a string, or a name with its colon. -/
inductive Token where
  | mark (c : UInt8)
  | scalar (text : List UInt8)
  | string (body : List UInt8)
  | key (body : List UInt8)
  deriving DecidableEq

/-- The characters of a token. -/
def Token.text : Token → List UInt8
  | .mark c => [c]
  | .scalar text => text
  | .string body => 34 :: (body ++ [34])
  | .key body => 34 :: (body ++ [34, 58])

/-- The text of tokens without blanks. -/
def text (ts : List Token) : List UInt8 := ts.flatMap Token.text

/-- Brackets, braces and the comma. -/
def marks : List UInt8 := [44, 91, 93, 123, 125]

/-- The bytes of words and numbers. -/
def isScalar (c : UInt8) : Bool := c ≠ 34 ∧ c ≠ 58 ∧ c ∉ marks

/-- A name of printable bytes, none of which is a quote or a backslash. -/
def PlainName (name : List UInt8) : Prop := ∀ c ∈ name, 32 ≤ c ∧ c ≠ 34 ∧ c ≠ 92

instance (name : List UInt8) : Decidable (PlainName name) :=
  inferInstanceAs (Decidable (∀ c ∈ name, 32 ≤ c ∧ c ≠ 34 ∧ c ≠ 92))

/-- A token that may stand in a text. -/
def Token.Proper : Token → Prop
  | .mark c => c ∈ marks
  | .scalar text => ∀ c ∈ text, isScalar c = true
  | .string body => ∃ s, Chars body s
  | .key body => PlainName body

/-- Nothing, or a mark first. -/
def Closed (ts : List Token) : Prop := ∀ t us, ts = t :: us → ∃ c ∈ marks, t = .mark c

/-- Tokens that may stand together: behind a value stands nothing or a mark. -/
inductive Tokens : List Token → Prop where
  | nil : Tokens []
  | mark {c ts} : c ∈ marks → Tokens ts → Tokens (.mark c :: ts)
  | scalar {s ts} : (∀ c ∈ s, isScalar c = true) → Closed ts → Tokens ts → Tokens (.scalar s :: ts)
  | string {body s ts} : Chars body s → Closed ts → Tokens ts → Tokens (.string body :: ts)
  | key {body ts} : PlainName body → Tokens ts → Tokens (.key body :: ts)

/-- What stands behind each place at which `m` stands, in order. -/
def after (m : List UInt8) : List UInt8 → List (List UInt8)
  | [] => []
  | c :: s => if m <+: c :: s then (c :: s).drop m.length :: after m s else after m s

/-- The bytes that are searched for: a name with its quotes, a colon, and the beginning of a value. -/
def marker (name front : List UInt8) : List UInt8 := 34 :: (name ++ 34 :: 58 :: front)

/-- A name that a search can be for: what stands behind a quote is not taken for it. -/
def Searched (name : List UInt8) : Prop :=
  PlainName name ∧ ∃ c ∈ name.head?, c ∉ marks ∧ c ≠ 58

/-! ## One token -/

/-- A plain name is spelt as it is. -/
lemma PlainName.chars {name : List UInt8} (plain : PlainName name) : Chars name name := by
  induction name with
  | nil => exact .nil
  | cons c name ih =>
    obtain ⟨⟨printable, quote, backslash⟩, rest⟩ := List.forall_mem_cons.mp plain
    exact .cons (.plain printable quote backslash) (ih rest)

lemma after_cons_of_not {m : List UInt8} {c : UInt8} {s : List UInt8} (other : ¬ m <+: c :: s) :
    after m (c :: s) = after m s := by
  rw [after, if_neg other]

/-- Nothing is found that does not begin with a quote. -/
lemma after_append_of_ne {name front t : List UInt8} (other : ∀ c ∈ t, c ≠ 34) (s : List UInt8) :
    after (marker name front) (t ++ s) = after (marker name front) s := by
  induction t with
  | nil => rfl
  | cons c t ih =>
    obtain ⟨here, rest⟩ := List.forall_mem_cons.mp other
    have none : ¬ marker name front <+: c :: (t ++ s) := by
      intro inside
      exact here (List.cons_prefix_cons.mp inside).1.symm
    rw [List.cons_append, after_cons_of_not none, ih rest]

/-- A quote in a spelling is that of the short escape. -/
lemma Spelling.quote {u b : List UInt8} (sp : Spelling u b) (inside : 34 ∈ u) : u = [92, 34] := by
  have unicode : ∀ {w x y z : UInt8} {n : Nat}, hex4 w x y z = some n →
      (34 : UInt8) ∉ [92, 117, w, x, y, z] := by
    intro w x y z n four inside
    rcases List.mem_append.mp (show 34 ∈ [92, 117] ++ [w, x, y, z] from inside) with mark | digit
    · revert mark
      decide
    · exact (hex4_plain four 34 digit).2.1 rfl
  cases sp with
  | plain _ quote _ => exact absurd (List.mem_singleton.mp inside).symm quote
  | @letter e _ _ =>
    rcases List.mem_cons.mp inside with backslash | here
    · cases backslash
    · rw [List.mem_singleton.mp here]
  | unit four _ _ => exact absurd inside (unicode four)
  | @pair w x y z w' x' y' z' _ _ four _ four' _ =>
    rcases List.mem_append.mp
      (show 34 ∈ [92, 117, w, x, y, z] ++ [92, 117, w', x', y', z'] from inside) with high | low
    · exact absurd high (unicode four)
    · exact absurd low (unicode four')

/-- Behind a quote inside a string stands the rest of a string. -/
lemma Chars.behind_quote {body bs : List UInt8} (ch : Chars body bs) :
    ∀ {front rest : List UInt8}, body = front ++ 34 :: rest → ∃ cs, Chars rest cs := by
  induction ch with
  | nil =>
    intro front rest same
    cases front <;> cases same
  | @cons u b body bs sp ch ih =>
    intro front rest same
    rcases List.append_eq_append_iff.mp same with ⟨mid, there, here⟩ | ⟨mid, there, here⟩
    · exact ih here
    · cases mid with
      | nil => exact @ih [] _ here.symm
      | cons c mid =>
        obtain ⟨rfl, rfl⟩ := List.cons.inj here
        have short := sp.quote (there ▸ List.mem_append_right front List.mem_cons_self)
        have last : mid = [] := by
          rw [short] at there
          cases front with
          | nil => cases (List.cons.inj there).1
          | cons d front =>
            have := congrArg List.length there
            simp only [List.length_cons, List.length_append, List.length_nil] at this
            exact List.eq_nil_of_length_eq_zero (by omega)
        rw [last]
        exact ⟨bs, ch⟩

/-- Inside a string nothing is found, unless a colon stands behind it. -/
lemma after_string {name front body bs s : List UInt8} (plain : PlainName name)
    (ch : Chars body bs) (colon : s.head? ≠ some 58) :
    after (marker name front) (body ++ 34 :: s) = after (marker name front) (34 :: s) := by
  have suffix : ∀ before rest, body = before ++ rest →
      after (marker name front) (rest ++ 34 :: s) = after (marker name front) (34 :: s) := by
    intro before rest
    induction rest generalizing before with
    | nil => exact fun _ => rfl
    | cons c rest ih =>
      intro same
      have none : ¬ marker name front <+: c :: (rest ++ 34 :: s) := by
        rintro ⟨tail, inside⟩
        rw [marker, List.cons_append, List.append_assoc] at inside
        obtain ⟨rfl, behind⟩ := List.cons.inj inside
        obtain ⟨cs, ch'⟩ := ch.behind_quote same
        obtain ⟨-, -, colon'⟩ := plain.chars.unique ch' behind
        exact colon (colon' ▸ rfl)
      rw [List.cons_append, after_cons_of_not none]
      exact ih (before ++ [c]) (by rw [same, List.append_assoc]; rfl)
  exact suffix [] body rfl

/-- Nothing is found at the quote that ends a string. -/
lemma after_quote {name front s : List UInt8} (searched : Searched name)
    (ends : ∀ c ∈ s.head?, c ∈ marks ∨ c = 58) :
    after (marker name front) (34 :: s) = after (marker name front) s := by
  obtain ⟨-, c, head, mark, colon⟩ := searched
  refine after_cons_of_not ?_
  rintro ⟨tail, inside⟩
  rw [marker, List.cons_append] at inside
  have behind := (List.cons.inj inside).2
  cases name with
  | nil => cases head
  | cons d name =>
    obtain rfl := Option.some.inj head
    rcases ends d (by rw [← behind]; rfl) with is_mark | is_colon
    · exact mark is_mark
    · exact colon is_colon

/-- A name is found if it is the one that is searched for and what stands behind it is what is searched
    for there. -/
lemma after_key {name front body s : List UInt8} (searched : Searched name) (plain : PlainName body) :
    after (marker name front) (34 :: (body ++ 34 :: 58 :: s)) =
      (if body = name ∧ front <+: s then [s.drop front.length] else []) ++
        after (marker name front) s := by
  have rest : after (marker name front) (body ++ 34 :: 58 :: s) = after (marker name front) s := by
    rw [after_append_of_ne (fun c inside => (plain c inside).2.1), after_quote searched]
    · exact after_cons_of_not fun inside => absurd (List.cons_prefix_cons.mp inside).1 (by decide)
    · intro c colon
      cases colon
      exact .inr rfl
  have found : marker name front <+: 34 :: (body ++ 34 :: 58 :: s) ↔ body = name ∧ front <+: s := by
    constructor
    · rintro ⟨tail, inside⟩
      rw [marker, List.cons_append, List.append_assoc] at inside
      obtain ⟨same, -, behind⟩ := searched.1.chars.unique plain.chars (List.cons.inj inside).2
      exact ⟨same.symm, tail, (List.cons.inj behind).2⟩
    · rintro ⟨rfl, tail, rfl⟩
      exact ⟨tail, by simp [marker]⟩
  rw [after, rest]
  by_cases here : body = name ∧ front <+: s
  · rw [if_pos (found.mpr here), if_pos here]
    have gone : (34 :: (body ++ 34 :: 58 :: s)).drop (marker name front).length =
        s.drop front.length := by
      obtain ⟨rfl, -⟩ := here
      have split : 34 :: (body ++ 34 :: 58 :: s) = (34 :: (body ++ [34, 58])) ++ s := by simp
      have long : (marker body front).length = (34 :: (body ++ [34, 58])).length + front.length := by
        simp [marker]
        omega
      rw [split, long, List.drop_append]
      simp
    rw [gone]
    rfl
  · rw [if_neg fun inside => here (found.mp inside), if_neg here]
    rfl

/-! ## Texts -/

/-- Tokens with commas between them, up to a closing mark. -/
def enclosed (close : UInt8) : List (List Token) → List Token
  | [] => [.mark close]
  | [ts] => ts ++ [.mark close]
  | ts :: rest => ts ++ .mark 44 :: enclosed close rest

/-- Tokens that begin with a mark are closed. -/
lemma closed_mark {c : UInt8} {ts : List Token} (mark : c ∈ marks) : Closed (.mark c :: ts) := by
  intro t us same
  cases same
  exact ⟨c, mark, rfl⟩

/-- Tokens in brackets, with a comma between two items. -/
lemma Tokens.enclosed {α : Type} {close : UInt8} {write : α → List Token} {as : List α}
    (mark : close ∈ marks)
    (each : ∀ a ∈ as, ∀ r, Closed r → Tokens r → Tokens (write a ++ r)) {r : List Token}
    (rest : Tokens r) : Tokens (enclosed close (as.map write) ++ r) := by
  induction as with
  | nil => exact .mark mark rest
  | cons a as ih =>
    have here := each a List.mem_cons_self
    cases as with
    | nil =>
      rw [List.map_singleton, Json.enclosed, List.append_assoc]
      exact here _ (closed_mark mark) (.mark mark rest)
    | cons b as =>
      have others := ih fun x inside => each x (List.mem_cons_of_mem a inside)
      have comma : (44 : UInt8) ∈ marks := by decide
      have split : Json.enclosed close ((a :: b :: as).map write) ++ r =
          write a ++ .mark 44 :: (Json.enclosed close ((b :: as).map write) ++ r) := by
        simp [Json.enclosed]
      rw [split]
      exact here _ (closed_mark comma) (.mark comma others)

/-- The names in a text, each with the tokens behind it. -/
def names : List Token → List (List UInt8 × List Token)
  | [] => []
  | .key body :: ts => (body, ts) :: names ts
  | .mark _ :: ts | .scalar _ :: ts | .string _ :: ts => names ts

/-- The names in a text, each with the token behind it. -/
def heads (ts : List Token) : List (List UInt8 × Option Token) :=
  (names ts).map fun member => (member.1, member.2.head?)

/-- The names in brackets are those of the items, in turn. -/
lemma heads_enclosed {α : Type} {close : UInt8} {write : α → List Token}
    {found : α → List (List UInt8 × Option Token)} {as : List α}
    (each : ∀ a ∈ as, ∀ r, heads (write a ++ r) = found a ++ heads r) (r : List Token) :
    heads (enclosed close (as.map write) ++ r) = as.flatMap found ++ heads r := by
  induction as with
  | nil => rfl
  | cons a as ih =>
    have here := each a List.mem_cons_self
    cases as with
    | nil =>
      have split : enclosed close [write a] ++ r = write a ++ .mark close :: r := by
        simp [enclosed]
      rw [List.map_singleton, split, here, List.flatMap_singleton]
      rfl
    | cons b as =>
      have others := ih fun x inside => each x (List.mem_cons_of_mem a inside)
      have split : enclosed close ((a :: b :: as).map write) ++ r =
          write a ++ .mark 44 :: (enclosed close ((b :: as).map write) ++ r) := by
        simp [enclosed]
      rw [split, here, List.flatMap_cons, List.append_assoc, ← others]
      rfl

/-- Behind a name of a sequence of tokens stands one. -/
lemma Tokens.of_names {ts us : List Token} {body : List UInt8} (tokens : Tokens ts)
    (inside : (body, us) ∈ names ts) : Tokens us := by
  induction tokens with
  | nil => cases inside
  | mark _ _ ih => exact ih inside
  | scalar _ _ _ ih => exact ih inside
  | string _ _ _ ih => exact ih inside
  | key _ rest ih =>
    rcases List.mem_cons.mp inside with here | inside
    · cases here
      exact rest
    · exact ih inside

/-- The byte behind a value is a mark. -/
lemma Closed.head {ts : List Token} (closed : Closed ts) : ∀ c ∈ (text ts).head?, c ∈ marks := by
  intro c head
  cases ts with
  | nil => cases head
  | cons t us =>
    obtain ⟨d, mark, rfl⟩ := closed t us rfl
    cases head
    exact mark

lemma marks_ne {c : UInt8} (mark : c ∈ marks) : c ≠ 34 ∧ c ≠ 58 := by
  revert c
  decide +kernel

/-- The bytes `"name":` and a beginning are found behind each member of that name whose value begins
    like this, and nowhere else. -/
theorem after_text {name front : List UInt8} {ts : List Token} (searched : Searched name)
    (tokens : Tokens ts) :
    after (marker name front) (text ts) = (names ts).filterMap fun member =>
      if member.1 = name ∧ front <+: text member.2 then some ((text member.2).drop front.length)
      else none := by
  induction tokens with
  | nil => rfl
  | @mark c ts mark _ ih =>
    rw [names, ← ih]
    exact after_append_of_ne (t := [c]) (by simpa using (marks_ne mark).1) (text ts)
  | @scalar s ts plain _ _ ih =>
    rw [names, ← ih]
    refine after_append_of_ne (t := s) (fun c inside => ?_) (text ts)
    have := plain c inside
    simp only [isScalar, Bool.decide_and, Bool.and_eq_true, decide_eq_true_eq] at this
    exact this.1
  | @string body s ts ch closed _ ih =>
    have colon : (text ts).head? ≠ some 58 := by
      intro head
      exact (marks_ne (closed.head 58 head)).2 rfl
    have split : text (.string body :: ts) = [34] ++ body ++ 34 :: text ts := by
      simp [text, Token.text]
    have opening : after (marker name front) (34 :: (body ++ 34 :: text ts)) =
        after (marker name front) (body ++ 34 :: text ts) := by
      refine after_cons_of_not ?_
      rintro ⟨tail, inside⟩
      rw [marker, List.cons_append, List.append_assoc] at inside
      obtain ⟨-, -, behind⟩ := searched.1.chars.unique ch (List.cons.inj inside).2
      exact colon (behind ▸ rfl)
    rw [names, ← ih, split, List.append_assoc, List.singleton_append, opening,
      after_string searched.1 ch colon]
    exact after_quote searched fun c head => .inl (closed.head c head)
  | @key body ts plain _ ih =>
    have split : text (.key body :: ts) = 34 :: (body ++ 34 :: 58 :: text ts) := by
      simp [text, Token.text]
    rw [split, after_key searched plain, ih, names, List.filterMap_cons]
    dsimp only
    split_ifs <;> rfl

/-- The first place at which something stands that is found at all. -/
lemma find_of_after {m s r : List UInt8} {rest : List (List UInt8)}
    (found : after m s = r :: rest) :
    ∃ i, Find.find s m = some i ∧ s.drop (i + m.length) = r := by
  have first : ∃ front, s = front ++ (m ++ r) ∧
      ∀ j < front.length, ¬ m <+: (front ++ (m ++ r)).drop j := by
    induction s with
    | nil => cases found
    | cons c s ih =>
      by_cases here : m <+: c :: s
      · rw [after, if_pos here] at found
        obtain ⟨tail, same⟩ := here
        refine ⟨[], ?_, fun j before => absurd before (Nat.not_lt_zero j)⟩
        rw [← (List.cons.inj found).1, ← same, List.drop_left]
        rfl
      · rw [after_cons_of_not here] at found
        obtain ⟨front, same, before⟩ := ih found
        refine ⟨c :: front, by rw [same]; rfl, fun j less => ?_⟩
        cases j with
        | zero =>
          rw [same] at here
          exact here
        | succ j => exact before j (Nat.lt_of_succ_lt_succ less)
  obtain ⟨front, rfl, before⟩ := first
  refine ⟨front.length, Find.find_append before, ?_⟩
  rw [← List.append_assoc, ← List.length_append, List.drop_left]

/-- A text behind which nothing is left to look at does not occur. -/
lemma find_of_after_nil {m s : List UInt8} (nonempty : m ≠ []) (found : after m s = []) :
    Find.find s m = none := by
  have nowhere : ¬ m <:+: s := by
    induction s with
    | nil => exact fun inside => nonempty (List.eq_nil_of_infix_nil inside)
    | cons c s ih =>
      by_cases here : m <+: c :: s
      · rw [after, if_pos here] at found
        cases found
      · rw [after_cons_of_not here] at found
        intro inside
        rcases List.infix_cons_iff.mp inside with front | inside
        · exact here front
        · exact ih found inside
  rw [← Option.not_isSome_iff_eq_none, Find.isSome_find]
  exact nowhere

end Json

/-! ## Documents -/

namespace Doc
open Json

/-- Induction over a document, with a hypothesis for each item and each member. -/
@[elab_as_elim]
lemma induction {motive : Doc → Prop} (null : motive null) (bool : ∀ b, motive (bool b))
    (number : ∀ t, motive (number t)) (string : ∀ b, motive (string b))
    (array : ∀ items, (∀ d ∈ items, motive d) → motive (array items))
    (object : ∀ members, (∀ member ∈ members, motive member.2) → motive (object members)) :
    ∀ d, motive d
  | .null => null
  | .bool b => bool b
  | .number t => number t
  | .string b => string b
  | .array items => array items fun d _ => induction null bool number string array object d
  | .object members => object members fun member inside => by
    have : sizeOf member.2 < 1 + sizeOf members := by
      have := List.sizeOf_lt_of_mem inside
      obtain ⟨key, value⟩ := member
      simp only [Prod.mk.sizeOf_spec] at this ⊢
      omega
    exact induction null bool number string array object member.2

mutual

/-- The tokens of a document. -/
def tokens : Doc → List Token
  | null => [.scalar (ascii "null")]
  | bool true => [.scalar (ascii "true")]
  | bool false => [.scalar (ascii "false")]
  | number t => [.scalar t]
  | string body => [.string body]
  | array items => .mark 91 :: enclosed 93 (itemTokens items)
  | object ms => .mark 123 :: enclosed 125 (memberTokens ms)

/-- The tokens of each item. -/
def itemTokens : List Doc → List (List Token)
  | [] => []
  | d :: items => d.tokens :: itemTokens items

/-- The tokens of each member, with its name in front. -/
def memberTokens : List (List UInt8 × Doc) → List (List Token)
  | [] => []
  | (name, d) :: ms => (.key name :: d.tokens) :: memberTokens ms

end

mutual

/-- The members of the objects in a document, at any depth, in the order in which they are written. -/
def members : Doc → List (List UInt8 × Doc)
  | null | bool _ | number _ | string _ => []
  | array items => itemMembers items
  | object ms => memberMembers ms

/-- The members in items, at any depth. -/
def itemMembers : List Doc → List (List UInt8 × Doc)
  | [] => []
  | d :: items => d.members ++ itemMembers items

/-- The members, and those in their values. -/
def memberMembers : List (List UInt8 × Doc) → List (List UInt8 × Doc)
  | [] => []
  | (name, d) :: ms => (name, d) :: d.members ++ memberMembers ms

end

/-- The bytes of a numeral. -/
def isNumeral (c : UInt8) : Bool := isDigit c ∨ c ∈ [43, 45, 46, 69, 101]

/-- Documents that a text can be: the strings are spelt as JSON spells them, and names need no
    spelling. -/
inductive WellFormed : Doc → Prop where
  | null : WellFormed null
  | bool (b : Bool) : WellFormed (bool b)
  | number {t} : t ≠ [] → (∀ c ∈ t, isNumeral c = true) → WellFormed (number t)
  | string {body s} : Chars body s → WellFormed (string body)
  | array {items} : (∀ d ∈ items, WellFormed d) → WellFormed (array items)
  | object {ms} : (∀ m ∈ ms, PlainName m.1) → (∀ m ∈ ms, WellFormed m.2) → WellFormed (object ms)

/-- The first token of a document. -/
def first : Doc → Token
  | null => .scalar (ascii "null")
  | bool b => .scalar (ascii (if b then "true" else "false"))
  | number t => .scalar t
  | string body => .string body
  | array _ => .mark 91
  | object _ => .mark 123

/-- The text of a document without blanks. -/
def text (d : Doc) : List UInt8 := Json.text d.tokens

/-- A document has a first token. -/
lemma tokens_first (d : Doc) : ∃ ts, d.tokens = d.first :: ts := by
  cases d with
  | bool b => cases b <;> exact ⟨[], rfl⟩
  | null => exact ⟨[], rfl⟩
  | number t => exact ⟨[], rfl⟩
  | string body => exact ⟨[], rfl⟩
  | array items => exact ⟨enclosed 93 (itemTokens items), rfl⟩
  | object ms => exact ⟨enclosed 125 (memberTokens ms), rfl⟩

/-- Each item has its own tokens. -/
lemma itemTokens_eq (items : List Doc) : itemTokens items = items.map tokens := by
  induction items with
  | nil => rfl
  | cons d items ih => rw [itemTokens, ih, List.map_cons]

/-- Each member has its own tokens, behind its name. -/
lemma memberTokens_eq (ms : List (List UInt8 × Doc)) :
    memberTokens ms = ms.map fun m => .key m.1 :: m.2.tokens := by
  induction ms with
  | nil => rfl
  | cons m ms ih => rw [memberTokens, ih, List.map_cons]

/-- The members of items, in order. -/
lemma itemMembers_eq (items : List Doc) : itemMembers items = items.flatMap members := by
  induction items with
  | nil => rfl
  | cons d items ih => rw [itemMembers, ih, List.flatMap_cons]

/-- Each member comes before those in its value. -/
lemma memberMembers_eq (ms : List (List UInt8 × Doc)) :
    memberMembers ms = ms.flatMap fun m => m :: m.2.members := by
  induction ms with
  | nil => rfl
  | cons m ms ih => rw [memberMembers, ih, List.flatMap_cons]

/-- The characters of numbers are characters of scalars. -/
lemma numeral_scalar (c : UInt8) (numeral : isNumeral c = true) : isScalar c = true := by
  have others : ∀ c ∈ 34 :: 58 :: marks, isNumeral c = false := by decide +kernel
  by_contra other
  have special : c ∈ 34 :: 58 :: marks := by
    simp only [isScalar, decide_eq_true_eq, not_and, not_not] at other
    simp only [List.mem_cons]
    grind
  rw [others c special] at numeral
  cases numeral

/-- A document is written with tokens that may stand together. -/
lemma WellFormed.tokens {d : Doc} (wf : d.WellFormed) : ∀ r : List Token, Closed r → Tokens r →
    Tokens (d.tokens ++ r) := by
  induction d using Doc.induction with
  | null => exact fun _ closed rest => .scalar (by decide +kernel) closed rest
  | bool b => cases b <;> exact fun _ closed rest => .scalar (by decide +kernel) closed rest
  | number t =>
    cases wf with
    | number _ numerals =>
      exact fun _ closed rest => .scalar (fun c inside => numeral_scalar c (numerals c inside)) closed rest
  | string body =>
    cases wf with
    | string ch => exact fun _ closed rest => .string ch closed rest
  | array items ih =>
    cases wf with
    | array each =>
      intro r _ rest
      rw [Doc.tokens, itemTokens_eq]
      exact .mark (by decide) (.enclosed (by decide) (fun d inside => ih d inside (each d inside)) rest)
  | object ms ih =>
    cases wf with
    | object plain each =>
      intro r _ rest
      rw [Doc.tokens, memberTokens_eq]
      refine .mark (by decide) (.enclosed (by decide) (fun m inside r closed rest => ?_) rest)
      exact .key (plain m inside) (ih m inside (each m inside) r closed rest)

/-- The names in the text of a document are those of its members, each with its value behind it. -/
lemma heads_tokens (d : Doc) : ∀ r : List Token,
    heads (d.tokens ++ r) = (d.members.map fun m => (m.1, some m.2.first)) ++ heads r := by
  induction d using Doc.induction with
  | null => exact fun _ => rfl
  | bool b => cases b <;> exact fun _ => rfl
  | number t => exact fun _ => rfl
  | string body => exact fun _ => rfl
  | array items ih =>
    intro r
    rw [Doc.tokens, itemTokens_eq, Doc.members, itemMembers_eq, List.map_flatMap]
    exact heads_enclosed ih r
  | object ms ih =>
    intro r
    rw [Doc.tokens, memberTokens_eq, Doc.members, memberMembers_eq, List.map_flatMap]
    refine heads_enclosed (fun m inside r => ?_) r
    obtain ⟨ts, begins⟩ := tokens_first m.2
    have here : heads (.key m.1 :: (m.2.tokens ++ r)) =
        (m.1, some m.2.first) :: heads (m.2.tokens ++ r) := by
      rw [begins]
      rfl
    rw [List.cons_append, here, ih m inside r]
    rfl

/-- The values of members are well formed. -/
lemma WellFormed.members {d : Doc} (wf : d.WellFormed) : ∀ m ∈ d.members, m.2.WellFormed := by
  induction d using Doc.induction with
  | null => exact fun _ inside => absurd inside List.not_mem_nil
  | bool b => exact fun _ inside => absurd inside List.not_mem_nil
  | number t => exact fun _ inside => absurd inside List.not_mem_nil
  | string body => exact fun _ inside => absurd inside List.not_mem_nil
  | array items ih =>
    cases wf with
    | array each =>
      intro m inside
      rw [Doc.members, itemMembers_eq] at inside
      obtain ⟨d, there, inside⟩ := List.mem_flatMap.mp inside
      exact ih d there (each d there) m inside
  | object ms ih =>
    cases wf with
    | object _ each =>
      intro m inside
      rw [Doc.members, memberMembers_eq] at inside
      obtain ⟨n, there, inside⟩ := List.mem_flatMap.mp inside
      rcases List.mem_cons.mp inside with rfl | inside
      · exact each m there
      · exact ih n there (each n there) m inside

/-- The names in the tokens of a document are those of its members, each with the first token of its
    value. -/
lemma heads_document (d : Doc) : heads d.tokens = d.members.map fun m => (m.1, some m.2.first) := by
  have whole := heads_tokens d []
  rwa [List.append_nil, show heads [] = [] from rfl, List.append_nil] at whole

/-- The tokens of a well-formed document are a sequence of tokens. -/
lemma WellFormed.whole {d : Doc} (wf : d.WellFormed) : Tokens d.tokens := by
  have closed : Closed [] := fun _ _ same => by cases same
  have whole := wf.tokens [] closed .nil
  rwa [List.append_nil] at whole

/-- No value begins like `true` but that word. -/
lemma WellFormed.true_front {v : Doc} (wf : v.WellFormed) {ts : List Token} :
    ascii "true" <+: Json.text (v.first :: ts) ↔ v = .bool true := by
  constructor
  · rintro ⟨tail, front⟩
    have head : (Json.text (v.first :: ts)).head? = some 116 := by
      rw [← front]
      rfl
    cases wf with
    | null => cases head
    | bool b =>
      cases b with
      | true => rfl
      | false => cases head
    | @number t nonempty numerals =>
      obtain ⟨c, rest, rfl⟩ := List.exists_cons_of_ne_nil nonempty
      have here := numerals c List.mem_cons_self
      cases head
      exact absurd here (by decide)
    | string => cases head
    | array => cases head
    | object => cases head
  · rintro rfl
    exact List.prefix_append _ _

/-- A search for a name and `true` succeeds if some member of that name is true. -/
theorem find_true {d : Doc} (wf : d.WellFormed) {name : List UInt8} (searched : Searched name) :
    (Find.find d.text (marker name (ascii "true"))).isSome ↔ (name, bool true) ∈ d.members := by
  have found := @after_text name (ascii "true") d.tokens searched wf.whole
  have places : after (marker name (ascii "true")) d.text ≠ [] ↔
      ∃ us, (name, us) ∈ names d.tokens ∧ ascii "true" <+: Json.text us := by
    rw [Doc.text, found, ne_eq, List.filterMap_eq_nil_iff, not_forall]
    constructor
    · rintro ⟨⟨body, us⟩, there⟩
      rw [Classical.not_imp] at there
      obtain ⟨inside, here⟩ := there
      split_ifs at here with both
      · exact ⟨us, both.1 ▸ inside, both.2⟩
      · exact absurd rfl here
    · rintro ⟨us, inside, front⟩
      refine ⟨(name, us), fun none => ?_⟩
      have := none inside
      rw [if_pos ⟨rfl, front⟩] at this
      cases this
  have members : (∃ us, (name, us) ∈ names d.tokens ∧ ascii "true" <+: Json.text us) ↔
      (name, bool true) ∈ d.members := by
    constructor
    · rintro ⟨us, inside, front⟩
      have head : (name, us.head?) ∈ heads d.tokens := List.mem_map.mpr ⟨(name, us), inside, rfl⟩
      rw [heads_document] at head
      obtain ⟨⟨n, v⟩, there, same⟩ := List.mem_map.mp head
      obtain ⟨rfl, next⟩ := Prod.mk.inj same
      obtain ⟨ts, rfl⟩ : ∃ ts, us = v.first :: ts := by
        cases us with
        | nil => cases next
        | cons t ts => exact ⟨ts, by rw [Option.some.inj next]⟩
      rw [← (wf.members _ there).true_front.mp front]
      exact there
    · intro there
      have head : (name, some (bool true).first) ∈ heads d.tokens := by
        rw [heads_document]
        exact List.mem_map.mpr ⟨_, there, rfl⟩
      obtain ⟨⟨n, us⟩, inside, same⟩ := List.mem_map.mp head
      obtain ⟨rfl, next⟩ := Prod.mk.inj same
      refine ⟨us, inside, ?_⟩
      cases us with
      | nil => cases next
      | cons t ts =>
        obtain rfl := Option.some.inj next
        exact WellFormed.true_front (.bool Bool.true) |>.mpr rfl
  rw [← members, ← places]
  have nonempty : marker name (ascii "true") ≠ [] := List.cons_ne_nil _ _
  cases places : after (marker name (ascii "true")) d.text with
  | nil => simp [find_of_after_nil nonempty places]
  | cons r rest =>
    obtain ⟨i, found, -⟩ := find_of_after places
    simp [found]

/-- A search for a name finds its first member. -/
theorem find_member {d : Doc} (wf : d.WellFormed) {name : List UInt8} (searched : Searched name) :
    match d.members.find? fun m => m.1 = name with
    | none => Find.find d.text (marker name []) = none
    | some m => ∃ i ts, Find.find d.text (marker name []) = some i ∧
        d.text.drop (i + (marker name []).length) = Json.text (m.2.first :: ts) ∧
        Tokens (m.2.first :: ts) := by
  have nonempty : marker name [] ≠ [] := List.cons_ne_nil _ _
  have found := @after_text name [] d.tokens searched wf.whole
  simp only [List.nil_prefix, and_true, List.length_nil, List.drop_zero] at found
  have same : (d.members.find? fun m => m.1 = name).map (fun m => (m.1, some m.2.first)) =
      ((names d.tokens).find? fun m => m.1 = name).map fun m => (m.1, m.2.head?) := by
    have both := congrArg (List.find? fun m => m.1 = name) (heads_document d)
    rw [heads, List.find?_map, List.find?_map] at both
    exact both.symm
  have head : (after (marker name []) d.text).head? =
      ((names d.tokens).find? fun m => m.1 = name).map fun m => Json.text m.2 := by
    rw [Doc.text, found, List.head?_filterMap]
    induction names d.tokens with
    | nil => rfl
    | cons m ms ih =>
      rw [List.findSome?_cons, List.find?_cons]
      by_cases here : m.1 = name
      · simp [here]
      · simpa [here] using ih
  cases first : d.members.find? fun m => m.1 = name with
  | none =>
    rw [first, Option.map_none, eq_comm, Option.map_eq_none_iff] at same
    rw [same, Option.map_none, List.head?_eq_none_iff] at head
    exact find_of_after_nil nonempty head
  | some m =>
    rw [first, Option.map_some, eq_comm, Option.map_eq_some_iff] at same
    obtain ⟨⟨n, us⟩, there, both⟩ := same
    obtain ⟨-, next⟩ := Prod.mk.inj both
    rw [there, Option.map_some] at head
    obtain ⟨rest, places⟩ := List.head?_eq_some_iff.mp head
    obtain ⟨i, here, behind⟩ := find_of_after places
    obtain ⟨ts, rfl⟩ : ∃ ts, us = m.2.first :: ts := by
      cases us with
      | nil => cases next
      | cons t ts => exact ⟨ts, by rw [Option.some.inj next]⟩
    exact ⟨i, ts, here, behind, wf.whole.of_names (List.mem_of_find?_eq_some there)⟩

end Doc
