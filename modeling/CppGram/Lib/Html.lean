import Mathlib.Data.List.Basic
import Mathlib.Tactic.Lemma

/-!
# HTML texts

A tokenizer of the texts that have start tags with attributes, end tags and the four named character
references, and no comments: `scan` takes one byte, `lex` a text. Everything but `<` and `&` stands for
itself between tags, everything but `"` and `&` in the value of an attribute.

A text is read in pieces (`Reads`): where a piece begins and ends between tags, what it is read as does
not depend on what stands around it. `WellNested` is that every end tag closes the start tag that is
open, and that nothing is left open.
-/

namespace Html

/-- The tokens of a text. -/
inductive Token where
  | char (c : UInt8)
  | start (name : List UInt8) (attributes : List (List UInt8 × List UInt8))
  | stop (name : List UInt8)
  deriving DecidableEq, Repr

/-- A tag without the values of its attributes. -/
inductive Tag where
  | start (name : List UInt8) (attributes : List (List UInt8))
  | stop (name : List UInt8)
  deriving DecidableEq, Repr

/-! ## The tokenizer -/

/-- Where a tokenizer is, and what it has of the token. -/
inductive Scan where
  | text
  | reference (name : List UInt8)
  | tag (name : List UInt8)
  | endTag (name : List UInt8)
  | attribute (tag : List UInt8) (attributes : List (List UInt8 × List UInt8)) (name : List UInt8)
  | equals (tag : List UInt8) (attributes : List (List UInt8 × List UInt8)) (name : List UInt8)
  | value (tag : List UInt8) (attributes : List (List UInt8 × List UInt8)) (name val : List UInt8)
  | valueReference (tag : List UInt8) (attributes : List (List UInt8 × List UInt8))
    (name val ref : List UInt8)
  | behind (tag : List UInt8) (attributes : List (List UInt8 × List UInt8))
  deriving DecidableEq, Repr

/-- The letters that names of tags are made of. -/
def isLetter (c : UInt8) : Bool := 97 ≤ c && c ≤ 122

/-- The character of a named reference. -/
def entity (name : List UInt8) : Option UInt8 :=
  if name = [97, 109, 112] then some 38
  else if name = [108, 116] then some 60
  else if name = [103, 116] then some 62
  else if name = [113, 117, 111, 116] then some 34
  else none

/-- One byte, and the token that ends with it. -/
def scan : Scan → UInt8 → Option (Scan × List Token)
  | .text, c =>
    if c = 60 then some (.tag [], [])
    else if c = 38 then some (.reference [], [])
    else some (.text, [.char c])
  | .reference name, c =>
    if c = 59 then (entity name).map fun b => (.text, [.char b])
    else if isLetter c then some (.reference (name ++ [c]), [])
    else none
  | .tag name, c =>
    if isLetter c then some (.tag (name ++ [c]), [])
    else if c = 47 ∧ name = [] then some (.endTag [], [])
    else if c = 62 ∧ name ≠ [] then some (.text, [.start name []])
    else if c = 32 ∧ name ≠ [] then some (.attribute name [] [], [])
    else none
  | .endTag name, c =>
    if isLetter c then some (.endTag (name ++ [c]), [])
    else if c = 62 ∧ name ≠ [] then some (.text, [.stop name])
    else none
  | .attribute tag attributes name, c =>
    if isLetter c then some (.attribute tag attributes (name ++ [c]), [])
    else if c = 61 ∧ name ≠ [] then some (.equals tag attributes name, [])
    else none
  | .equals tag attributes name, c =>
    if c = 34 then some (.value tag attributes name [], []) else none
  | .value tag attributes name val, c =>
    if c = 34 then some (.behind tag (attributes ++ [(name, val)]), [])
    else if c = 38 then some (.valueReference tag attributes name val [], [])
    else some (.value tag attributes name (val ++ [c]), [])
  | .valueReference tag attributes name val ref, c =>
    if c = 59 then (entity ref).map fun b => (.value tag attributes name (val ++ [b]), [])
    else if isLetter c then some (.valueReference tag attributes name val (ref ++ [c]), [])
    else none
  | .behind tag attributes, c =>
    if c = 62 then some (.text, [.start tag attributes])
    else if c = 32 then some (.attribute tag attributes [], [])
    else none

/-- Some bytes, and the tokens that end in them. -/
def scans : List UInt8 → Scan → Option (Scan × List Token)
  | [], state => some (state, [])
  | c :: s, state =>
    (scan state c).bind fun first =>
      (scans s first.1).map fun rest => (rest.1, first.2 ++ rest.2)

/-- The tokens of a text. -/
def lex (s : List UInt8) : Option (List Token) :=
  (scans s .text).bind fun last => if last.1 = .text then some last.2 else none

/-! ## Nesting -/

/-- The tags that are open behind a token, the last one first. -/
def nest (opened : List (List UInt8)) : Token → Option (List (List UInt8))
  | .char _ => some opened
  | .start name _ => some (name :: opened)
  | .stop name =>
    match opened with
    | [] => none
    | last :: opened => if last = name then some opened else none

/-- Every end tag closes the last start tag that is open, and all are closed. -/
def WellNested (tokens : List Token) : Prop := tokens.foldlM nest [] = some []

/-- The tokens close what they open, and nothing else. -/
def Balanced (tokens : List Token) : Prop := ∀ opened, tokens.foldlM nest opened = some opened

/-- What there is of a token in the list of tags, with the names of its attributes. -/
def Token.tag? : Token → Option Tag
  | .char _ => none
  | .start name attributes => some (.start name (attributes.map Prod.fst))
  | .stop name => some (.stop name)

/-- The tags among some tokens. -/
def tags (tokens : List Token) : List Tag := tokens.filterMap Token.tag?

/-- Characters. -/
def text (s : List UInt8) : List Token := s.map .char

/-- Tokens between a start tag and its end tag. -/
def element (name : List UInt8) (attributes : List (List UInt8 × List UInt8)) (inner : List Token) :
    List Token :=
  .start name attributes :: (inner ++ [.stop name])

/-! ## Reading in pieces -/

variable {s t : List UInt8} {state state' state'' : Scan} {tokens tokens' : List Token}

/-- The first character, and then the others. -/
lemma scans_cons {c : UInt8} : scans (c :: s) state = some (state'', tokens) ↔
    ∃ next now rest, scan state c = some (next, now) ∧ scans s next = some (state'', rest) ∧
      tokens = now ++ rest := by
  rw [scans, Option.bind_eq_some_iff]
  constructor
  · rintro ⟨⟨next, now⟩, here, behind⟩
    obtain ⟨⟨last, rest⟩, there, same⟩ := Option.map_eq_some_iff.mp behind
    cases same
    exact ⟨next, now, rest, here, there, rfl⟩
  · rintro ⟨next, now, rest, here, there, rfl⟩
    exact ⟨(next, now), here, Option.map_eq_some_iff.mpr ⟨(state'', rest), there, rfl⟩⟩

/-- A piece behind a piece. -/
lemma scans_append (first : scans s state = some (state', tokens))
    (second : scans t state' = some (state'', tokens')) :
    scans (s ++ t) state = some (state'', tokens ++ tokens') := by
  induction s generalizing state tokens with
  | nil =>
    cases Option.some.inj first
    exact second
  | cons c s ih =>
    obtain ⟨next, now, rest, here, behind, rfl⟩ := scans_cons.mp first
    exact scans_cons.mpr ⟨next, now, rest ++ tokens', here, ih behind, List.append_assoc ..⟩

/-- A piece between tags is read as these tokens. -/
def Reads (s : List UInt8) (tokens : List Token) : Prop := scans s .text = some (.text, tokens)

lemma Reads.lex (reads : Reads s tokens) : lex s = some tokens := by
  rw [Html.lex, reads, Option.bind_some, if_pos rfl]

lemma Reads.append (reads : Reads s tokens) (reads' : Reads t tokens') :
    Reads (s ++ t) (tokens ++ tokens') :=
  scans_append reads reads'

/-- Any number of texts are read one after the other. -/
lemma Reads.flatMap {α : Type} {as : List α} {s : α → List UInt8} {tokens : α → List Token}
    (each : ∀ a ∈ as, Reads (s a) (tokens a)) : Reads (as.flatMap s) (as.flatMap tokens) := by
  induction as with
  | nil => rfl
  | cons a as ih =>
    obtain ⟨here, each⟩ := List.forall_mem_cons.mp each
    exact here.append (ih each)

/-- A text without marks is read as it is. -/
lemma Reads.plain (plain : ∀ c ∈ s, c ≠ 60 ∧ c ≠ 38) : Reads s (text s) := by
  induction s with
  | nil => rfl
  | cons c s ih =>
    obtain ⟨⟨less, and⟩, plain⟩ := List.forall_mem_cons.mp plain
    have here : Reads [c] [.char c] := by
      rw [Reads, scans, scan, if_neg less, if_neg and]
      rfl
    exact here.append (ih plain)

/-- The tokenizer undoes an escaping of the bytes, between tags and in the value of an attribute. -/
def Undoes (escape : UInt8 → List UInt8) : Prop :=
  ∀ c, Reads (escape c) [.char c] ∧ ∀ tag attributes name val,
    scans (escape c) (.value tag attributes name val) =
      some (.value tag attributes name (val ++ [c]), [])

/-- Characters around and inside an element. -/
def decorated (name front before s behind after : List UInt8) : List Token :=
  text front ++ element name [] (text (before ++ s ++ behind)) ++ text after

section

variable {escape : UInt8 → List UInt8} (undoes : Undoes escape)

include undoes

/-- An escaped text is read as itself. -/
lemma Undoes.reads (s : List UInt8) : Reads (s.flatMap escape) (text s) := by
  induction s with
  | nil => rfl
  | cons c s ih => exact (undoes c).1.append ih

/-- Inside the value of an attribute too. -/
lemma Undoes.value (s : List UInt8) (tag : List UInt8) (attributes : List (List UInt8 × List UInt8))
    (name val : List UInt8) : scans (s.flatMap escape) (.value tag attributes name val) =
      some (.value tag attributes name (val ++ s), []) := by
  induction s generalizing val with
  | nil => rw [List.append_nil]; rfl
  | cons c s ih =>
    have rest := ih (val ++ [c])
    rw [List.append_assoc] at rest
    exact scans_append ((undoes c).2 tag attributes name val) rest

/-- An escaped text between the tags of an element. -/
lemma Undoes.decorated {name opening closing : List UInt8} {front before behind after : List UInt8}
    (opens : Reads opening (text front ++ .start name [] :: text before))
    (closes : Reads closing (text behind ++ .stop name :: text after)) (s : List UInt8) :
    Reads (opening ++ s.flatMap escape ++ closing) (decorated name front before s behind after) := by
  have whole := (opens.append (undoes.reads s)).append closes
  have same : Html.decorated name front before s behind after =
      text front ++ .start name [] :: text before ++ text s ++
        (text behind ++ .stop name :: text after) := by
    simp only [Html.decorated, element, text, List.map_append, List.append_assoc, List.cons_append,
      List.nil_append]
  rwa [same]

end

/-- A text is read in two parts. -/
lemma scans_split (both : scans (s ++ t) state = some (state'', tokens)) :
    ∃ middle before after, scans s state = some (middle, before) ∧
      scans t middle = some (state'', after) ∧ tokens = before ++ after := by
  induction s generalizing state tokens with
  | nil => exact ⟨state, [], tokens, rfl, both, rfl⟩
  | cons c s ih =>
    obtain ⟨next, now, rest, here, behind, rfl⟩ := scans_cons.mp both
    obtain ⟨middle, before, after, first, second, rfl⟩ := ih behind
    exact ⟨middle, now ++ before, after, scans_cons.mpr ⟨next, now, before, here, first, rfl⟩, second,
      (List.append_assoc ..).symm⟩

/-- A byte that ends no tag and no reference is a character of its own where it leads between tags. -/
lemma scan_plain {c : UInt8} (plain : c ≠ 59 ∧ c ≠ 60 ∧ c ≠ 62 ∧ c ≠ 38)
    (here : scan state c = some (.text, tokens)) : state = .text ∧ tokens = [.char c] := by
  obtain ⟨semicolon, less, greater, and⟩ := plain
  cases state with
  | text =>
    rw [scan, if_neg less, if_neg and] at here
    cases here
    exact ⟨rfl, rfl⟩
  | _ =>
    simp only [scan, semicolon, greater, if_false, false_and] at here
    split_ifs at here <;> cases here

/-- A plain character at the end is read as itself. -/
lemma Reads.of_concat {c : UInt8} (plain : c ≠ 59 ∧ c ≠ 60 ∧ c ≠ 62 ∧ c ≠ 38)
    (reads : Reads (s ++ [c]) tokens) : ∃ before, Reads s before ∧ tokens = before ++ [.char c] := by
  obtain ⟨middle, before, after, first, second, rfl⟩ := scans_split reads
  obtain ⟨next, now, rest, here, last, rfl⟩ := scans_cons.mp second
  cases last
  obtain ⟨rfl, rfl⟩ := scan_plain plain here
  exact ⟨before, first, rfl⟩

/-! ## Tags -/

@[simp]
lemma tags_append (tokens tokens' : List Token) : tags (tokens ++ tokens') = tags tokens ++ tags tokens' :=
  List.filterMap_append

@[simp]
lemma tags_text (s : List UInt8) : tags (text s) = [] := by
  induction s with
  | nil => rfl
  | cons c s ih => exact ih

@[simp]
lemma tags_element (name : List UInt8) (attributes : List (List UInt8 × List UInt8))
    (tokens : List Token) : tags (element name attributes tokens) =
      .start name (attributes.map Prod.fst) :: (tags tokens ++ [.stop name]) :=
  congrArg (Tag.start name (attributes.map Prod.fst) :: ·) (tags_append tokens [.stop name])

@[simp]
lemma tags_decorated (name front before s behind after : List UInt8) :
    tags (decorated name front before s behind after) = [.start name [], .stop name] := by
  rw [decorated, tags_append, tags_append, tags_element, tags_text, tags_text, tags_text]
  rfl

lemma tags_flatMap {α : Type} (as : List α) (tokens : α → List Token) :
    tags (as.flatMap tokens) = as.flatMap fun a => tags (tokens a) :=
  List.filterMap_flatMap ..

/-! ## Balance -/

lemma Balanced.wellNested (balanced : Balanced tokens) : WellNested tokens := balanced []

lemma Balanced.nil : Balanced [] := fun _ => rfl

/-- Balanced tokens one behind the other. -/
lemma Balanced.append (balanced : Balanced tokens) (balanced' : Balanced tokens') :
    Balanced (tokens ++ tokens') := by
  intro opened
  rw [List.foldlM_append, balanced]
  exact balanced' opened

/-- A character neither opens nor closes anything. -/
lemma Balanced.of_concat {c : UInt8} (balanced : Balanced (tokens ++ [.char c])) :
    Balanced tokens := by
  intro opened
  have whole := balanced opened
  rw [List.foldlM_append] at whole
  obtain ⟨after, before, last⟩ := Option.bind_eq_some_iff.mp whole
  cases Option.some.inj last
  exact before

/-- A text has no tags. -/
lemma Balanced.text {s : List UInt8} : Balanced (text s) := by
  induction s with
  | nil => exact .nil
  | cons c s ih => exact fun opened => ih opened

/-- An element is balanced if its contents are. -/
lemma Balanced.element (name : List UInt8) (attributes : List (List UInt8 × List UInt8))
    (balanced : Balanced tokens) : Balanced (element name attributes tokens) := by
  intro opened
  rw [Html.element, List.foldlM_cons]
  change (tokens ++ [Token.stop name]).foldlM nest (name :: opened) = _
  rw [List.foldlM_append, balanced]
  change (if name = name then some opened else none) >>= _ = _
  rw [if_pos rfl]
  rfl

lemma Balanced.decorated {name front before s behind after : List UInt8} :
    Balanced (decorated name front before s behind after) :=
  (Balanced.text.append (Balanced.element name [] Balanced.text)).append Balanced.text

/-- Any number of balanced parts. -/
lemma Balanced.flatMap {α : Type} {as : List α} {tokens : α → List Token}
    (each : ∀ a ∈ as, Balanced (tokens a)) : Balanced (as.flatMap tokens) := by
  induction as with
  | nil => exact .nil
  | cons a as ih =>
    obtain ⟨here, each⟩ := List.forall_mem_cons.mp each
    exact here.append (ih each)

end Html
