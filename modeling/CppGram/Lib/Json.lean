import Mathlib.Data.Nat.Digits.Lemmas
import Mathlib.Tactic.Lemma

/-!
# JSON texts

JSON values, the texts that a printer without blanks makes of them, and a reader. A text is the list of
its bytes, and a byte above 127 in a string stands for itself. The reader takes the texts of the
language that have no blanks, no fractions or exponents, and no `\u` escapes but those of ASCII
characters.

A printer may spell the bytes of a string as it likes, as long as the reader gets each of them back
(`Spells`). Then reading undoes printing (`read_print`), so what a printed text says is no matter of
interpretation. `Denotes` is about texts that no printer has made: the texts of arrays and objects are
read as what their parts are read as, whoever wrote them.
-/

/-- JSON values; an object is the list of its members. -/
inductive Json where
  | null
  | bool (b : Bool)
  | number (i : Int)
  | string (s : List UInt8)
  | array (items : List Json)
  | object (members : List (List UInt8 × Json))

namespace Json

/-- The bytes of an ASCII string. -/
def ascii (s : String) : List UInt8 := s.toList.map fun c => c.val.toUInt8

/-- Reads a value from the front of a text. -/
abbrev Reader (α : Type) := List UInt8 → Option (α × List UInt8)

/-- Induction over a value, with a hypothesis for each item and each member. -/
@[elab_as_elim]
lemma induction {motive : Json → Prop} (null : motive null) (bool : ∀ b, motive (bool b))
    (number : ∀ i, motive (number i)) (string : ∀ s, motive (string s))
    (array : ∀ items, (∀ j ∈ items, motive j) → motive (array items))
    (object : ∀ members, (∀ member ∈ members, motive member.2) → motive (object members)) :
    ∀ j, motive j
  | .null => null
  | .bool b => bool b
  | .number i => number i
  | .string s => string s
  | .array items => array items fun j _ => induction null bool number string array object j
  | .object members => object members fun member inside => by
    have : sizeOf member.2 < 1 + sizeOf members := by
      have := List.sizeOf_lt_of_mem inside
      obtain ⟨key, value⟩ := member
      simp only [Prod.mk.sizeOf_spec] at this ⊢
      omega
    exact induction null bool number string array object member.2

/-! ## Numbers -/

/-- The characters of decimal numbers. -/
def isDigit (c : UInt8) : Bool := 48 ≤ c && c ≤ 57

/-- A number in decimal. -/
def decimal (n : Nat) : List UInt8 :=
  if n = 0 then [48] else (Nat.digits 10 n).reverse.map fun d => (48 + d).toUInt8

/-- The value of decimal digits. -/
def value (digits : List UInt8) : Nat :=
  Nat.ofDigits 10 (digits.reverse.map fun c => c.toNat - 48)

/-- Digits, without zeros in front. -/
def readNat : Reader Nat := fun s =>
  let digits := s.takeWhile isDigit
  if digits = [] ∨ digits.head? = some 48 ∧ digits ≠ [48] then none
  else some (value digits, s.dropWhile isDigit)

/-- C++ `std::to_string`. -/
def printInt (i : Int) : List UInt8 :=
  if i < 0 then 45 :: decimal i.natAbs else decimal i.natAbs

/-- Reads a number with its sign. -/
def readInt : Reader Int := fun s =>
  if s.head? = some 45 then (readNat s.tail).map fun (n, s) => (-n, s)
  else (readNat s).map fun (n, s) => (n, s)

/-- What may stand behind a number. -/
def Ends (s : List UInt8) : Prop := ∀ c rest, s = c :: rest → isDigit c = false

/-- The digit of a number below ten, and back. -/
lemma digit_spec {d : Nat} (small : d < 10) :
    isDigit (48 + d).toUInt8 = true ∧ (48 + d).toUInt8.toNat - 48 = d := by
  have toNat : (48 + d).toUInt8.toNat = 48 + d := by
    rw [UInt8.toNat_ofNat']
    omega
  refine ⟨?_, by omega⟩
  rw [isDigit, Bool.and_eq_true, decide_eq_true_iff, decide_eq_true_iff, UInt8.le_iff_toNat_le,
    UInt8.le_iff_toNat_le, toNat]
  change 48 ≤ 48 + d ∧ 48 + d ≤ 57
  omega

/-- A decimal number is made of digits. -/
lemma decimal_digits (n : Nat) : ∀ c ∈ decimal n, isDigit c = true := by
  intro c inside
  rw [decimal] at inside
  split at inside
  · cases List.mem_singleton.mp inside
    rfl
  · obtain ⟨d, there, rfl⟩ := List.mem_map.mp inside
    exact (digit_spec (Nat.digits_lt_base (by decide) (List.mem_reverse.mp there))).1

/-- A decimal number has the value it was printed from. -/
lemma value_decimal (n : Nat) : value (decimal n) = n := by
  rw [decimal]
  split
  · next zero =>
    rw [zero]
    rfl
  · rw [value, ← List.map_reverse, List.reverse_reverse, List.map_map]
    have same : (Nat.digits 10 n).map ((fun c : UInt8 => c.toNat - 48) ∘ fun d => (48 + d).toUInt8) =
        Nat.digits 10 n :=
      (List.map_congr_left fun d there =>
        (digit_spec (Nat.digits_lt_base (by decide) there)).2).trans (List.map_id _)
    rw [same, Nat.ofDigits_digits]

/-- A decimal number has a digit. -/
lemma decimal_ne_nil (n : Nat) : decimal n ≠ [] := by
  rw [decimal]
  split
  · exact List.cons_ne_nil _ _
  · next positive =>
    rw [ne_eq, List.map_eq_nil_iff, List.reverse_eq_nil_iff]
    exact Nat.digits_ne_nil_iff_ne_zero.mpr positive

/-- A number has no zeros in front. -/
lemma decimal_head {n : Nat} (zero : (decimal n).head? = some 48) : decimal n = [48] := by
  rw [decimal] at zero ⊢
  split
  · rfl
  · next positive =>
    rw [if_neg positive, List.head?_map, List.head?_reverse] at zero
    obtain ⟨d, last, isZero⟩ := Option.map_eq_some_iff.mp zero
    have nonempty := Nat.digits_ne_nil_iff_ne_zero (b := 10).mpr positive
    have here : d = (Nat.digits 10 n).getLast nonempty := by
      rw [List.getLast?_eq_some_getLast nonempty] at last
      exact (Option.some.inj last).symm
    have back := (digit_spec (Nat.digits_lt_base (b := 10) (by decide)
      (here ▸ List.getLast_mem nonempty))).2
    rw [isZero] at back
    exact absurd (here.symm.trans back.symm) (Nat.getLast_digit_ne_zero 10 positive)

/-- What stands behind a number is left. -/
lemma readNat_decimal (n : Nat) {s : List UInt8} (ends : Ends s) :
    readNat (decimal n ++ s) = some (n, s) := by
  have stop : s.takeWhile isDigit = [] ∧ s.dropWhile isDigit = s := by
    cases s with
    | nil => exact ⟨rfl, rfl⟩
    | cons c s =>
      have other := ends c s rfl
      exact ⟨List.takeWhile_cons_of_neg (other ▸ Bool.false_ne_true),
        List.dropWhile_cons_of_neg (other ▸ Bool.false_ne_true)⟩
  have digits := decimal_digits n
  have taken : (decimal n ++ s).takeWhile isDigit = decimal n := by
    rw [List.takeWhile_append_of_pos digits, stop.1, List.append_nil]
  have left : (decimal n ++ s).dropWhile isDigit = s := by
    rw [List.dropWhile_append_of_pos digits, stop.2]
  have plain : ¬ (decimal n = [] ∨ (decimal n).head? = some 48 ∧ decimal n ≠ [48]) := by
    rintro (empty | ⟨zero, more⟩)
    · exact decimal_ne_nil n empty
    · exact more (decimal_head zero)
  rw [readNat, taken, left, if_neg plain, value_decimal]

/-- A number is read back if no digit stands behind it. -/
lemma readInt_printInt (i : Int) {s : List UInt8} (ends : Ends s) :
    readInt (printInt i ++ s) = some (i, s) := by
  rw [printInt]
  split
  · next negative =>
    rw [readInt, List.cons_append, List.head?_cons, if_pos rfl, List.tail_cons,
      readNat_decimal _ ends]
    simp only [Option.map_some, Option.some.injEq, Prod.mk.injEq, and_true]
    omega
  · next positive =>
    have head : (decimal i.natAbs ++ s).head? ≠ some 45 := by
      obtain ⟨c, digits, eq⟩ := List.exists_cons_of_ne_nil (decimal_ne_nil i.natAbs)
      have digit := decimal_digits i.natAbs c (eq ▸ List.mem_cons_self)
      rw [eq]
      intro minus
      cases Option.some.inj minus
      cases digit
    rw [readInt, if_neg head, readNat_decimal _ ends]
    simp only [Option.map_some, Option.some.injEq, Prod.mk.injEq, and_true]
    omega

/-! ## Strings -/

/-- The byte that a backslash and a letter stand for. -/
def unescape (c : UInt8) : Option UInt8 :=
  if c = 34 ∨ c = 92 ∨ c = 47 then some c
  else if c = 98 then some 8
  else if c = 102 then some 12
  else if c = 110 then some 10
  else if c = 114 then some 13
  else if c = 116 then some 9
  else none

/-- The value of a hexadecimal digit. -/
def hexValue (c : UInt8) : Option Nat :=
  if isDigit c then some (c.toNat - 48)
  else if 97 ≤ c ∧ c ≤ 102 then some (c.toNat - 87)
  else if 65 ≤ c ∧ c ≤ 70 then some (c.toNat - 55)
  else none

/-- The ASCII character with a number of four hexadecimal digits. -/
def unescapeHex (w x y z : UInt8) : Option UInt8 := do
  let n := 4096 * (← hexValue w) + 256 * (← hexValue x) + 16 * (← hexValue y) + (← hexValue z)
  if n < 128 then some n.toUInt8 else none

/-- The rest of a string, from behind the opening quote. -/
def readString : Reader (List UInt8)
  | [] => none
  | c :: s =>
    if c = 34 then some ([], s)
    else if c = 92 then
      match s with
      | [] => none
      | e :: s =>
        if e = 117 then
          match s with
          | w :: x :: y :: z :: s =>
            match unescapeHex w x y z with
            | some b => (readString s).map fun (bs, s) => (b :: bs, s)
            | none => none
          | _ => none
        else
          match unescape e with
          | some b => (readString s).map fun (bs, s) => (b :: bs, s)
          | none => none
    else if c < 32 then none
    else (readString s).map fun (bs, s) => (c :: bs, s)

/-- The reader gets back each byte of a string that is spelt this way. -/
def Spells (escape : UInt8 → List UInt8) : Prop :=
  ∀ b s, readString (escape b ++ s) = (readString s).map fun (bs, s) => (b :: bs, s)

/-- A plain character stands for itself. -/
lemma readString_plain {c : UInt8} {s : List UInt8} (quote : c ≠ 34) (backslash : c ≠ 92)
    (printable : ¬ c < 32) :
    readString (c :: s) = (readString s).map fun (bs, s) => (c :: bs, s) := by
  rw [readString.eq_def]
  simp only [quote, backslash, printable, if_false]

/-- An escape stands for the character it names. -/
lemma readString_unescape {e b : UInt8} {s : List UInt8} (names : unescape e = some b) :
    readString (92 :: e :: s) = (readString s).map fun (bs, s) => (b :: bs, s) := by
  have other : e ≠ 117 := by
    rintro rfl
    cases names
  have escape : (92 : UInt8) ≠ 34 := by decide
  rw [readString.eq_def]
  simp only [escape, other, if_false, if_true, names]

/-- An escape with four digits stands for the character with that number. -/
lemma readString_hex {w x y z b : UInt8} {s : List UInt8} (names : unescapeHex w x y z = some b) :
    readString (92 :: 117 :: w :: x :: y :: z :: s) =
      (readString s).map fun (bs, s) => (b :: bs, s) := by
  have escape : (92 : UInt8) ≠ 34 := by decide
  rw [readString.eq_def]
  simp only [escape, if_false, if_true, names]

/-- What stands behind a string makes no difference to it. -/
lemma readString_append {s bs rest : List UInt8} (read : readString s = some (bs, rest))
    (t : List UInt8) : readString (s ++ t) = some (bs, rest ++ t) := by
  -- the string begins with a byte, and the same goes for the rest of it
  have more {s u : List UInt8} {b : UInt8}
      (ih : ∀ {bs rest}, readString s = some (bs, rest) → readString (s ++ t) = some (bs, rest ++ t))
      (begins : readString u = (readString (s ++ t)).map fun (bs, s) => (b :: bs, s))
      {bs rest} (read : ((readString s).map fun (bs, s) => (b :: bs, s)) = some (bs, rest)) :
      readString u = some (bs, rest ++ t) := by
    obtain ⟨⟨bs, rest⟩, later, same⟩ := Option.map_eq_some_iff.mp read
    cases same
    rw [begins, ih later]
    rfl
  fun_induction readString s generalizing bs rest with
  | case2 s =>
    cases read
    rw [List.cons_append, readString.eq_def]
    rfl
  | case4 w x y z s b names _ ih => exact more ih (readString_hex names) read
  | case7 e s other b names _ ih => exact more ih (readString_unescape names) read
  | case10 c s quote backslash printable ih =>
    exact more ih (readString_plain quote backslash printable) read
  | case1 | case3 | case5 | case6 | case8 | case9 => cases read

/-- A string in quotes. -/
def quoted (escape : UInt8 → List UInt8) (s : List UInt8) : List UInt8 :=
  34 :: (s.flatMap escape ++ [34])

/-- A quoted string is read back. -/
lemma readString_quoted {escape : UInt8 → List UInt8} (spells : Spells escape) (bs s : List UInt8) :
    readString (bs.flatMap escape ++ 34 :: s) = some (bs, s) := by
  induction bs with
  | nil =>
    rw [List.flatMap_nil, List.nil_append, readString.eq_def]
    rfl
  | cons b bs ih => rw [List.flatMap_cons, List.append_assoc, spells, ih, Option.map_some]

/-! ## Items and members -/

/-- Texts with commas between them. -/
def separated : List (List UInt8) → List UInt8
  | [] => []
  | [s] => s
  | s :: texts => s ++ 44 :: separated texts

/-- Items with commas between them, up to a closing bracket, at most as many as the fuel allows. -/
def readItems {α : Type} (item : Reader α) (close : UInt8) : Nat → Reader (List α)
  | 0, _ => none
  | fuel + 1, s =>
    match item s with
    | none => none
    | some (a, s) =>
      match s with
      | [] => none
      | c :: s =>
        if c = 44 then (readItems item close fuel s).map fun (as, s) => (a :: as, s)
        else if c = close then some ([a], s)
        else none

/-- The same, or the closing bracket at once. -/
def readList {α : Type} (item : Reader α) (close : UInt8) (fuel : Nat) : Reader (List α) := fun s =>
  if s.head? = some close then some ([], s.tail) else readItems item close fuel s

/-- A name, a colon and a value. -/
def readMember (value : Reader Json) : Reader (List UInt8 × Json) := fun s =>
  if s.head? = some 34 then
    match readString s.tail with
    | some (key, 58 :: s) => (value s).map fun (j, s) => ((key, j), s)
    | _ => none
  else none

section

variable {α β : Type} {item : Reader α} {write : β → List UInt8} {value : β → α} {close : UInt8}
  {bs : List β}

/-- Reading what is written for something gets its value, whatever may stand behind it. -/
def Reads (item : Reader α) (write : β → List UInt8) (value : β → α) (b : β) : Prop :=
  ∀ s, Ends s → item (write b ++ s) = some (value b, s)

/-- There are no more texts than bytes, but for the last. -/
lemma length_separated (bs : List β) (write : β → List UInt8) :
    bs.length ≤ (separated (bs.map write)).length + 1 := by
  induction bs with
  | nil => exact Nat.zero_le _
  | cons a bs ih =>
    cases bs with
    | nil => exact Nat.succ_le_succ (Nat.zero_le _)
    | cons b bs =>
      have split : separated ((a :: b :: bs).map write) =
          write a ++ 44 :: separated ((b :: bs).map write) := rfl
      rw [split, List.length_append]
      simp only [List.length_cons] at ih ⊢
      omega

/-- Items with commas between them are read one after the other. -/
lemma readItems_separated (reads : ∀ b ∈ bs, Reads item write value b) (comma : close ≠ 44)
    (digit : isDigit close = false) (nonempty : bs ≠ []) {fuel : Nat} (enough : bs.length ≤ fuel)
    (s : List UInt8) :
    readItems item close fuel (separated (bs.map write) ++ close :: s) = some (bs.map value, s) := by
  induction bs generalizing fuel with
  | nil => exact absurd rfl nonempty
  | cons a bs ih =>
    obtain ⟨fuel, rfl⟩ : ∃ k, fuel = k + 1 := Nat.exists_eq_succ_of_ne_zero (by
      rintro rfl
      cases enough)
    cases bs with
    | nil =>
      have first := reads a List.mem_cons_self (close :: s) (fun c rest eq => by
        cases eq
        exact digit)
      simp only [readItems, List.map_cons, List.map_nil, separated, first, if_neg comma, if_true]
    | cons b bs =>
      have first := reads a List.mem_cons_self
        (44 :: (separated ((b :: bs).map write) ++ close :: s)) (fun c rest eq => by
          cases eq
          rfl)
      have others := ih (fun x inside => reads x (List.mem_cons_of_mem a inside)) nofun
        (Nat.le_of_succ_le_succ enough)
      have split : separated ((a :: b :: bs).map write) =
          write a ++ 44 :: separated ((b :: bs).map write) := rfl
      rw [split, List.append_assoc, List.cons_append]
      simp only [readItems, first, others, if_true, Option.map_some]
      rfl

/-- So is a list, which may be empty. -/
lemma readList_separated (reads : ∀ b ∈ bs, Reads item write value b) (comma : close ≠ 44)
    (digit : isDigit close = false) (heads : ∀ b ∈ bs, ∃ c rest, write b = c :: rest ∧ c ≠ close)
    {fuel : Nat} (enough : (separated (bs.map write)).length + 1 ≤ fuel) (s : List UInt8) :
    readList item close fuel (separated (bs.map write) ++ close :: s) = some (bs.map value, s) := by
  have count := (length_separated bs write).trans enough
  cases bs with
  | nil => exact if_pos rfl
  | cons a bs =>
    obtain ⟨c, rest, begins, other⟩ := heads a List.mem_cons_self
    have head : (separated ((a :: bs).map write) ++ close :: s).head? ≠ some close := by
      rw [List.map_cons, begins]
      cases bs.map write <;> exact fun same => other (Option.some.inj same)
    rw [readList, if_neg head]
    exact readItems_separated reads comma digit (List.cons_ne_nil a bs) count s

end

/-! ## Values -/

mutual

/-- The text of a value. -/
def print (escape : UInt8 → List UInt8) : Json → List UInt8
  | null => ascii "null"
  | bool true => ascii "true"
  | bool false => ascii "false"
  | number i => printInt i
  | string s => quoted escape s
  | array items => 91 :: (separated (printItems escape items) ++ [93])
  | object members => 123 :: (separated (printMembers escape members) ++ [125])

/-- The texts of items. -/
def printItems (escape : UInt8 → List UInt8) : List Json → List (List UInt8)
  | [] => []
  | j :: items => print escape j :: printItems escape items

/-- The texts of members. -/
def printMembers (escape : UInt8 → List UInt8) : List (List UInt8 × Json) → List (List UInt8)
  | [] => []
  | (key, j) :: members => (quoted escape key ++ 58 :: print escape j) :: printMembers escape members

end

/-- The texts of members that stand behind another one. -/
def following (escape : UInt8 → List UInt8) (members : List (List UInt8 × Json)) : List UInt8 :=
  (printMembers escape members).flatMap (44 :: ·)

/-- A word for a value. -/
def readWord (word : List UInt8) (j : Json) : Reader Json := fun s =>
  if word.isPrefixOf s then some (j, s.drop word.length) else none

/-- A value whose text is no longer than the fuel. -/
def readValue : Nat → Reader Json
  | 0, _ => none
  | fuel + 1, s =>
    match s with
    | [] => none
    | c :: rest =>
      if c = 34 then (readString rest).map fun (bs, s) => (string bs, s)
      else if c = 91 then
        (readList (readValue fuel) 93 fuel rest).map fun (items, s) => (array items, s)
      else if c = 123 then
        (readList (readMember (readValue fuel)) 125 fuel rest).map
          fun (members, s) => (object members, s)
      else if c = 110 then readWord (ascii "null") null s
      else if c = 116 then readWord (ascii "true") (bool true) s
      else if c = 102 then readWord (ascii "false") (bool false) s
      else (readInt s).map fun (i, s) => (number i, s)

/-- The value of a whole text. -/
def read (s : List UInt8) : Option Json :=
  match readValue s.length s with
  | some (j, []) => some j
  | _ => none

/-- The value of a member. -/
def get? (key : List UInt8) : Json → Option Json
  | object members => members.lookup key
  | _ => none

/-- The string under a key. -/
def string? (key : List UInt8) (j : Json) : Option (List UInt8) :=
  match j.get? key with
  | some (string s) => some s
  | _ => none

/-- Whether `true` stands under a key. -/
def flag (key : List UInt8) (j : Json) : Bool :=
  match j.get? key with
  | some (bool b) => b
  | _ => false

/-- The items of an array of arrays. -/
def rows? : Json → Option (List (List Json))
  | array rows => rows.mapM fun row =>
    match row with
    | array items => some items
    | _ => none
  | _ => none

section

variable {escape : UInt8 → List UInt8}

/-- Items are printed each on its own. -/
lemma printItems_eq (items : List Json) : printItems escape items = items.map (print escape) := by
  induction items with
  | nil => rw [printItems, List.map_nil]
  | cons j items ih => rw [printItems, List.map_cons, ih]

/-- Members are printed each on its own: the name in quotes, a colon and the value. -/
lemma printMembers_eq (members : List (List UInt8 × Json)) :
    printMembers escape members =
      members.map fun member => quoted escape member.1 ++ 58 :: print escape member.2 := by
  induction members with
  | nil => rw [printMembers, List.map_nil]
  | cons member members ih => rw [printMembers, List.map_cons, ih]

lemma printMembers_append (ms ms' : List (List UInt8 × Json)) :
    printMembers escape (ms ++ ms') = printMembers escape ms ++ printMembers escape ms' := by
  simp only [printMembers_eq, List.map_append]

/-- What a loop leaves in a list to which each of its turns appends. -/
lemma foldl_appends {σ α β : Type} {turn : σ → α → σ} {view : σ → List β} {added : α → List β}
    (each : ∀ s a, view (turn s a) = view s ++ added a) (s : σ) (as : List α) :
    view (as.foldl turn s) = view s ++ as.flatMap added := by
  induction as generalizing s with
  | nil => exact (List.append_nil _).symm
  | cons a as ih => rw [List.foldl_cons, ih, each, List.append_assoc, List.flatMap_cons]

/-- Texts with commas between them: the first, and each of the others behind a comma. -/
lemma separated_cons (s : List UInt8) (texts : List (List UInt8)) :
    separated (s :: texts) = s ++ texts.flatMap (44 :: ·) := by
  induction texts generalizing s with
  | nil => exact (List.append_nil s).symm
  | cons t texts ih =>
    rw [List.flatMap_cons, List.cons_append, ← ih t]
    rfl

/-- An object is its first member and what follows it. -/
lemma print_object_cons (key : List UInt8) (j : Json) (members : List (List UInt8 × Json)) :
    print escape (object ((key, j) :: members)) =
      123 :: (quoted escape key ++ 58 :: print escape j ++ following escape members ++ [125]) := by
  rw [print, printMembers, separated_cons, following]

@[simp]
lemma following_nil : following escape [] = [] := by
  rw [following, printMembers, List.flatMap_nil]

@[simp]
lemma following_append (ms ms' : List (List UInt8 × Json)) :
    following escape (ms ++ ms') = following escape ms ++ following escape ms' := by
  rw [following, printMembers_append, List.flatMap_append, following, following]

/-- The text of a member behind another one, and then the others. -/
lemma following_cons (key : List UInt8) (j : Json) (members : List (List UInt8 × Json)) :
    following escape ((key, j) :: members) =
      44 :: (quoted escape key ++ 58 :: print escape j ++ following escape members) := by
  rw [following, printMembers, List.flatMap_cons, following, List.cons_append]

/-- A member behind another one. -/
lemma following_singleton (key : List UInt8) (j : Json) :
    following escape [(key, j)] = 44 :: (quoted escape key ++ 58 :: print escape j) := by
  rw [following_cons, following_nil, List.append_nil]

/-- The text of an array from those of its items. -/
lemma print_array_map {α : Type} {f : α → Json} {text : α → List UInt8} {as : List α}
    (spelt : ∀ a ∈ as, text a = print escape (f a)) :
    91 :: (separated (as.map text) ++ [93]) = print escape (array (as.map f)) := by
  rw [print, printItems_eq, List.map_map]
  exact congrArg (91 :: separated · ++ [93]) (List.map_congr_left spelt)

/-- A text that ends with members or does not. -/
lemma following_ite (given : Prop) [Decidable given] {text : List UInt8}
    {members : List (List UInt8 × Json)} (spelt : text = following escape members)
    (front : List UInt8) :
    (if given then front ++ text else front) =
      front ++ following escape (if given then members else []) := by
  split
  · rw [spelt]
  · rw [following_nil, List.append_nil]

/-- No text is longer than the list that it stands in. -/
lemma length_le_separated {text : List UInt8} {texts : List (List UInt8)} (inside : text ∈ texts) :
    text.length ≤ (separated texts).length := by
  induction texts with
  | nil => cases inside
  | cons first texts ih =>
    cases texts with
    | nil => exact (List.mem_singleton.mp inside).symm ▸ Nat.le_refl _
    | cons second texts =>
      rw [separated, List.length_append, List.length_cons]
      · rcases List.mem_cons.mp inside with rfl | later
        · omega
        · have := ih later
          omega
      · nofun

/-- The first byte of a number is none of those that other values begin with. -/
lemma printInt_head (i : Int) : ∃ c rest, printInt i = c :: rest ∧ c ≠ 34 ∧ c ≠ 91 ∧ c ≠ 123 ∧
    c ≠ 110 ∧ c ≠ 116 ∧ c ≠ 102 ∧ c ≠ 93 := by
  rw [printInt]
  split
  · exact ⟨45, _, rfl, by decide⟩
  · obtain ⟨c, digits, eq⟩ := List.exists_cons_of_ne_nil (decimal_ne_nil i.natAbs)
    have digit := decimal_digits i.natAbs c (eq ▸ List.mem_cons_self)
    refine ⟨c, digits, eq, ?_, ?_, ?_, ?_, ?_, ?_, ?_⟩
    all_goals
      rintro rfl
      cases digit

/-- No value begins with a closing bracket. -/
lemma print_head (escape : UInt8 → List UInt8) (j : Json) :
    ∃ c rest, print escape j = c :: rest ∧ c ≠ 93 := by
  cases j with
  | null => exact ⟨110, ascii "ull", rfl, by decide⟩
  | bool b =>
    cases b
    · exact ⟨102, ascii "alse", rfl, by decide⟩
    · exact ⟨116, ascii "rue", rfl, by decide⟩
  | number i =>
    obtain ⟨c, rest, begins, -, -, -, -, -, -, other⟩ := printInt_head i
    exact ⟨c, rest, begins, other⟩
  | string s => exact ⟨34, _, rfl, by decide⟩
  | array items => exact ⟨91, _, rfl, by decide⟩
  | object members => exact ⟨123, _, rfl, by decide⟩

lemma print_ne_nil (escape : UInt8 → List UInt8) (j : Json) : print escape j ≠ [] := by
  obtain ⟨c, rest, begins, -⟩ := print_head escape j
  exact begins ▸ List.cons_ne_nil c rest

/-- Reading gets the value from the text, whatever may stand behind it. -/
structure Denotes (text : List UInt8) (j : Json) : Prop where
  /-- No value begins with a closing bracket. -/
  head : ∃ c rest, text = c :: rest ∧ c ≠ 93
  reads : ∀ fuel, text.length ≤ fuel → ∀ s, Ends s → readValue fuel (text ++ s) = some (j, s)

/-- The text of a member: a name that is read back, a colon and a value. -/
def DenotesMember (text : List UInt8) (m : List UInt8 × Json) : Prop :=
  ∃ name value, text = 34 :: (name ++ 34 :: 58 :: value) ∧
    (∀ s, readString (name ++ 34 :: s) = some (m.1, s)) ∧ Denotes value m.2

/-- Fuel for a text is fuel for its first byte. -/
lemma fuel_pos {text : List UInt8} {c : UInt8} {rest : List UInt8} {fuel : Nat}
    (begins : text = c :: rest) (enough : text.length ≤ fuel) : ∃ k, fuel = k + 1 := by
  rw [begins, List.length_cons] at enough
  exact Nat.exists_eq_add_of_le' ((Nat.succ_le_succ (Nat.zero_le _)).trans enough)

/-- A string in quotes, however its bytes are spelt. -/
lemma denotes_string {body bs : List UInt8} (reads : ∀ s, readString (body ++ 34 :: s) = some (bs, s)) :
    Denotes (34 :: (body ++ [34])) (string bs) := by
  refine ⟨⟨34, _, rfl, by decide⟩, fun fuel enough s _ => ?_⟩
  obtain ⟨fuel, rfl⟩ := fuel_pos rfl enough
  rw [List.cons_append, List.append_assoc, List.singleton_append, readValue]
  simp only [if_true, reads, Option.map_some]

/-- Items in square brackets. -/
lemma denotes_array {β : Type} {write : β → List UInt8} {value : β → Json} {bs : List β}
    (items : ∀ b ∈ bs, Denotes (write b) (value b)) :
    Denotes (91 :: (separated (bs.map write) ++ [93])) (array (bs.map value)) := by
  refine ⟨⟨91, _, rfl, by decide⟩, fun fuel enough s _ => ?_⟩
  obtain ⟨fuel, rfl⟩ := fuel_pos rfl enough
  rw [List.length_cons, List.length_append, List.length_singleton] at enough
  have reads (b) (inside : b ∈ bs) : Reads (readValue fuel) write value b :=
    (items b inside).reads fuel
      ((length_le_separated (List.mem_map_of_mem inside)).trans (by omega))
  rw [List.cons_append, List.append_assoc, List.singleton_append, readValue]
  have bracket : (91 : UInt8) ≠ 34 := by decide
  have list : readList (readValue fuel) 93 fuel _ = some (bs.map value, s) :=
    readList_separated reads (by decide) rfl (fun b inside => (items b inside).head) (by omega) s
  simp only [bracket, if_false, if_true, list, Option.map_some]

/-- Members in braces. -/
lemma denotes_object {β : Type} {write : β → List UInt8} {value : β → List UInt8 × Json} {bs : List β}
    (members : ∀ b ∈ bs, DenotesMember (write b) (value b)) :
    Denotes (123 :: (separated (bs.map write) ++ [125])) (object (bs.map value)) := by
  refine ⟨⟨123, _, rfl, by decide⟩, fun fuel enough s _ => ?_⟩
  obtain ⟨fuel, rfl⟩ := fuel_pos rfl enough
  rw [List.length_cons, List.length_append, List.length_singleton] at enough
  have reads (b) (inside : b ∈ bs) : Reads (readMember (readValue fuel)) write value b := by
    intro s ends
    obtain ⟨name, text, begins, named, denotes⟩ := members b inside
    have whole := length_le_separated (List.mem_map_of_mem (f := write) inside)
    rw [begins, List.length_cons, List.length_append, List.length_cons, List.length_cons] at whole
    have value : readValue fuel (text ++ s) = _ := denotes.reads fuel (by omega) s ends
    simp only [begins, List.cons_append, List.append_assoc, readMember, List.head?_cons, if_true,
      List.tail_cons, named, value, Option.map_some]
  have heads (b) (inside : b ∈ bs) : ∃ c rest, write b = c :: rest ∧ c ≠ 125 := by
    obtain ⟨name, text, begins, -⟩ := members b inside
    exact ⟨34, _, begins, by decide⟩
  rw [List.cons_append, List.append_assoc, List.singleton_append, readValue]
  have brace : (123 : UInt8) ≠ 34 ∧ (123 : UInt8) ≠ 91 := by decide
  have list : readList (readMember (readValue fuel)) 125 fuel _ = some (bs.map value, s) :=
    readList_separated reads (by decide) rfl heads (by omega) s
  simp only [brace, if_false, if_true, list, Option.map_some]

/-- A member as it is printed. -/
lemma denotesMember_quoted (spells : Spells escape) (key : List UInt8) {text : List UInt8} {j : Json}
    (value : Denotes text j) : DenotesMember (quoted escape key ++ 58 :: text) (key, j) := by
  refine ⟨key.flatMap escape, text, ?_, readString_quoted spells key, value⟩
  rw [quoted, List.cons_append, List.append_assoc, List.singleton_append]

/-- Reading undoes printing. -/
lemma denotes_print (spells : Spells escape) (j : Json) : Denotes (print escape j) j := by
  induction j using induction with
  | null =>
    refine ⟨print_head escape _, fun fuel enough s _ => ?_⟩
    obtain ⟨fuel, rfl⟩ := fuel_pos rfl enough
    rfl
  | bool b =>
    refine ⟨print_head escape _, fun fuel enough s _ => ?_⟩
    obtain ⟨c, rest, begins, -⟩ := print_head escape (bool b)
    obtain ⟨fuel, rfl⟩ := fuel_pos begins enough
    cases b <;> rfl
  | number i =>
    refine ⟨print_head escape _, fun fuel enough s ends => ?_⟩
    obtain ⟨c, rest, begins, quote, bracket, brace, n, t, f, -⟩ := printInt_head i
    obtain ⟨fuel, rfl⟩ := fuel_pos begins enough
    have back := readInt_printInt i ends
    rw [begins, List.cons_append] at back
    rw [print, begins, List.cons_append]
    simp only [readValue, quote, bracket, brace, n, t, f, if_false, back, Option.map_some]
  | string bs => exact denotes_string (readString_quoted spells bs)
  | array items ih =>
    have whole := @denotes_array _ _ id _ ih
    rw [List.map_id] at whole
    rw [print, printItems_eq]
    exact whole
  | object members ih =>
    have whole := @denotes_object _ _ id _ fun m inside =>
      denotesMember_quoted spells m.1 (ih m inside)
    rw [List.map_id] at whole
    rw [print, printMembers_eq]
    exact whole

/-- A text that denotes a value is read as that value. -/
lemma Denotes.read {text : List UInt8} {j : Json} (denotes : Denotes text j) : read text = some j := by
  have whole := denotes.reads _ (Nat.le_refl _) [] nofun
  rw [List.append_nil] at whole
  rw [Json.read, whole]

/-- Reading the text of a value gets the value back. -/
theorem read_print (spells : Spells escape) (j : Json) : read (print escape j) = some j :=
  (denotes_print spells j).read

end

/-! ## Shapes -/

mutual

/-- A value without the contents of its strings. -/
def shape : Json → Json
  | null => null
  | bool b => bool b
  | number i => number i
  | string _ => string []
  | array items => array (shapeItems items)
  | object members => object (shapeMembers members)

/-- The shapes of items. -/
def shapeItems : List Json → List Json
  | [] => []
  | j :: items => shape j :: shapeItems items

/-- The shapes of members, under their names. -/
def shapeMembers : List (List UInt8 × Json) → List (List UInt8 × Json)
  | [] => []
  | (key, j) :: members => (key, shape j) :: shapeMembers members

end

/-- Items are shaped each on its own. -/
lemma shapeItems_eq (items : List Json) : shapeItems items = items.map shape := by
  induction items with
  | nil => rw [shapeItems, List.map_nil]
  | cons j items ih => rw [shapeItems, List.map_cons, ih]

/-- Members are shaped each on its own. -/
lemma shapeMembers_eq (members : List (List UInt8 × Json)) :
    shapeMembers members = members.map fun member => (member.1, shape member.2) := by
  induction members with
  | nil => rw [shapeMembers, List.map_nil]
  | cons member members ih => rw [shapeMembers, List.map_cons, ih]

@[simp]
lemma shape_bool (b : Bool) : shape (bool b) = bool b := by rw [shape]

@[simp]
lemma shape_number (i : Int) : shape (number i) = number i := by rw [shape]

@[simp]
lemma shape_string (s : List UInt8) : shape (string s) = string [] := by rw [shape]

@[simp]
lemma shape_array (items : List Json) : shape (array items) = array (items.map shape) := by
  rw [shape, shapeItems_eq]

@[simp]
lemma shape_object (members : List (List UInt8 × Json)) :
    shape (object members) = object (members.map fun member => (member.1, shape member.2)) := by
  rw [shape, shapeMembers_eq]

end Json
