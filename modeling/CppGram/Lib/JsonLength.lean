import CppGram.Lib.Json
import Mathlib.Data.List.TakeWhile

/-!
# Lengths of JSON texts

If a printer spells no byte with more characters than the reader needs (`Shortest`), no text that is read
as a value is shorter than the one that is printed for it (`length_print_le`).
-/

namespace Json

/-- No spelling of a byte that is read is shorter. -/
structure Shortest (escape : UInt8 → List UInt8) : Prop where
  plain : ∀ {b}, b ≠ 34 → b ≠ 92 → ¬ b < 32 → (escape b).length ≤ 1
  named : ∀ {e b}, unescape e = some b → (escape b).length ≤ 2
  hex : ∀ b, (escape b).length ≤ 6

/-- What is read has at least the length of what is written. -/
def Takes {α : Type} (reader : Reader α) (write : α → List UInt8) : Prop :=
  ∀ {s a rest}, reader s = some (a, rest) → (write a).length + rest.length ≤ s.length

/-! ## Numbers -/

/-- Digits may have zeros in front, and are never shorter than the number printed. -/
lemma length_decimal_le {digits : List UInt8} (all : ∀ c ∈ digits, isDigit c = true)
    (nonempty : digits ≠ []) : (decimal (value digits)).length ≤ digits.length := by
  rw [decimal]
  split_ifs with zero
  · exact List.length_pos_iff.mpr nonempty
  · rw [List.length_map, List.length_reverse, Nat.digits_length_le_iff (by decide), value]
    have small := Nat.ofDigits_lt_base_pow_length (b := 10)
      (l := digits.reverse.map fun c => c.toNat - 48) (by decide) fun d inside => ?_
    · rwa [List.length_map, List.length_reverse] at small
    · obtain ⟨c, there, rfl⟩ := List.mem_map.mp inside
      have digit := all c (List.mem_reverse.mp there)
      rw [isDigit, Bool.and_eq_true, decide_eq_true_iff, decide_eq_true_iff, UInt8.le_iff_toNat_le,
        UInt8.le_iff_toNat_le] at digit
      have : c.toNat ≤ 57 := digit.2
      omega

/-- A number is read from no less than its text. -/
lemma takes_nat : Takes readNat decimal := by
  intro s n rest read
  rw [readNat] at read
  split at read
  · cases read
  · next plain =>
    cases read
    have short := length_decimal_le (fun c inside => List.mem_takeWhile_imp inside)
      (fun empty => plain (.inl empty))
    have whole := congrArg List.length (List.takeWhile_append_dropWhile (p := isDigit) (l := s))
    rw [List.length_append] at whole
    omega

/-- With its sign too. -/
lemma takes_int : Takes readInt printInt := by
  intro s i rest read
  rw [readInt] at read
  split at read
  · next minus =>
    obtain ⟨⟨n, s'⟩, front, same⟩ := Option.map_eq_some_iff.mp read
    cases same
    have := takes_nat front
    cases s with
    | nil => cases minus
    | cons c s =>
      rw [List.tail_cons] at this
      rw [printInt, List.length_cons]
      split_ifs
      · rw [List.length_cons, Int.natAbs_neg, Int.natAbs_natCast]
        omega
      · rw [Int.natAbs_neg, Int.natAbs_natCast]
        omega
  · obtain ⟨⟨n, s'⟩, front, same⟩ := Option.map_eq_some_iff.mp read
    cases same
    have := takes_nat front
    rw [printInt, if_neg (by omega), Int.natAbs_natCast]
    exact this

/-! ## Strings -/

section

variable {escape : UInt8 → List UInt8} (shortest : Shortest escape)
include shortest

/-- A string is read from no less than its text and the closing quote. -/
lemma length_readString {s bs rest : List UInt8} (read : readString s = some (bs, rest)) :
    (bs.flatMap escape).length + 1 + rest.length ≤ s.length := by
  fun_induction readString s generalizing bs rest with
  | case2 s =>
    cases read
    rw [List.flatMap_nil, List.length_nil, List.length_cons]
    omega
  | case4 w x y z s b names escaped ih =>
    obtain ⟨⟨bs, s'⟩, read, same⟩ := Option.map_eq_some_iff.mp read
    cases same
    have := ih read
    have := shortest.hex b
    simp only [List.flatMap_cons, List.length_append, List.length_cons]
    omega
  | case7 e s other b names escaped ih =>
    obtain ⟨⟨bs, s'⟩, read, same⟩ := Option.map_eq_some_iff.mp read
    cases same
    have := ih read
    have := shortest.named names
    simp only [List.flatMap_cons, List.length_append, List.length_cons]
    omega
  | case10 c s quote backslash printable ih =>
    obtain ⟨⟨bs, s'⟩, read, same⟩ := Option.map_eq_some_iff.mp read
    cases same
    have := ih read
    have := shortest.plain quote backslash printable
    simp only [List.flatMap_cons, List.length_append, List.length_cons]
    omega
  | case1 | case3 | case5 | case6 | case8 | case9 => cases read

end

/-! ## Items and members -/

/-- One more text takes its length and a comma. -/
lemma length_separated_cons_le (text : List UInt8) (texts : List (List UInt8)) :
    (separated (text :: texts)).length ≤ text.length + 1 + (separated texts).length := by
  cases texts with
  | nil => exact Nat.le_add_right _ _
  | cons second texts =>
    rw [separated, List.length_append, List.length_cons]
    · omega
    · exact fun this => by cases this

section

variable {α : Type} {item : Reader α} {write : α → List UInt8} (takes : Takes item write)
include takes

/-- Items are read from no less than their texts, the commas and the closing bracket. -/
lemma length_readItems {close : UInt8} {fuel : Nat} {s rest : List UInt8} {as : List α}
    (read : readItems item close fuel s = some (as, rest)) :
    (separated (as.map write)).length + 1 + rest.length ≤ s.length := by
  induction fuel generalizing s as with
  | zero => cases read
  | succ fuel ih =>
    rw [readItems] at read
    cases first : item s with
    | none =>
      rw [first] at read
      cases read
    | some front =>
      obtain ⟨a, s'⟩ := front
      have := takes first
      rw [first] at read
      cases s' with
      | nil => cases read
      | cons c s' =>
        simp only at read
        split_ifs at read with comma closed
        · obtain ⟨⟨bs, s''⟩, others, same⟩ := Option.map_eq_some_iff.mp read
          cases same
          have := ih others
          have := length_separated_cons_le (write a) (bs.map write)
          simp only [List.map_cons, List.length_cons] at *
          omega
        · cases read
          rw [List.map_cons, List.map_nil, separated]
          simp only [List.length_cons] at this
          omega

/-- An empty list too. -/
lemma length_readList {close : UInt8} {fuel : Nat} {s rest : List UInt8} {as : List α}
    (read : readList item close fuel s = some (as, rest)) :
    (separated (as.map write)).length + 1 + rest.length ≤ s.length := by
  rw [readList] at read
  split_ifs at read with closed
  · cases read
    cases s with
    | nil => cases closed
    | cons c s =>
      simp only [List.map_nil, separated, List.length_nil, List.tail_cons, List.length_cons]
      omega
  · exact length_readItems takes read

end

/-! ## Values -/

/-- A word is read from its letters. -/
lemma takes_word {word s rest : List UInt8} {j j' : Json}
    (read : readWord word j s = some (j', rest)) : j' = j ∧ word.length + rest.length ≤ s.length := by
  rw [readWord] at read
  split_ifs at read with front
  cases read
  have := (List.isPrefixOf_iff_prefix.mp front).length_le
  rw [List.length_drop]
  exact ⟨rfl, by omega⟩

section

variable {escape : UInt8 → List UInt8} (shortest : Shortest escape)
include shortest

/-- A member is read from no less than its text if its value is. -/
lemma takes_member {value : Reader Json} (takes : Takes value (print escape)) :
    Takes (readMember value) fun member =>
      quoted escape member.1 ++ 58 :: print escape member.2 := by
  intro s member rest read
  rw [readMember] at read
  split_ifs at read with quote
  cases s with
  | nil => cases quote
  | cons c s =>
    rw [List.tail_cons] at read
    split at read
    · next key s' name =>
      obtain ⟨⟨j, s'⟩, there, same⟩ := Option.map_eq_some_iff.mp read
      cases same
      have := length_readString shortest name
      have := takes there
      simp only [quoted, List.length_append, List.length_cons, List.length_nil] at *
      omega
    · cases read

/-- No text that is read as a value is shorter than the printed one. -/
lemma takes_value (fuel : Nat) : Takes (readValue fuel) (print escape) := by
  induction fuel with
  | zero =>
    intro s j rest read
    cases read
  | succ fuel ih =>
    intro s j rest read
    cases s with
    | nil => cases read
    | cons c s =>
      simp only [readValue] at read
      split_ifs at read with string array object null true false
      · obtain ⟨⟨bs, s'⟩, there, same⟩ := Option.map_eq_some_iff.mp read
        cases same
        have := length_readString shortest there
        rw [print, quoted]
        simp only [List.length_append, List.length_cons, List.length_nil]
        omega
      · obtain ⟨⟨items, s'⟩, there, same⟩ := Option.map_eq_some_iff.mp read
        cases same
        have := length_readList ih there
        rw [print, printItems_eq]
        simp only [List.length_append, List.length_cons, List.length_nil]
        omega
      · obtain ⟨⟨members, s'⟩, there, same⟩ := Option.map_eq_some_iff.mp read
        cases same
        have := length_readList (takes_member shortest ih) there
        rw [print, printMembers_eq]
        simp only [List.length_append, List.length_cons, List.length_nil]
        omega
      · obtain ⟨rfl, long⟩ := takes_word read
        rwa [print]
      · obtain ⟨rfl, long⟩ := takes_word read
        rwa [print]
      · obtain ⟨rfl, long⟩ := takes_word read
        rwa [print]
      · obtain ⟨⟨i, s'⟩, there, same⟩ := Option.map_eq_some_iff.mp read
        cases same
        rw [print]
        exact takes_int there

/-- The same for whole texts. -/
theorem length_print_le {s : List UInt8} {j : Json} (whole : read s = some j) :
    (print escape j).length ≤ s.length := by
  rw [read] at whole
  split at whole
  · next j' front =>
    cases whole
    exact takes_value shortest _ front
  · cases whole

end

end Json
