import CppGram.Backend.ReplyMarkup
import CppGram.Lib.JsonString

/-!
# The escaping of JSON strings

`escape_json_string` is written twice, for the JSON of `client.cpp` (`escapeJsonString`) and for that of
`rich_message.cpp`, which is taken here with the conversions that `snprintf` makes. Both write the same
text, and by the grammar of JSON strings that text says the string itself and nothing else.
-/

namespace CppGram.Backend
open Json

namespace RichMessage

/-- A `char`, which is signed, as the `int` that a variadic function is passed. -/
def promote (c : UInt8) : Int := c.toInt8.toInt

/-- What `%04x` writes for an argument, which it takes for an `unsigned int`. -/
def format04x (arg : Int) : Text :=
  let digits := (Nat.toDigits 16 (arg % 2 ^ 32).toNat).map fun d => d.val.toUInt8
  List.replicate (4 - digits.length) 48 ++ digits

/-- What `snprintf` leaves in a buffer, in front of the terminator. -/
def snprintf (size : Nat) (text : Text) : Text := text.take (size - 1)

/-- One turn of the loop of `escape_json_string`. -/
def escapeJsonStep (out : Text) (c : UInt8) : Text :=
  if c = 34 then out ++ ascii "\\\""
  else if c = 92 then out ++ ascii "\\\\"
  else if c = 8 then out ++ ascii "\\b"
  else if c = 12 then out ++ ascii "\\f"
  else if c = 10 then out ++ ascii "\\n"
  else if c = 13 then out ++ ascii "\\r"
  else if c = 9 then out ++ ascii "\\t"
  else if c < 0x20 then out ++ snprintf 8 (ascii "\\u" ++ format04x (promote c))
  else out ++ [c]

/-- `escape_json_string` (C++ `rich_message.cpp`). -/
def escapeJsonString (s : Text) : Text := s.foldl escapeJsonStep []

/-- A control character is no negative `char`, and has two digits. -/
lemma snprintf_control {c : UInt8} (control : c < 32) :
    snprintf 8 (ascii "\\u" ++ format04x (promote c)) =
      ascii "\\u00" ++ [hexDigit (c / 16), hexDigit (c % 16)] := by
  have all : ∀ n < 32, snprintf 8 (ascii "\\u" ++ format04x (promote n.toUInt8)) =
      ascii "\\u00" ++ [hexDigit (n.toUInt8 / 16), hexDigit (n.toUInt8 % 16)] := by decide
  have back : c.toNat.toUInt8 = c := UInt8.ofNat_toNat
  have this := all c.toNat (UInt8.lt_iff_toNat_lt.mp control)
  rwa [back] at this

/-- A step of the loop writes what a character is escaped to. -/
lemma escapeJsonStep_eq (out : Text) (c : UInt8) :
    escapeJsonStep out c = out ++ escapeJsonChar c := by
  rw [escapeJsonStep, escapeJsonChar]
  split_ifs with quote backslash b f n r t control
  all_goals try rfl
  rw [snprintf_control control]

/-- The two copies write the same text. -/
lemma escapeJsonString_eq (s : Text) : escapeJsonString s = Backend.escapeJsonString s :=
  @foldl_appends _ _ _ _ id _ escapeJsonStep_eq [] s

end RichMessage

/-- Four digits are those of a control character, which is no surrogate. -/
lemma spelling_control {c : UInt8} (control : c < 32) :
    Spelling (ascii "\\u00" ++ [hexDigit (c / 16), hexDigit (c % 16)]) [c] := by
  have all : ∀ n < 32, hex4 48 48 (hexDigit (n.toUInt8 / 16)) (hexDigit (n.toUInt8 % 16)) = some n ∧
      encodeUtf8 n = [n.toUInt8] := by decide
  obtain ⟨four, char⟩ := all c.toNat (UInt8.lt_iff_toNat_lt.mp control)
  have back : c.toNat.toUInt8 = c := UInt8.ofNat_toNat
  rw [back] at four char
  have small : c.toNat < 32 := UInt8.lt_iff_toNat_lt.mp control
  have sp := Spelling.unit four (fun high => by have := high.1; omega)
    (fun low => by have := low.1; omega)
  rwa [char] at sp

/-- Every character is spelt. -/
lemma spelling_escapeJsonChar (c : UInt8) : Spelling (escapeJsonChar c) [c] := by
  rw [escapeJsonChar]
  split_ifs with quote backslash b f n r t control
  · exact quote ▸ .letter rfl
  · exact backslash ▸ .letter rfl
  · exact b ▸ .letter rfl
  · exact f ▸ .letter rfl
  · exact n ▸ .letter rfl
  · exact r ▸ .letter rfl
  · exact t ▸ .letter rfl
  · exact spelling_control control
  · exact .plain (UInt8.not_lt.mp control) quote backslash

/-- Both copies of `escape_json_string` write one text. It has no control characters, no quote and no
    backslash outside an escape; and in quotes a JSON reader takes it for the string itself and stops at
    the closing quote, whatever follows. -/
theorem escapeJsonString_reads (s : Text) :
    RichMessage.escapeJsonString s = escapeJsonString s ∧
    (∀ c ∈ escapeJsonString s, 32 ≤ c) ∧
    (∀ c ∈ unescaped (escapeJsonString s), c ≠ 34 ∧ c ≠ 92) ∧
    ∀ rest body bs rest',
      Chars body bs ∧ body ++ 34 :: rest' = escapeJsonString s ++ 34 :: rest ↔
        body = escapeJsonString s ∧ bs = s ∧ rest' = rest := by
  have chars : Chars (escapeJsonString s) s := Chars.flatMap spelling_escapeJsonChar s
  refine ⟨RichMessage.escapeJsonString_eq s, chars.printable, chars.unescaped, ?_⟩
  intro rest body bs rest'
  constructor
  · rintro ⟨read, same⟩
    exact read.unique chars same
  · rintro ⟨rfl, rfl, rfl⟩
    exact ⟨chars, rfl⟩

end CppGram.Backend
