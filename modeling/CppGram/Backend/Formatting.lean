import CppGram.Backend.Types
import CppGram.Lib.Json
import Mathlib.Data.List.TakeWhile

/-!
# Formatted texts

The conversions between `td_api::formattedText` and the `FormattedText` of C++ `types.hpp`, with
`std::stoll`, through which the user of a mention comes back. What goes into the domain model and back
to TDLib loses the entities whose type the code does not map, and no other
(`convertFormattedText_received`).
-/

namespace CppGram.Backend
open Json (printInt isDigit value decimal)

/-! ## Types -/

/-- C++ `enum class MessageEntityType`. -/
inductive MessageEntityType where
  | Mention
  | Hashtag
  | Cashtag
  | BotCommand
  | Url
  | EmailAddress
  | PhoneNumber
  | Bold
  | Italic
  | Underline
  | Strikethrough
  | Spoiler
  | Code
  | Pre
  | PreCode
  | TextUrl
  | MentionName
  | CustomEmoji
  | Unknown
  deriving DecidableEq, Repr

/-- C++ `struct MessageEntity`. -/
structure MessageEntity where
  type : MessageEntityType := .Unknown
  offset : Int32 := 0
  length : Int32 := 0
  argument : Text := []
  deriving DecidableEq, Repr

/-- C++ `struct FormattedText`. -/
structure FormattedText where
  text : Text := []
  entities : List MessageEntity := []
  deriving DecidableEq, Repr

namespace TdApi

/-- `td_api::TextEntityType`, as far as `convert_entity_type` tells its classes apart. -/
inductive TextEntityType where
  | mention
  | hashtag
  | cashtag
  | botCommand
  | url
  | emailAddress
  | phoneNumber
  | bold
  | italic
  | underline
  | strikethrough
  | code
  | pre
  | preCode (language : Text)
  | textUrl (url : Text)
  | mentionName (userId : Int64)
  | other
  deriving DecidableEq, Repr

/-- `td_api::textEntity`; the type may be null. -/
structure TextEntity where
  offset : Int32
  length : Int32
  type : Option TextEntityType
  deriving DecidableEq, Repr

/-- `td_api::formattedText`; an entity may be null. -/
structure FormattedText where
  text : Text := []
  entities : List (Option TextEntity) := []
  deriving DecidableEq, Repr

end TdApi

/-! ## Numbers -/

/-- What `std::stoll` throws. -/
inductive StollFault where
  | invalidArgument
  | outOfRange
  deriving DecidableEq, Repr

/-- `isspace` in the C locale. -/
def isSpace (c : UInt8) : Bool := c == 32 || (9 ≤ c && c ≤ 13)

/-- A sign at the front of a number; whether it is a minus. -/
def takeSign (str : Text) : Bool × Text :=
  if str.head? = some 45 then (true, str.tail)
  else if str.head? = some 43 then (false, str.tail)
  else (false, str)

/-- `std::stoll`: blanks, a sign and decimal digits; what stands behind them is not looked at. -/
def stoll (str : Text) : Except StollFault Int64 :=
  let signed := takeSign (str.dropWhile isSpace)
  let digits := signed.2.takeWhile isDigit
  let n : Int := if signed.1 then -value digits else value digits
  if digits = [] then .error .invalidArgument
  else if -2 ^ 63 ≤ n ∧ n < 2 ^ 63 then .ok (Int64.ofInt n)
  else .error .outOfRange

/-! ## Conversions -/

/-- `convert_entity_type`. -/
def convertEntityType : TdApi.TextEntityType → MessageEntityType
  | .mention => .Mention
  | .hashtag => .Hashtag
  | .cashtag => .Cashtag
  | .botCommand => .BotCommand
  | .url => .Url
  | .emailAddress => .EmailAddress
  | .phoneNumber => .PhoneNumber
  | .bold => .Bold
  | .italic => .Italic
  | .underline => .Underline
  | .strikethrough => .Strikethrough
  | .code => .Code
  | .pre => .Pre
  | .preCode _ => .PreCode
  | .textUrl _ => .TextUrl
  | .mentionName _ => .MentionName
  | .other => .Unknown

/-- `make_td_entity_type`, which is null where no type is mapped. -/
def makeTdEntityType (ent : MessageEntity) : Except StollFault (Option TdApi.TextEntityType) :=
  match ent.type with
  | .Mention => .ok (some .mention)
  | .Hashtag => .ok (some .hashtag)
  | .Cashtag => .ok (some .cashtag)
  | .BotCommand => .ok (some .botCommand)
  | .Url => .ok (some .url)
  | .EmailAddress => .ok (some .emailAddress)
  | .PhoneNumber => .ok (some .phoneNumber)
  | .Bold => .ok (some .bold)
  | .Italic => .ok (some .italic)
  | .Underline => .ok (some .underline)
  | .Strikethrough => .ok (some .strikethrough)
  | .Code => .ok (some .code)
  | .Pre => .ok (some .pre)
  | .PreCode => .ok (some (.preCode ent.argument))
  | .TextUrl => .ok (some (.textUrl ent.argument))
  | .MentionName =>
    if ent.argument = [] then .ok (some (.mentionName 0))
    else do return some (.mentionName (← stoll ent.argument))
  | .Spoiler | .CustomEmoji | .Unknown => .ok none

/-- What `convert_entities` takes out of a type. -/
def entityArgument : TdApi.TextEntityType → Text
  | .textUrl url => url
  | .preCode language => language
  | .mentionName userId => printInt userId.toInt
  | _ => []

/-- `convert_entities` on an entity; null ones are left out. -/
def convertEntity (e : Option TdApi.TextEntity) : Option MessageEntity := do
  let e ← e
  let type ← e.type
  return { type := convertEntityType type
           offset := e.offset
           length := e.length
           argument := entityArgument type }

/-- `convert_entities`. -/
def convertEntities (entities : List (Option TdApi.TextEntity)) : List MessageEntity :=
  entities.filterMap convertEntity

/-- The loop of `convert_formatted_text`. -/
def makeTdEntities : List MessageEntity → Except StollFault (List (Option TdApi.TextEntity))
  | [] => .ok []
  | e :: entities => do
    match ← makeTdEntityType e with
    | some t =>
      return some { offset := e.offset, length := e.length, type := some t } ::
        (← makeTdEntities entities)
    | none => makeTdEntities entities

/-- `convert_formatted_text`. -/
def convertFormattedText (ft : FormattedText) : Except StollFault TdApi.FormattedText := do
  return { text := ft.text, entities := ← makeTdEntities ft.entities }

/-- `convert_td_formatted_text`. -/
def convertTdFormattedText (ft : TdApi.FormattedText) : FormattedText where
  text := ft.text
  entities := convertEntities ft.entities

/-! ## Round trips -/

/-- A digit is no blank and no sign. -/
lemma digit_plain {c : UInt8} (digit : isDigit c = true) :
    isSpace c = false ∧ c ≠ 45 ∧ c ≠ 43 := by
  refine ⟨Bool.eq_false_iff.mpr fun space => ?_, ?_, ?_⟩
  · rw [isSpace, Bool.or_eq_true, beq_iff_eq, Bool.and_eq_true, decide_eq_true_iff,
      decide_eq_true_iff] at space
    rcases space with rfl | ⟨-, low⟩
    · cases digit
    · rw [isDigit, Bool.and_eq_true, decide_eq_true_iff, decide_eq_true_iff] at digit
      exact absurd (UInt8.le_trans digit.1 low) (by decide)
  all_goals
    rintro rfl
    cases digit

/-- A number that is not negative is written without a sign. -/
lemma takeSign_decimal (n : Nat) : takeSign ((decimal n).dropWhile isSpace) = (false, decimal n) := by
  obtain ⟨c, str, eq⟩ := List.exists_cons_of_ne_nil (Json.decimal_ne_nil n)
  obtain ⟨plain, minus, plus⟩ := digit_plain (Json.decimal_digits n c (eq ▸ List.mem_cons_self))
  rw [eq, List.dropWhile_cons_of_neg (plain ▸ Bool.false_ne_true), takeSign, List.head?_cons,
    if_neg fun same => minus (Option.some.inj same), if_neg fun same => plus (Option.some.inj same)]

lemma takeWhile_decimal (n : Nat) : (decimal n).takeWhile isDigit = decimal n :=
  List.takeWhile_eq_self_iff.mpr (Json.decimal_digits n)

/-- `std::stoll` gets back what `std::to_string` wrote. -/
lemma stoll_printInt (i : Int64) : stoll (printInt i.toInt) = .ok i := by
  have fits : -2 ^ 63 ≤ i.toInt ∧ i.toInt < 2 ^ 63 := ⟨i.le_toInt, i.toInt_lt⟩
  have digits := Json.decimal_ne_nil i.toInt.natAbs
  rw [printInt]
  split
  · next negative =>
    have same : -((i.toInt.natAbs : Nat) : Int) = i.toInt := by omega
    have sign : takeSign ((45 :: decimal i.toInt.natAbs).dropWhile isSpace) =
        (true, decimal i.toInt.natAbs) := rfl
    simp only [stoll, sign, takeWhile_decimal, Json.value_decimal, same, if_true, if_neg digits,
      if_pos fits, Int64.ofInt_toInt]
  · next positive =>
    have same : ((i.toInt.natAbs : Nat) : Int) = i.toInt := by omega
    simp only [stoll, takeSign_decimal, takeWhile_decimal, Json.value_decimal, same,
      Bool.false_eq_true, if_false, if_neg digits, if_pos fits, Int64.ofInt_toInt]

/-- What `make_td_entity_type` makes of an entity that was converted: its type, if that is mapped. -/
lemma makeTdEntityType_convert (type : TdApi.TextEntityType) (offset length : Int32) :
    makeTdEntityType { type := convertEntityType type, offset, length, argument := entityArgument type } =
      .ok (if type = .other then none else some type) := by
  cases type with
  | mentionName userId =>
    have nonempty : printInt userId.toInt ≠ [] := by
      intro empty
      have read := stoll_printInt userId
      rw [empty] at read
      cases read
    simp only [makeTdEntityType, convertEntityType, entityArgument, if_neg nonempty, stoll_printInt]
    rfl
  | _ => rfl

namespace TdApi

/-- An entity that is there, of one of the types that the code maps. -/
def IsMapped (e : Option TextEntity) : Prop :=
  ∃ entity type, e = some entity ∧ entity.type = some type ∧ type ≠ .other

instance (e : Option TextEntity) : Decidable (IsMapped e) :=
  match e with
  | none => isFalse fun ⟨_, _, missing, _⟩ => by cases missing
  | some ⟨_, _, none⟩ => isFalse fun ⟨_, _, here, missing, _⟩ => by
    cases here
    cases missing
  | some ⟨offset, length, some type⟩ =>
    decidable_of_iff (type ≠ .other)
      ⟨fun mapped => ⟨_, type, rfl, rfl, mapped⟩, fun ⟨_, _, here, there, mapped⟩ => by
        cases here
        cases there
        exact mapped⟩

end TdApi

/-- The entities that come back are those with a mapped type, as they were. -/
lemma makeTdEntities_convert (entities : List (Option TdApi.TextEntity)) :
    makeTdEntities (convertEntities entities) = .ok (entities.filter (TdApi.IsMapped ·)) := by
  induction entities with
  | nil => rfl
  | cons e entities ih =>
    rcases e with _ | ⟨offset, length, _ | type⟩
    · exact ih
    · exact ih
    · have step : convertEntities (some { offset, length, type := some type } :: entities) =
          { type := convertEntityType type, offset, length, argument := entityArgument type } ::
            convertEntities entities := rfl
      rw [step, makeTdEntities, makeTdEntityType_convert, ih]
      by_cases other : type = .other
      · subst other
        rfl
      · have mapped : TdApi.IsMapped (some { offset, length, type := some type }) :=
          ⟨_, type, rfl, rfl, other⟩
        have kept : (some { offset, length, type := some type } :: entities).filter
            (TdApi.IsMapped ·) = some { offset, length, type := some type } ::
              entities.filter (TdApi.IsMapped ·) :=
          List.filter_cons_of_pos (decide_eq_true mapped)
        rw [if_neg other, kept]
        rfl

/-- A text that goes through the domain model comes back with its entities of mapped types. -/
lemma convertFormattedText_received (t : TdApi.FormattedText) :
    convertFormattedText (convertTdFormattedText t) =
      .ok { t with entities := t.entities.filter (TdApi.IsMapped ·) } := by
  rw [convertFormattedText, convertTdFormattedText, makeTdEntities_convert]
  rfl

/-- A text whose entities have mapped types comes back as it was. -/
theorem convertFormattedText_same (t : TdApi.FormattedText)
    (mapped : ∀ e ∈ t.entities, TdApi.IsMapped e) :
    convertFormattedText (convertTdFormattedText t) = .ok t := by
  rw [convertFormattedText_received, List.filter_eq_self.mpr fun e inside =>
    decide_eq_true (mapped e inside)]

/-- A text with a link, a listing and a mention of a user. -/
theorem convertFormattedText_same_three :
    convertFormattedText (convertTdFormattedText
      { text := [97, 98, 99]
        entities := [some { offset := 0, length := 1, type := some (.textUrl [104]) },
          some { offset := 1, length := 1, type := some (.preCode [99]) },
          some { offset := 1, length := 2, type := some (.mentionName (-7)) }] }) =
      .ok { text := [97, 98, 99]
            entities := [some { offset := 0, length := 1, type := some (.textUrl [104]) },
              some { offset := 1, length := 1, type := some (.preCode [99]) },
              some { offset := 1, length := 2, type := some (.mentionName (-7)) }] } :=
  convertFormattedText_same _ (by decide)

end CppGram.Backend
