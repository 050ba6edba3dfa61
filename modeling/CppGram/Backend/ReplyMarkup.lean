import CppGram.Backend.Types
import CppGram.Lib.Json

/-!
# Reply markups

The keyboards of C++ `keyboard.hpp` and the two things that are made of them: the `td_api` object of
`build_reply_markup`, and the JSON text of `reply_markup_to_json`, with `escape_json_string`. The text is
that of a JSON value (`replyMarkupToJson_eq`).
-/

namespace CppGram.Backend
open Json

/-! ## Keyboards -/

/-- C++ `struct InlineKeyboardButton`. -/
structure InlineKeyboardButton where
  text : Text := []
  url : Text := []
  callbackData : Text := []
  switchInlineQuery : Text := []
  switchInlineQueryCurrentChat : Text := []
  deriving DecidableEq

/-- C++ `InlineKeyboardButton::callback`. -/
def InlineKeyboardButton.callback (label data : Text) : InlineKeyboardButton :=
  { text := label, callbackData := data }

/-- C++ `InlineKeyboardButton::link`. -/
def InlineKeyboardButton.link (label targetUrl : Text) : InlineKeyboardButton :=
  { text := label, url := targetUrl }

/-- C++ `InlineKeyboardButton::switchInline`. -/
def InlineKeyboardButton.switchInline (label query : Text) (currentChat : Bool := false) :
    InlineKeyboardButton :=
  if currentChat then { text := label, switchInlineQueryCurrentChat := query }
  else { text := label, switchInlineQuery := query }

/-- C++ `struct InlineKeyboard`. -/
structure InlineKeyboard where
  rows : List (List InlineKeyboardButton) := []
  deriving DecidableEq

/-- C++ `InlineKeyboard::addRow`. -/
def InlineKeyboard.addRow (k : InlineKeyboard) (row : List InlineKeyboardButton) : InlineKeyboard :=
  { rows := k.rows ++ [row] }

/-- C++ `struct ReplyKeyboardButton`. -/
structure ReplyKeyboardButton where
  text : Text := []
  requestContact : Bool := false
  requestLocation : Bool := false
  webAppUrl : Text := []
  deriving DecidableEq

/-- C++ `struct ReplyKeyboard`. -/
structure ReplyKeyboard where
  rows : List (List ReplyKeyboardButton) := []
  resizeKeyboard : Bool := true
  oneTimeKeyboard : Bool := false
  isPersistent : Bool := false
  inputFieldPlaceholder : Text := []
  deriving DecidableEq

/-- C++ `struct RemoveKeyboard`. -/
structure RemoveKeyboard where
  selective : Bool := false
  deriving DecidableEq

/-- C++ `struct ForceReply`. -/
structure ForceReply where
  selective : Bool := false
  inputFieldPlaceholder : Text := []
  deriving DecidableEq

/-- C++ `ReplyMarkup`. -/
inductive ReplyMarkup where
  | inlineKeyboard (k : InlineKeyboard)
  | replyKeyboard (k : ReplyKeyboard)
  | removeKeyboard (r : RemoveKeyboard)
  | forceReply (r : ForceReply)
  deriving DecidableEq

/-! ## TDLib objects -/

namespace TdApi

/-- What an inline button does. -/
inductive InlineKeyboardButtonType where
  | callback (data : Text)
  | url (url : Text)
  | switchInline (query : Text) (inCurrentChat : Bool)
  deriving DecidableEq

/-- `td_api::inlineKeyboardButton`; the type may be left null. -/
structure InlineKeyboardButton where
  text : Text
  type : Option InlineKeyboardButtonType
  deriving DecidableEq

/-- What a button of a reply keyboard asks for. -/
inductive KeyboardButtonType where
  | text
  | requestPhoneNumber
  | requestLocation
  deriving DecidableEq

/-- `td_api::keyboardButton`. -/
structure KeyboardButton where
  text : Text
  type : KeyboardButtonType
  deriving DecidableEq

/-- `td_api::ReplyMarkup`, with the fields that are set. -/
inductive ReplyMarkup where
  | inlineKeyboard (rows : List (List InlineKeyboardButton))
  | showKeyboard (rows : List (List KeyboardButton)) (resizeKeyboard oneTime : Bool)
      (inputFieldPlaceholder : Text)
  | removeKeyboard
  | forceReply (inputFieldPlaceholder : Text)
  deriving DecidableEq

end TdApi

/-- `build_reply_markup` on an inline button. -/
def buildInlineButton (btn : InlineKeyboardButton) : TdApi.InlineKeyboardButton where
  text := btn.text
  type :=
    if btn.callbackData ≠ [] then some (.callback btn.callbackData)
    else if btn.url ≠ [] then some (.url btn.url)
    else if btn.switchInlineQuery ≠ [] then some (.switchInline btn.switchInlineQuery false)
    else if btn.switchInlineQueryCurrentChat ≠ [] then
      some (.switchInline btn.switchInlineQueryCurrentChat true)
    else none

/-- `build_reply_markup` on a button of a reply keyboard. -/
def buildButton (btn : ReplyKeyboardButton) : TdApi.KeyboardButton where
  text := btn.text
  type :=
    if btn.requestContact then .requestPhoneNumber
    else if btn.requestLocation then .requestLocation
    else .text

/-- `build_reply_markup`. -/
def buildReplyMarkup : ReplyMarkup → TdApi.ReplyMarkup
  | .inlineKeyboard k => .inlineKeyboard (k.rows.map (·.map buildInlineButton))
  | .replyKeyboard k =>
    .showKeyboard (k.rows.map (·.map buildButton)) k.resizeKeyboard k.oneTimeKeyboard
      k.inputFieldPlaceholder
  | .removeKeyboard _ => .removeKeyboard
  | .forceReply r => .forceReply r.inputFieldPlaceholder

/-! ## JSON texts -/

/-- A digit of `%x`. -/
def hexDigit (n : UInt8) : UInt8 := if n < 10 then 48 + n else 87 + n

/-- What `escape_json_string` makes of a character. -/
def escapeJsonChar (c : UInt8) : Text :=
  if c = 34 then ascii "\\\""
  else if c = 92 then ascii "\\\\"
  else if c = 8 then ascii "\\b"
  else if c = 12 then ascii "\\f"
  else if c = 10 then ascii "\\n"
  else if c = 13 then ascii "\\r"
  else if c = 9 then ascii "\\t"
  else if c < 32 then ascii "\\u00" ++ [hexDigit (c / 16), hexDigit (c % 16)]
  else [c]

/-- `escape_json_string`. -/
def escapeJsonString (s : Text) : Text := s.flatMap escapeJsonChar

/-- `reply_markup_to_json` on a button. -/
def buttonToJson (btn : InlineKeyboardButton) : Text :=
  ascii "\x7b\"text\":\"" ++ escapeJsonString btn.text ++ ascii "\"" ++
    (if btn.callbackData ≠ [] then
      ascii ",\"callback_data\":\"" ++ escapeJsonString btn.callbackData ++ ascii "\""
    else if btn.url ≠ [] then ascii ",\"url\":\"" ++ escapeJsonString btn.url ++ ascii "\""
    else []) ++
    ascii "\x7d"

/-- `reply_markup_to_json`; the text is empty for a markup that is no inline keyboard. -/
def replyMarkupToJson : ReplyMarkup → Text
  | .inlineKeyboard k =>
    ascii "\x7b\"inline_keyboard\":[" ++
      separated (k.rows.map fun row => ascii "[" ++ separated (row.map buttonToJson) ++ ascii "]") ++
      ascii "]\x7d"
  | .replyKeyboard _ | .removeKeyboard _ | .forceReply _ => []

/-! ## The values of the texts -/

/-- A member of an object. -/
def member (key : String) (j : Json) : List UInt8 × Json := (ascii key, j)

/-- The value that `reply_markup_to_json` writes for a button. -/
def buttonValue (btn : InlineKeyboardButton) : Json :=
  .object (member "text" (.string btn.text) ::
    if btn.callbackData ≠ [] then [member "callback_data" (.string btn.callbackData)]
    else if btn.url ≠ [] then [member "url" (.string btn.url)]
    else [])

/-- The value that `reply_markup_to_json` writes, if any. -/
def replyMarkupValue : ReplyMarkup → Option Json
  | .inlineKeyboard k =>
    some (.object [member "inline_keyboard"
      (.array (k.rows.map fun row => .array (row.map buttonValue)))])
  | .replyKeyboard _ | .removeKeyboard _ | .forceReply _ => none

/-- The escape of a control character names it. -/
lemma unescapeHex_hexDigit {c : UInt8} (control : c < 32) :
    unescapeHex 48 48 (hexDigit (c / 16)) (hexDigit (c % 16)) = some c := by
  have all : ∀ n < 32, unescapeHex 48 48 (hexDigit (n.toUInt8 / 16)) (hexDigit (n.toUInt8 % 16)) =
      some n.toUInt8 := by decide
  have back : c.toNat.toUInt8 = c := UInt8.ofNat_toNat
  have this := all c.toNat (UInt8.lt_iff_toNat_lt.mp control)
  rwa [back] at this

/-- Most characters are written as they are. -/
lemma escapeJsonChar_plain {c : UInt8} (quote : c ≠ 34) (backslash : c ≠ 92)
    (printable : ¬ c < 32) : escapeJsonChar c = [c] := by
  have control {n : UInt8} (small : n < 32) : c ≠ n := by
    rintro rfl
    exact printable small
  rw [escapeJsonChar, if_neg quote, if_neg backslash, if_neg (control (by decide)),
    if_neg (control (by decide)), if_neg (control (by decide)), if_neg (control (by decide)),
    if_neg (control (by decide)), if_neg printable]

/-- A JSON reader gets back every character that `escape_json_string` writes. -/
lemma spells_escapeJsonChar : Spells escapeJsonChar := by
  intro c s
  rw [escapeJsonChar]
  split_ifs with quote backslash b f n r t control
  · exact quote ▸ readString_unescape rfl
  · exact backslash ▸ readString_unescape rfl
  · exact b ▸ readString_unescape rfl
  · exact f ▸ readString_unescape rfl
  · exact n ▸ readString_unescape rfl
  · exact r ▸ readString_unescape rfl
  · exact t ▸ readString_unescape rfl
  · exact readString_hex (unescapeHex_hexDigit control)
  · exact readString_plain quote backslash control

/-- The text of a flag that is set, behind another member. -/
lemma following_flag {key : String} {text : Text}
    (spelt : text = 44 :: (quoted escapeJsonChar (ascii key) ++ 58 :: ascii "true")) :
    text = following escapeJsonChar [member key (.bool true)] := by
  rw [spelt, member, following_singleton, print]

/-- The text of a button is that of its value. -/
lemma buttonToJson_eq (btn : InlineKeyboardButton) :
    buttonToJson btn = print escapeJsonChar (buttonValue btn) := by
  rw [buttonToJson, buttonValue, print, printMembers_eq]
  split_ifs
  all_goals
    simp only [member, List.map_cons, List.map_nil, print, separated, quoted, escapeJsonString,
      List.append_assoc, List.cons_append, List.nil_append]
    rfl

/-- The text of a reply markup is that of its value. -/
lemma replyMarkupToJson_eq (markup : ReplyMarkup) :
    replyMarkupToJson markup = ((replyMarkupValue markup).map (print escapeJsonChar)).getD [] := by
  cases markup with
  | inlineKeyboard k =>
    have row (row : List InlineKeyboardButton) :
        ascii "[" ++ separated (row.map buttonToJson) ++ ascii "]" =
          print escapeJsonChar (.array (row.map buttonValue)) := by
      rw [← print_array_map fun btn _ => buttonToJson_eq btn, List.append_assoc]
      rfl
    have rows : (k.rows.map fun row => ascii "[" ++ separated (row.map buttonToJson) ++ ascii "]") =
        (k.rows.map fun row => .array (row.map buttonValue)).map (print escapeJsonChar) := by
      rw [List.map_map]
      exact List.map_congr_left fun r _ => row r
    rw [replyMarkupToJson, rows]
    simp only [replyMarkupValue, Option.map_some, Option.getD_some, print, printMembers_eq,
      printItems_eq, member, List.map_cons, List.map_nil, separated, quoted, List.append_assoc,
      List.cons_append, List.nil_append]
    rfl
  | replyKeyboard _ | removeKeyboard _ | forceReply _ => rfl

end CppGram.Backend
