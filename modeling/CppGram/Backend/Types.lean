import CppGram.Core.Machine

/-!
# Types

The types of C++ `types.hpp` that the backend's operations share. A `Timestamp` is the number of its
nanoseconds.
-/

namespace CppGram.Backend

/-- The id of a chat. -/
abbrev ChatId := Int64

/-- The id of a message in its chat. -/
abbrev MessageId := Int64

/-- A point of time. -/
abbrev Timestamp := Int64

/-- C++ `enum class AuthState`. -/
inductive AuthState where
  | None
  | WaitPhoneNumber
  | WaitCode
  | WaitPassword
  | WaitRegistration
  | Ready
  | LoggingOut
  | Closed
  deriving DecidableEq, Repr

/-- C++ `enum class ParseMode`. -/
inductive ParseMode where
  | None
  | Markdown
  | MarkdownV2
  | HTML
  deriving DecidableEq, Repr

/-- C++ `struct SendMessageOptions`. -/
structure SendMessageOptions where
  parseMode : ParseMode := .None
  scheduleDate : Option Timestamp := none
  messageThreadId : Option Int64 := none
  disableNotification : Bool := false
  fromBackground : Bool := false
  protectContent : Bool := false
  deriving DecidableEq, Repr

/-- C++ `struct InputFile`. -/
structure InputFile where
  path : Text
  deriving DecidableEq, Repr

end CppGram.Backend
