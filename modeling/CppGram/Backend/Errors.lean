import CppGram.Backend.Entities
import CppGram.Backend.Formatting
import CppGram.Lib.Find

/-!
# The errors of requests

`Error::from_rpc` and `Error::raise` (C++ `errors.hpp`): an error of TDLib is classified by its code and
by markers in its message, once when it is taken over, and once more when it is thrown, in a text that
`check_error` has made of the message by then. `checkError_raises` is that this text changes neither the
class (`classify`) nor the number behind the marker, unless the context has a marker of its own.
-/

namespace CppGram.Backend
open Json (ascii printInt isDigit value decimal)
open Find

/-! ## Exceptions -/

/-- C++ `enum class ErrorCode`. -/
inductive ErrorCode where
  | Unknown
  | Authentication
  | Network
  | FloodWait
  | Rpc
  | Storage
  | InvalidArgument
  | Timeout
  | SeeOther
  | BadRequest
  | Unauthorized
  | Forbidden
  | NotFound
  | NotAcceptable
  | Flood
  | InternalServer
  deriving DecidableEq, Repr

/-- The classes of exceptions, from C++ `class CppGramException` on. -/
inductive ExceptionType where
  | CppGramException
  | AuthenticationError
  | NetworkError
  | RPCError
  | SeeOtherError
  | PhoneMigrateError
  | FileMigrateError
  | UserMigrateError
  | BadRequestError
  | UnauthorizedError
  | ForbiddenError
  | NotFoundError
  | NotAcceptableError
  | FloodError
  | FloodWaitError
  | SlowmodeWaitError
  | InternalServerError
  | StorageError
  deriving DecidableEq, Repr

/-- An exception: its class, what `CppGramException` holds, and what the classes in between add: the code
    of an `RPCError`, the `dc` of a `MigrationError`, the seconds of the two that wait. -/
structure Exception where
  type : ExceptionType
  what : Text
  code : ErrorCode
  rpcCode : Option Int32 := none
  dc : Option Int32 := none
  seconds : Option Int32 := none
  deriving DecidableEq, Repr

namespace Exception

/-- `CppGramException(msg, code)`. -/
def cppGramException (msg : Text) (code : ErrorCode) : Exception :=
  { type := .CppGramException, what := msg, code }

/-- `AuthenticationError(m)`. -/
def authenticationError (m : Text) : Exception :=
  { cppGramException m .Authentication with type := .AuthenticationError }

/-- `NetworkError(m)`. -/
def networkError (m : Text) : Exception :=
  { cppGramException m .Network with type := .NetworkError }

/-- `StorageError(m)`. -/
def storageError (m : Text) : Exception :=
  { cppGramException m .Storage with type := .StorageError }

/-- `RPCError(rpc_code, m)`. -/
def rpcError (rpcCode : Int32) (m : Text) : Exception :=
  { cppGramException m .Rpc with type := .RPCError, rpcCode := some rpcCode }

/-- The classes that only pass on what an `RPCError` takes. -/
def rpcErrorOf (type : ExceptionType) (rpcCode : Int32) (m : Text) : Exception :=
  { rpcError rpcCode m with type }

/-- `SeeOtherError(rpc_code, m)`. -/
def seeOtherError : Int32 → Text → Exception := rpcErrorOf .SeeOtherError

/-- `MigrationError(303, dc, m)`, as the classes below it. -/
def migrationError (type : ExceptionType) (dc : Int32) (m : Text) : Exception :=
  { seeOtherError 303 m with type, dc := some dc }

/-- `PhoneMigrateError(dc, m)`. -/
def phoneMigrateError : Int32 → Text → Exception := migrationError .PhoneMigrateError

/-- `FileMigrateError(dc, m)`. -/
def fileMigrateError : Int32 → Text → Exception := migrationError .FileMigrateError

/-- `UserMigrateError(dc, m)`. -/
def userMigrateError : Int32 → Text → Exception := migrationError .UserMigrateError

/-- `BadRequestError(rpc_code, m)`. -/
def badRequestError : Int32 → Text → Exception := rpcErrorOf .BadRequestError

/-- `UnauthorizedError(rpc_code, m)`. -/
def unauthorizedError : Int32 → Text → Exception := rpcErrorOf .UnauthorizedError

/-- `ForbiddenError(rpc_code, m)`. -/
def forbiddenError : Int32 → Text → Exception := rpcErrorOf .ForbiddenError

/-- `NotFoundError(rpc_code, m)`. -/
def notFoundError : Int32 → Text → Exception := rpcErrorOf .NotFoundError

/-- `NotAcceptableError(rpc_code, m)`. -/
def notAcceptableError : Int32 → Text → Exception := rpcErrorOf .NotAcceptableError

/-- `FloodError(rpc_code, m)`. -/
def floodError : Int32 → Text → Exception := rpcErrorOf .FloodError

/-- `FloodWaitError(seconds, m)`. -/
def floodWaitError (seconds : Int32) (m : Text) : Exception :=
  { floodError 420 m with type := .FloodWaitError, seconds := some seconds }

/-- `SlowmodeWaitError(seconds, m)`. -/
def slowmodeWaitError (seconds : Int32) (m : Text) : Exception :=
  { floodError 420 m with type := .SlowmodeWaitError, seconds := some seconds }

/-- `InternalServerError(rpc_code, m)`. -/
def internalServerError : Int32 → Text → Exception := rpcErrorOf .InternalServerError

end Exception

/-! ## Errors -/

/-- `std::stoi`: as `std::stoll`, in the range of an `int`. -/
def stoi (str : Text) : Except StollFault Int32 :=
  let signed := takeSign (str.dropWhile isSpace)
  let digits := signed.2.takeWhile isDigit
  let n : Int := if signed.1 then -value digits else value digits
  if digits = [] then .error .invalidArgument
  else if -2 ^ 31 ≤ n ∧ n < 2 ^ 31 then .ok (Int32.ofInt n)
  else .error .outOfRange

/-- `try { number = std::stoi(str); } catch (...) {}`, where `number` is 0 before. -/
def tryStoi (str : Text) : Int32 :=
  match stoi str with
  | .ok n => n
  | .error _ => 0

/-- C++ `struct Error`. -/
structure Error where
  code : ErrorCode := .Unknown
  message : Text := []
  rpcCode : Int32 := 0
  retryAfter : Int32 := 0
  migrateToDc : Int32 := 0
  deriving DecidableEq, Repr

namespace Error

/-- `Error::from_rpc`. -/
def fromRpc (rpcCode : Int32) (message : Text) : Error :=
  let err : Error := { rpcCode, message }
  if rpcCode = 303 then
    let err := { err with code := .SeeOther }
    match find message (ascii "PHONE_MIGRATE_") with
    | some pos => { err with migrateToDc := tryStoi (message.drop (pos + 14)) }
    | none =>
      match find message (ascii "FILE_MIGRATE_") with
      | some pos => { err with migrateToDc := tryStoi (message.drop (pos + 13)) }
      | none =>
        match find message (ascii "USER_MIGRATE_") with
        | some pos => { err with migrateToDc := tryStoi (message.drop (pos + 13)) }
        | none => err
  else if rpcCode = 400 then { err with code := .BadRequest }
  else if rpcCode = 401 then { err with code := .Unauthorized }
  else if rpcCode = 403 then { err with code := .Forbidden }
  else if rpcCode = 404 then { err with code := .NotFound }
  else if rpcCode = 406 then { err with code := .NotAcceptable }
  else if rpcCode = 420 then
    match find message (ascii "FLOOD_WAIT_") with
    | some pos => { err with code := .FloodWait, retryAfter := tryStoi (message.drop (pos + 11)) }
    | none =>
      match find message (ascii "SLOWMODE_WAIT_") with
      | some pos => { err with code := .Flood, retryAfter := tryStoi (message.drop (pos + 14)) }
      | none => { err with code := .Flood }
  else if rpcCode = 500 then { err with code := .InternalServer }
  else { err with code := .Rpc }

/-- `Error::raise`. -/
def raise (err : Error) : Exception :=
  match err.code with
  | .Authentication => .authenticationError err.message
  | .Network => .networkError err.message
  | .FloodWait => .floodWaitError err.retryAfter err.message
  | .Storage => .storageError err.message
  | .SeeOther =>
    if (find err.message (ascii "PHONE_MIGRATE_")).isSome then
      .phoneMigrateError err.migrateToDc err.message
    else if (find err.message (ascii "FILE_MIGRATE_")).isSome then
      .fileMigrateError err.migrateToDc err.message
    else if (find err.message (ascii "USER_MIGRATE_")).isSome then
      .userMigrateError err.migrateToDc err.message
    else .seeOtherError err.rpcCode err.message
  | .BadRequest => .badRequestError err.rpcCode err.message
  | .Unauthorized => .unauthorizedError err.rpcCode err.message
  | .Forbidden => .forbiddenError err.rpcCode err.message
  | .NotFound => .notFoundError err.rpcCode err.message
  | .NotAcceptable => .notAcceptableError err.rpcCode err.message
  | .Flood =>
    if (find err.message (ascii "SLOWMODE_WAIT_")).isSome then
      .slowmodeWaitError err.retryAfter err.message
    else .floodError err.rpcCode err.message
  | .InternalServer => .internalServerError err.rpcCode err.message
  | .Rpc => .rpcError err.rpcCode err.message
  | .Unknown | .InvalidArgument | .Timeout => .cppGramException err.message err.code

end Error

/-- The exception that a query throws. -/
def QueryFault.raised : QueryFault → Exception
  | .rpc rpcCode message text => { Error.fromRpc rpcCode message with message := text }.raise
  | .cppGramException what => .cppGramException what .Unknown

/-! ## Classes -/

/-- The markers of an error 303, in the order in which they are looked for. -/
def migrations : List (Text × ExceptionType) :=
  [(ascii "PHONE_MIGRATE_", .PhoneMigrateError), (ascii "FILE_MIGRATE_", .FileMigrateError),
    (ascii "USER_MIGRATE_", .UserMigrateError)]

/-- Those of an error 420. -/
def waits : List (Text × ExceptionType) :=
  [(ascii "FLOOD_WAIT_", .FloodWaitError), (ascii "SLOWMODE_WAIT_", .SlowmodeWaitError)]

/-- The first of some markers that stands in a message. -/
def selected (markers : List (Text × ExceptionType)) (message : Text) : Option (Text × ExceptionType) :=
  markers.find? fun marker => decide (marker.1 <:+: message)

/-- The class of an error. -/
def classify (rpcCode : Int32) (message : Text) : ExceptionType :=
  if rpcCode = 303 then ((selected migrations message).map Prod.snd).getD .SeeOtherError
  else if rpcCode = 400 then .BadRequestError
  else if rpcCode = 401 then .UnauthorizedError
  else if rpcCode = 403 then .ForbiddenError
  else if rpcCode = 404 then .NotFoundError
  else if rpcCode = 406 then .NotAcceptableError
  else if rpcCode = 420 then ((selected waits message).map Prod.snd).getD .FloodError
  else if rpcCode = 500 then .InternalServerError
  else .RPCError

/-- The digits of a number, and no more digits, are behind the first place of a marker. -/
def NumberBehind (marker message : Text) (n : Nat) : Prop :=
  ∃ before digits after, message = before ++ (marker ++ (digits ++ after)) ∧
    (∀ i < before.length, ¬ marker <+: message.drop i) ∧
    digits ≠ [] ∧ (∀ c ∈ digits, isDigit c = true) ∧ value digits = n ∧
    ∀ c, after.head? = some c → isDigit c = false

/-! ## Numbers -/

/-- Digits with something else behind them are read as their number. -/
lemma stoi_digits {digits after : Text} {n : Nat} (nonempty : digits ≠ [])
    (all : ∀ c ∈ digits, isDigit c = true) (value_eq : value digits = n)
    (stop : ∀ c, after.head? = some c → isDigit c = false) (fits : n < 2 ^ 31) :
    stoi (digits ++ after) = .ok (Int32.ofInt n) := by
  obtain ⟨c, rest, rfl⟩ := List.exists_cons_of_ne_nil nonempty
  obtain ⟨plain, minus, plus⟩ := digit_plain (all c List.mem_cons_self)
  have sign : takeSign ((c :: rest ++ after).dropWhile isSpace) = (false, c :: rest ++ after) := by
    rw [List.cons_append, List.dropWhile_cons_of_neg (plain ▸ Bool.false_ne_true), takeSign,
      List.head?_cons, if_neg fun same => minus (Option.some.inj same),
      if_neg fun same => plus (Option.some.inj same)]
  have behind : after.takeWhile isDigit = [] := by
    cases after with
    | nil => rfl
    | cons d after => exact List.takeWhile_cons_of_neg (stop d rfl ▸ Bool.false_ne_true)
  have digits : (c :: rest ++ after).takeWhile isDigit = c :: rest := by
    rw [List.takeWhile_append_of_pos all, behind, List.append_nil]
  have range : -2 ^ 31 ≤ (n : Int) ∧ (n : Int) < 2 ^ 31 := by omega
  simp only [stoi, sign, digits, value_eq, Bool.false_eq_true, if_false, if_neg nonempty,
    if_pos range]

/-- The number behind a marker is that which is read behind its first place. -/
lemma NumberBehind.read {marker message : Text} {n : Nat} (number : NumberBehind marker message n)
    (fits : n < 2 ^ 31) : ∃ pos, find message marker = some pos ∧
      (tryStoi (message.drop (pos + marker.length))).toInt = n := by
  obtain ⟨before, digits, after, rfl, first, nonempty, all, value_eq, stop⟩ := number
  refine ⟨before.length, find_append first, ?_⟩
  rw [← List.drop_drop, List.drop_left, List.drop_left, tryStoi,
    stoi_digits nonempty all value_eq stop fits]
  exact Int32.toInt_ofInt_of_le (by omega) (by omega)

/-! ## The text of an exception -/

/-- What `check_error` makes of a message. -/
def errorText (context : Text) (rpcCode : Int32) (message : Text) : Text :=
  context ++ ascii ": " ++ message ++ ascii " (code " ++ printInt rpcCode.toInt ++ ascii ")"

/-- A word with an underscore, and with no colon and no blank in it. -/
def Word (marker : Text) : Prop := 58 ∉ marker ∧ 32 ∉ marker ∧ 95 ∈ marker

/-- There is no underscore in the code. -/
lemma code_plain (rpcCode : Int32) : 95 ∉ ascii "(code " ++ (printInt rpcCode.toInt ++ ascii ")") := by
  have number : 95 ∉ printInt rpcCode.toInt := by
    have digits (n : Nat) : 95 ∉ decimal n := by
      intro inside
      have digit := Json.decimal_digits n 95 inside
      cases digit
    rw [printInt]
    split
    · exact List.not_mem_cons_of_ne_of_not_mem (by decide) (digits _)
    · exact digits _
  rw [List.mem_append, List.mem_append]
  rintro (inside | inside | inside)
  · revert inside
    decide
  · exact number inside
  · revert inside
    decide

/-- A marker stands in the text of an exception where it stands in the context or in the message. -/
lemma infix_errorText {marker : Text} (word : Word marker) (context : Text) (rpcCode : Int32)
    (message : Text) :
    marker <:+: errorText context rpcCode message ↔ marker <:+: context ∨ marker <:+: message := by
  obtain ⟨colon, blank, underscore⟩ := word
  have shape : errorText context rpcCode message = context ++ 58 :: ([] ++ 32 :: (message ++ 32 ::
      (ascii "(code " ++ (printInt rpcCode.toInt ++ ascii ")")))) := by
    have colon : ascii ": " = [58, 32] := by decide
    have code : ascii " (code " = 32 :: ascii "(code " := by decide
    rw [errorText, colon, code]
    simp only [List.append_assoc, List.cons_append, List.nil_append]
  have nothing : ¬ marker <:+: [] := by
    intro inside
    cases List.eq_nil_of_infix_nil inside
    cases underscore
  have code : ¬ marker <:+: ascii "(code " ++ (printInt rpcCode.toInt ++ ascii ")") :=
    fun inside => code_plain rpcCode (inside.subset underscore)
  rw [shape, infix_append_iff colon, infix_append_iff blank, infix_append_iff blank]
  tauto

/-- A marker that the context does not have is found in the text where it is found in the message. -/
lemma find_errorText {marker context : Text} (word : Word marker) (clean : ¬ marker <:+: context)
    (rpcCode : Int32) (message : Text) :
    (find (errorText context rpcCode message) marker).isSome = (find message marker).isSome := by
  rw [Bool.eq_iff_iff, isSome_find, isSome_find, infix_errorText word]
  tauto

lemma markers_words : ∀ row ∈ migrations ++ waits, Word row.1 := by
  simp only [Word]
  decide

/-- The markers are tried in order, and the first that is found is selected. -/
lemma selected_eq (markers : List (Text × ExceptionType)) (message : Text) :
    selected markers message = markers.find? fun marker => (find message marker.1).isSome := by
  rw [selected]
  congr 1
  funext marker
  rw [Bool.eq_iff_iff, decide_eq_true_iff, isSome_find]

section

variable {context : Text} (clean : ∀ row ∈ migrations ++ waits, ¬ row.1 <:+: context)
  (rpcCode : Int32) (message : Text)

include clean

/-- All markers are found in the text where they are found in the message. -/
lemma find_marker {row : Text × ExceptionType} (inside : row ∈ migrations ++ waits) :
    (find (errorText context rpcCode message) row.1).isSome = (find message row.1).isSome :=
  find_errorText (markers_words row inside) (clean row inside) rpcCode message

/-- An error 303 is thrown as the class of the first marker in its message. -/
lemma raised_migration : (QueryFault.rpc 303 message (errorText context rpcCode message)).raised =
    ((selected migrations message).elim
      (.seeOtherError 303 (errorText context rpcCode message)) fun marker =>
        .migrationError marker.2
          (tryStoi (message.drop ((find message marker.1).getD 0 + marker.1.length)))
          (errorText context rpcCode message)) := by
  have phone := find_marker clean rpcCode message
    (by decide : (ascii "PHONE_MIGRATE_", ExceptionType.PhoneMigrateError) ∈ migrations ++ waits)
  have file := find_marker clean rpcCode message
    (by decide : (ascii "FILE_MIGRATE_", ExceptionType.FileMigrateError) ∈ migrations ++ waits)
  have user := find_marker clean rpcCode message
    (by decide : (ascii "USER_MIGRATE_", ExceptionType.UserMigrateError) ∈ migrations ++ waits)
  generalize errorText context rpcCode message = text at phone file user ⊢
  rw [selected_eq, migrations, QueryFault.raised, Error.fromRpc, if_pos rfl]
  simp only at phone file user
  cases hp : find message (ascii "PHONE_MIGRATE_") with
  | some pos =>
    simp only [List.find?_cons, Error.raise, phone, hp, Option.isSome_some, if_true]
    rw [Option.elim_some, hp]
    rfl
  | none =>
    cases hf : find message (ascii "FILE_MIGRATE_") with
    | some pos =>
      simp only [List.find?_cons, Error.raise, phone, file, hp, hf, Option.isSome_some,
        Option.isSome_none, Bool.false_eq_true, if_true, if_false]
      rw [Option.elim_some, hf]
      rfl
    | none =>
      cases hu : find message (ascii "USER_MIGRATE_") with
      | some pos =>
        simp only [List.find?_cons, Error.raise, phone, file, user, hp, hf, hu, Option.isSome_some,
          Option.isSome_none, Bool.false_eq_true, if_true, if_false]
        rw [Option.elim_some, hu]
        rfl
      | none =>
        simp only [List.find?_cons, Error.raise, phone, file, user, hp, hf, hu,
          Option.isSome_none, Bool.false_eq_true, if_false]
        rfl

/-- An error 420 is thrown as the class of the first marker in its message. -/
lemma raised_wait : (QueryFault.rpc 420 message (errorText context rpcCode message)).raised =
    ((selected waits message).elim
      (.floodError 420 (errorText context rpcCode message)) fun marker =>
        { Exception.floodError 420 (errorText context rpcCode message) with
          type := marker.2
          seconds :=
            some (tryStoi (message.drop ((find message marker.1).getD 0 + marker.1.length))) }) := by
  have slow := find_marker clean rpcCode message
    (by decide : (ascii "SLOWMODE_WAIT_", ExceptionType.SlowmodeWaitError) ∈ migrations ++ waits)
  generalize errorText context rpcCode message = text at slow ⊢
  rw [selected_eq, waits, QueryFault.raised, Error.fromRpc, if_neg (by decide), if_neg (by decide),
    if_neg (by decide), if_neg (by decide), if_neg (by decide), if_neg (by decide), if_pos rfl]
  simp only at slow
  cases hf : find message (ascii "FLOOD_WAIT_") with
  | some pos =>
    simp only [List.find?_cons, Error.raise, hf, Option.isSome_some]
    rw [Option.elim_some, hf]
    rfl
  | none =>
    cases hs : find message (ascii "SLOWMODE_WAIT_") with
    | some pos =>
      simp only [List.find?_cons, Error.raise, slow, hf, hs, Option.isSome_some, Option.isSome_none,
        if_true]
      rw [Option.elim_some, hs]
      rfl
    | none =>
      simp only [List.find?_cons, Error.raise, slow, hf, hs, Option.isSome_none,
        Bool.false_eq_true, if_false]
      rfl

/-- The class of an exception is that of its error. -/
lemma raised_type : (QueryFault.rpc rpcCode message (errorText context rpcCode message)).raised.type =
    classify rpcCode message := by
  rw [classify]
  split_ifs with see bad unauthorized forbidden missing unacceptable flood internal
  · subst see
    rw [raised_migration clean]
    cases selected migrations message with
    | none => rfl
    | some marker => rfl
  · subst bad; rfl
  · subst unauthorized; rfl
  · subst forbidden; rfl
  · subst missing; rfl
  · subst unacceptable; rfl
  · subst flood
    rw [raised_wait clean]
    cases selected waits message with
    | none => rfl
    | some marker => rfl
  · subst internal; rfl
  · rw [QueryFault.raised, Error.fromRpc, if_neg see, if_neg bad, if_neg unauthorized,
      if_neg forbidden, if_neg missing, if_neg unacceptable, if_neg flood, if_neg internal]
    rfl

end

/-- In a context without markers the class of the exception that `check_error` throws depends on the code
    and the message only; and the number behind the first place of the marker that is selected, if it is
    below `2 ^ 31`, is the data centre of a migration, or the seconds of a wait. -/
theorem checkError_raises {context : Text}
    (clean : ∀ row ∈ migrations ++ waits, ¬ row.1 <:+: context) (rpcCode : Int32) (message : Text) :
    ∃ fault, checkError (some (.error rpcCode message)) context = .error fault ∧
      fault.raised.type = classify rpcCode message ∧
      (rpcCode = 303 → ∀ marker type, selected migrations message = some (marker, type) →
        fault.raised.type = type ∧
        ∀ n < 2 ^ 31, NumberBehind marker message n → fault.raised.dc.map Int32.toInt = some (n : Int)) ∧
      (rpcCode = 420 → ∀ marker type, selected waits message = some (marker, type) →
        fault.raised.type = type ∧
        ∀ n < 2 ^ 31, NumberBehind marker message n →
          fault.raised.seconds.map Int32.toInt = some (n : Int)) := by
  refine ⟨.rpc rpcCode message (errorText context rpcCode message), rfl,
    raised_type clean rpcCode message, ?_, ?_⟩
  · rintro rfl marker type first
    rw [raised_migration clean, first]
    refine ⟨rfl, fun n fits number => ?_⟩
    obtain ⟨pos, found, read⟩ := number.read fits
    simp only [Option.elim_some, found, Option.getD_some]
    exact congrArg some read
  · rintro rfl marker type first
    rw [raised_wait clean, first]
    refine ⟨rfl, fun n fits number => ?_⟩
    obtain ⟨pos, found, read⟩ := number.read fits
    simp only [Option.elim_some, found, Option.getD_some]
    exact congrArg some read

/-- A wait of fifteen seconds. -/
theorem checkError_raises_floodWait :
    ∃ fault, checkError (some (.error 420 (ascii "FLOOD_WAIT_15"))) (ascii "sendMessage") =
      .error fault ∧ fault.raised.type = .FloodWaitError ∧
      fault.raised.seconds.map Int32.toInt = some 15 := by
  obtain ⟨fault, thrown, -, -, waits⟩ :=
    @checkError_raises (ascii "sendMessage") (by decide) 420 (ascii "FLOOD_WAIT_15")
  obtain ⟨type, number⟩ := waits rfl (ascii "FLOOD_WAIT_") .FloodWaitError (by decide)
  refine ⟨fault, thrown, type, number 15 (by decide) ?_⟩
  have value : value (ascii "15") = 15 := by decide +kernel
  refine ⟨[], ascii "15", [], by decide +kernel, ?_, by decide +kernel, by decide +kernel, value, ?_⟩
  · exact fun i before => absurd before (Nat.not_lt_zero i)
  · exact fun c last => by cases last

end CppGram.Backend
