import CppGram.Backend.Isolation
import CppGram.Backend.Messages

/-!
# Filters

The filters of messages (C++ `filters.hpp`, `filters.cpp`): a filter is a function of the user, which may
throw; those of the library look at a field of the message or search its text; `&&`, `||` and `!` make
filters of filters, and evaluate no more of them than they need. A `Formula` is how a filter was made.
`routed` says which handlers a message comes to.
-/

namespace CppGram.Backend
open Json

/-- C++ `class MessageFilter`. -/
abbrev MessageFilter := Message → Except Thrown Bool

namespace MessageFilter

/-- `operator&&`. -/
def and (a b : MessageFilter) : MessageFilter := fun m => do
  if ← a m then b m else return false

/-- `operator||`. -/
def or (a b : MessageFilter) : MessageFilter := fun m => do
  if ← a m then return true else b m

/-- `operator!`. -/
def not (f : MessageFilter) : MessageFilter := fun m => do return !(← f m)

end MessageFilter

/-- `std::string::find_first_of`. -/
def findFirstOf (s set : Text) (pos : Nat) : Option Nat :=
  ((s.drop pos).findIdx? (set.contains ·)).map (· + pos)

/-- `std::string::substr`. -/
def substr (s : Text) (pos : Nat) (count : Option Nat) : Except Thrown Text :=
  if s.length < pos then .error (.stdException "basic_string::substr")
  else
    match count with
    | some n => .ok ((s.drop pos).take n)
    | none => .ok (s.drop pos)

namespace Filters

/-- A filter that looks at a field. -/
def field (p : Message → Bool) : MessageFilter := fun m => .ok (p m)

/-- `Filters::command`. -/
def command (cmd : Text) : MessageFilter := fun m =>
  match m.text with
  | 47 :: _ => do
    let found ← substr m.text 1 ((findFirstOf m.text (ascii " @") 1).map (· - 1))
    return found == cmd
  | _ => return false

/-- `Filters::privateChat`. -/
def privateChat := field fun m => m.chatType = .Private

/-- `Filters::group`. -/
def group := field fun m => m.chatType = .BasicGroup || m.chatType = .Supergroup

/-- `Filters::channel`. -/
def channel := field fun m => m.chatType = .Channel

/-- `Filters::text`. -/
def text := field fun m => !m.text.isEmpty

/-- `Filters::media`. -/
def media := field fun m => m.media ≠ .None

/-- The filters for one type of media. -/
def mediaType (type : MediaType) := field fun m => m.media = type

/-- `Filters::photo`. -/
def photo := mediaType .Photo

/-- `Filters::video`. -/
def video := mediaType .Video

/-- `Filters::document`. -/
def document := mediaType .Document

/-- `Filters::audio`. -/
def audio := mediaType .Audio

/-- `Filters::voice`. -/
def voice := mediaType .Voice

/-- `Filters::videoNote`. -/
def videoNote := mediaType .VideoNote

/-- `Filters::animation`. -/
def animation := mediaType .Animation

/-- `Filters::sticker`. -/
def sticker := mediaType .Sticker

/-- `Filters::pollMsg`. -/
def pollMsg := mediaType .Poll

/-- `Filters::locationMsg`. -/
def locationMsg := mediaType .Location

/-- `Filters::contactMsg`. -/
def contactMsg := mediaType .Contact

/-- `Filters::dice`. -/
def dice := mediaType .Dice

/-- `Filters::bot`. -/
def bot := field fun m => m.sender.isBot

/-- `Filters::outgoing`. -/
def outgoing := field fun m => m.outgoing

/-- `Filters::incoming`. -/
def incoming := field fun m => !m.outgoing

/-- `Filters::reply`. -/
def reply := field fun m => m.replyTo.isSome

/-- `Filters::forwarded`. -/
def forwarded := field fun m => m.forwardInfo.isSome

/-- `Filters::regex`, with what `std::regex_search` does for the pattern. -/
def regex (search : Text → Except Thrown Bool) : MessageFilter := fun m => search m.text

/-- `Filters::chatId`. -/
def chatId (id : ChatId) := field fun m => m.chatId = id

/-- `Filters::userId`. -/
def userId (id : UserId) := field fun m => m.sender.id = id

/-- `Filters::thread`. -/
def thread (threadId : Int64) := field fun m => m.messageThreadId = some threadId

/-- `Filters::in_thread`. -/
def inThread := field fun m => m.messageThreadId.any (· ≠ 0)

end Filters

/-! ## Commands -/

/-- What ends a command. -/
def endsCommand (c : UInt8) : Bool := c = 32 || c = 64

/-- The command of a text: what is behind a `/`, up to a blank or an `@`. -/
def commandOf : Text → Option Text
  | 47 :: rest => some (rest.takeWhile (!endsCommand ·))
  | _ => none

/-- The part before the first character of a kind is all that has none. -/
lemma take_findIdx? (p : UInt8 → Bool) (s : Text) :
    (match s.findIdx? p with | some n => s.take n | none => s) = s.takeWhile (!p ·) := by
  induction s with
  | nil => rfl
  | cons c s ih =>
    rw [List.findIdx?_cons, List.takeWhile_cons]
    cases ends : p c with
    | true => rfl
    | false =>
      simp only [Bool.false_eq_true, if_false, Bool.not_false, if_true, ← ih]
      cases s.findIdx? p with
      | none => rfl
      | some n => rfl

/-- The filter for a command compares the command of the text. -/
lemma command_ok (cmd : Text) (m : Message) :
    Filters.command cmd m = .ok (decide (commandOf m.text = some cmd)) := by
  rw [Filters.command]
  split
  · next rest given =>
    have set (c : UInt8) : (ascii " @").contains c = endsCommand c := by
      have two : ascii " @" = [32, 64] := by decide +kernel
      rw [two, endsCommand, List.contains_cons, List.contains_cons, List.contains_nil, Bool.or_false]
      rfl
    have found : substr (47 :: rest) 1 ((findFirstOf (47 :: rest) (ascii " @") 1).map (· - 1)) =
        .ok (rest.takeWhile (!endsCommand ·)) := by
      have inside : ¬ (47 :: rest).length < 1 := by
        rw [List.length_cons]
        omega
      simp only [findFirstOf, funext set, List.drop_one, List.tail_cons, Option.map_map, substr,
        if_neg inside, ← take_findIdx?]
      cases rest.findIdx? endsCommand with
      | none => rfl
      | some n => rfl
    rw [given, found, commandOf]
    refine congrArg Except.ok ?_
    simp only [Option.some.injEq]
    exact Bool.beq_eq_decide_eq _ _
  · next other =>
    refine congrArg Except.ok (decide_eq_false ?_).symm
    rw [commandOf]
    · nofun
    · exact other

/-- A text is a command exactly if it is one of the forms that Telegram gives them. -/
lemma commandOf_eq_some_iff {text cmd : Text} :
    commandOf text = some cmd ↔
      ∃ rest, text = 47 :: (cmd ++ rest) ∧ (∀ c ∈ cmd, endsCommand c = false) ∧
        ∀ c ∈ rest.head?, endsCommand c = true := by
  constructor
  · intro given
    unfold commandOf at given
    split at given
    · next rest =>
      cases given
      refine ⟨rest.dropWhile (!endsCommand ·), ?_, fun c inside => ?_, fun c first => ?_⟩
      · rw [List.takeWhile_append_dropWhile]
      · have passed := List.mem_takeWhile_imp inside
        simpa only [Bool.not_eq_true'] using passed
      · have ends := List.head?_dropWhile_not (!endsCommand ·) rest
        rw [Option.mem_def.mp first] at ends
        simpa only [Bool.not_eq_false'] using ends
    · cases given
  · rintro ⟨rest, rfl, inside, ends⟩
    rw [commandOf, List.takeWhile_append_of_pos fun c there => by rw [inside c there]; rfl]
    cases rest with
    | nil => rw [List.takeWhile_nil, List.append_nil]
    | cons c rest =>
      have stop : (!endsCommand c) = false := by rw [ends c rfl]; rfl
      rw [List.takeWhile_cons, stop]
      exact congrArg some (List.append_nil _)

/-! ## Formulas -/

/-- How a filter was made. -/
inductive Formula where
  | command (cmd : Text)
  /-- One of the filters that look at a field. -/
  | field (p : Message → Bool)
  /-- `Filters::regex`, or a function of the user. -/
  | function (f : MessageFilter)
  | and (a b : Formula)
  | or (a b : Formula)
  | not (a : Formula)

namespace Formula

/-- The filter. -/
def filter : Formula → MessageFilter
  | command cmd => Filters.command cmd
  | field p => Filters.field p
  | function f => f
  | and a b => a.filter.and b.filter
  | or a b => a.filter.or b.filter
  | not a => a.filter.not

/-- Whether a message is meant, if `truth` is what the functions say of it. -/
def Means (truth : MessageFilter → Bool) (m : Message) : Formula → Bool
  | command cmd => commandOf m.text = some cmd
  | field p => p m
  | function f => truth f
  | and a b => a.Means truth m && b.Means truth m
  | or a b => a.Means truth m || b.Means truth m
  | not a => !a.Means truth m

/-- `truth` says of a message what the functions say that do not throw. -/
def Consistent (truth : MessageFilter → Bool) (m : Message) : Prop :=
  ∀ f b, f m = .ok b → truth f = b

/-- A filter that does not throw says of a message whether it is meant, whatever the functions would say
    that it has not called. -/
lemma filter_sound {truth : MessageFilter → Bool} {m : Message} (consistent : Consistent truth m)
    {e : Formula} {b : Bool} (gives : e.filter m = .ok b) : e.Means truth m = b := by
  induction e generalizing b with
  | command cmd =>
    rw [filter, command_ok] at gives
    exact Except.ok.inj gives
  | field p => exact Except.ok.inj gives
  | function f => exact consistent f b gives
  | and a c iha ihc =>
    rw [filter, MessageFilter.and] at gives
    cases first : a.filter m with
    | error thrown =>
      rw [first] at gives
      cases gives
    | ok x =>
      rw [first] at gives
      cases x with
      | false =>
        cases gives
        rw [Means, iha first, Bool.false_and]
      | true => rw [Means, iha first, Bool.true_and, ihc gives]
  | or a c iha ihc =>
    rw [filter, MessageFilter.or] at gives
    cases first : a.filter m with
    | error thrown =>
      rw [first] at gives
      cases gives
    | ok x =>
      rw [first] at gives
      cases x with
      | true =>
        cases gives
        rw [Means, iha first, Bool.true_or]
      | false => rw [Means, iha first, Bool.false_or, ihc gives]
  | not a ih =>
    rw [filter, MessageFilter.not] at gives
    cases first : a.filter m with
    | error thrown =>
      rw [first] at gives
      cases gives
    | ok x =>
      rw [first] at gives
      cases gives
      rw [Means, ih first]

end Formula

/-! ## Which handlers a message comes to -/

/-- A handler as it was registered. -/
structure Registered where
  filter : Formula
  callback : Message → Except Thrown Unit

/-- `onMessage`. -/
def Registered.message (r : Registered) : MessageHandler Message :=
  { filter := r.filter.filter, callback := r.callback }

/-- `onEditedMessage`. -/
def Registered.edited (r : Registered) : EditedMessageHandler Message :=
  { filter := r.filter.filter, callback := r.callback }

/-- Nothing that is called for a message throws what the dispatch functions do not catch. -/
def Registered.Quiet (msg : Message) (r : Registered) : Prop :=
  (∃ b, r.filter.filter msg = .ok b) ∧ r.callback msg ≠ .error .other

variable {κ : Type} {c : ClientImpl Message κ} {registered : List Registered} {msg : Message}
  {truth : MessageFilter → Bool}

/-- Quiet handlers are tame, and those that accept a message are those that it is meant for. -/
lemma registered_quiet {η : Type} (make : Registered → η) (filter : η → Except Thrown Bool)
    (callback : η → Except Thrown Unit) (quiet : ∀ r ∈ registered, r.Quiet msg)
    (consistent : Formula.Consistent truth msg)
    (filters : ∀ r, filter (make r) = r.filter.filter msg)
    (calls : ∀ r, callback (make r) = r.callback msg) :
    (∀ h ∈ registered.map make, Tame filter callback h) ∧
      (registered.map make).filter (Accepts filter) =
        (registered.filter (·.filter.Means truth msg)).map make := by
  have each (r) (inside : r ∈ registered) : Accepts filter (make r) = r.filter.Means truth msg ∧
      Tame filter callback (make r) := by
    obtain ⟨⟨b, gives⟩, catches⟩ := quiet r inside
    have means := Formula.filter_sound consistent gives
    rw [Accepts, Tame, filters, gives]
    refine ⟨means.symm, ?_⟩
    cases b with
    | false => trivial
    | true => exact calls r ▸ catches
  refine ⟨fun h there => ?_, ?_⟩
  · obtain ⟨r, inside, rfl⟩ := List.mem_map.mp there
    exact (each r inside).2
  · rw [List.filter_map]
    exact congrArg _ (List.filter_congr fun r inside => (each r inside).1)

/-- A message that the middleware lets pass, or an edited message, comes to the handlers whose filters
    mean it, in the order of registration, each once, and to no other; and the dispatcher thread goes
    on. A filter for a command means exactly the texts with a `/`, the command and then nothing, a blank
    or an `@`. -/
theorem routed (quiet : ∀ r ∈ registered, r.Quiet msg) (consistent : Formula.Consistent truth msg)
    (messages : c.onMessageHandlers = registered.map Registered.message)
    (edits : c.onEditedMessageHandlers = registered.map Registered.edited)
    (unstopped : ∀ n pool, c.threadPool = some ⟨n, pool⟩ → pool.stop = false) :
    let meant := registered.filter (·.filter.Means truth msg)
    (((c.dispatchMessage msg).calls, (c.dispatchMessage msg).outcome) =
      (if (MiddlewarePipeline.execute c.middleware { message := some msg }).1 then
        meant.map (.message ·.message) else [], .ok ())) ∧
    (((c.dispatchEditedMessage msg).calls, (c.dispatchEditedMessage msg).outcome) =
      (meant.map (.editedMessage ·.edited), .ok ())) ∧
    ∀ cmd, (Formula.command cmd).Means truth msg = true ↔ ∃ rest, msg.text = 47 :: (cmd ++ rest) ∧
      (∀ b ∈ cmd, endsCommand b = false) ∧ ∀ b ∈ rest.head?, endsCommand b = true := by
  intro meant
  refine ⟨?_, ?_, fun cmd => ?_⟩
  · obtain ⟨tame, accept⟩ := registered_quiet Registered.message (·.filter msg) (·.callback msg) quiet
      consistent (fun _ => rfl) fun _ => rfl
    rw [← messages] at tame accept
    rw [(ClientImpl.dispatchMessage_iff c msg).mpr fun _ => ?_, ClientImpl.addressed, accept,
      List.map_map]
    · rfl
    · unfold ClientImpl.Harmless
      cases pooled : c.threadPool with
      | none => exact tame
      | some pool => exact ⟨unstopped _ _ pooled, reached_of_tame tame⟩
  · obtain ⟨tame, accept⟩ := registered_quiet Registered.edited (·.filter msg) (·.callback msg) quiet
      consistent (fun _ => rfl) fun _ => rfl
    rw [← edits] at tame accept
    rw [(ClientImpl.dispatchEditedMessage_iff c msg).mpr tame, ClientImpl.addressed, accept, List.map_map]
    rfl
  · exact decide_eq_true_iff.trans commandOf_eq_some_iff

/-- `/p@b`, with a handler for the command, one for all other messages, and one whose function throws but
    is not called. -/
theorem routed_command :
    let msg : Message := { text := [47, 112, 64, 98] }
    let ping : Registered := ⟨.command [112], fun _ => .ok ()⟩
    let registered := [ping, ⟨.not (.command [112]), fun _ => .ok ()⟩,
      ⟨.and (.command [112, 64]) (.function fun _ => .error .other), fun _ => .ok ()⟩]
    let c : ClientImpl Message Unit := {
      onMessageHandlers := registered.map Registered.message
      onEditedMessageHandlers := registered.map Registered.edited }
    (c.dispatchMessage msg).calls = [.message ping.message] := by
  intro msg ping registered c
  have quiet : ∀ r ∈ registered, r.Quiet msg := by
    intro r inside
    have command (cmd : Text) := command_ok cmd msg
    simp only [registered, List.mem_cons, List.not_mem_nil, or_false] at inside
    rcases inside with rfl | rfl | rfl
    · exact ⟨⟨_, command [112]⟩, nofun⟩
    · refine ⟨⟨false, ?_⟩, nofun⟩
      rw [Formula.filter, MessageFilter.not, Formula.filter, command]
      rfl
    · refine ⟨⟨false, ?_⟩, nofun⟩
      rw [Formula.filter, MessageFilter.and, Formula.filter, command]
      rfl
  have consistent : Formula.Consistent (fun f => (f msg).toOption.getD true) msg := by
    intro f b gives
    simp only [gives]
    rfl
  have unstopped : ∀ n pool, c.threadPool = some ⟨n, pool⟩ → pool.stop = false := by
    rintro n pool ⟨⟩
  exact congrArg Prod.fst (routed quiet consistent rfl rfl unstopped).1

end CppGram.Backend
