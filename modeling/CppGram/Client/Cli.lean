import CppGram.Core.Machine
import CppGram.Lib.Json
import CppGram.Lib.Tables

/-!
# The interactive shell

`InteractiveCLI` (C++ `cli.cpp`). A line is cut into tokens by a loop that remembers the token it is in
and whether it is between quotes (`scan`); the first token names a command, whose handler gets the
others. The handlers of the program are functions on a state of its own and what they write.

`run_exit` says where a shell stops reading, and `parseArgs_quoteLine` what becomes of a line of quoted
words: the words that are not empty. So a handler sees every argument at its position exactly when none
is empty (`quoteLine_iff`).
-/

namespace CppGram
open Json

/-! ## Tokens -/

/-- The variables of the loop in `parse_args`. -/
structure Scanner where
  tokens : List Text := []
  current : Text := []
  inQuotes : Bool := false
  deriving DecidableEq, Repr

namespace Scanner

/-- `if (!current.empty()) { tokens.push_back(current); current.clear(); }`. -/
def push (s : Scanner) : Scanner :=
  if s.current ≠ [] then { s with tokens := s.tokens ++ [s.current], current := [] } else s

/-- The turn of a character. -/
def scan (s : Scanner) (c : UInt8) : Scanner :=
  if c = 34 then { s with inQuotes := !s.inQuotes }
  else if (c = 32 ∨ c = 9) ∧ s.inQuotes = false then s.push
  else { s with current := s.current ++ [c] }

end Scanner

/-- `InteractiveCLI::parse_args`. -/
def parseArgs (line : Text) : List Text := (line.foldl Scanner.scan {}).push.tokens

/-! ## Commands -/

/-- C++ `struct CommandContext`, without the stream. -/
structure CommandContext where
  commandName : Text
  args : List Text
  deriving DecidableEq, Repr

/-- C++ `CommandHandler`: one of those that `register_builtin_commands` writes, or one of the program,
    which writes something and changes a state. -/
inductive CommandHandler (σ : Type) where
  | help
  | clear
  | exit
  | program (f : CommandContext → σ → Text × σ)

/-- C++ `struct CommandInfo`. -/
structure CommandInfo (σ : Type) where
  name : Text
  description : Text
  usage : Text
  handler : CommandHandler σ

/-- C++ `class InteractiveCLI`. -/
structure InteractiveCLI (σ : Type) where
  commands : List (CommandInfo σ) := []
  prompt : Text := ascii "cppgram> "
  banner : Text := []
  running : Bool := true

/-- The shell, what was written to its stream, and the state of the program. -/
structure Terminal (σ : Type) where
  cli : InteractiveCLI σ
  out : Text := []
  program : σ

section

variable {σ : Type}

namespace InteractiveCLI

/-- `InteractiveCLI::register_command`. -/
def registerCommand (cli : InteractiveCLI σ) (name description usage : Text)
    (handler : CommandHandler σ) : InteractiveCLI σ :=
  { cli with
    commands := Tables.upsert CommandInfo.name ⟨name, description, usage, handler⟩ cli.commands }

/-- `commands_.find(name)`. -/
def find (cli : InteractiveCLI σ) (name : Text) : Option (CommandInfo σ) :=
  Tables.find CommandInfo.name cli.commands name

/-- `InteractiveCLI::register_builtin_commands`. -/
def registerBuiltinCommands (cli : InteractiveCLI σ) : InteractiveCLI σ :=
  let cli := cli.registerCommand (ascii "/help") (ascii "Display available commands and descriptions")
    (ascii "/help [command]") .help
  let cli := cli.registerCommand (ascii "/clear") (ascii "Clear the console screen")
    (ascii "/clear") .clear
  let cli := cli.registerCommand (ascii "/exit") (ascii "Exit the interactive shell")
    (ascii "/exit") .exit
  cli.registerCommand (ascii "/quit") (ascii "Exit the interactive shell") (ascii "/quit") .exit

/-- The commands in the order of `std::map`. -/
def sorted (cli : InteractiveCLI σ) : List (CommandInfo σ) :=
  cli.commands.mergeSort fun a b => a.name ≤ b.name

/-- `std::left << std::setw(width) << s`. -/
def padRight (width : Nat) (s : Text) : Text := s ++ List.replicate (width - s.length) 32

/-- What `/help` writes. -/
def helpText (cli : InteractiveCLI σ) : List Text → Text
  | [] =>
    ascii "=== Available Commands ===\n" ++
      cli.sorted.flatMap (fun info =>
        ascii "  " ++ padRight 15 info.name ++ ascii " : " ++ info.description ++ ascii "\n") ++
      ascii "Type '/help <cmd>' for command usage details.\n"
  | name :: _ =>
    match cli.find name with
    | some info =>
      ascii "Command: " ++ info.name ++ ascii "\n" ++
        ascii "Description: " ++ info.description ++ ascii "\n" ++
        ascii "Usage: " ++ info.usage ++ ascii "\n"
    | none => ascii "Unknown command: " ++ name ++ ascii "\n"

end InteractiveCLI

namespace Terminal

/-- `out << s`. -/
def write (t : Terminal σ) (s : Text) : Terminal σ := { t with out := t.out ++ s }

/-- `it->second.handler(ctx)`. -/
def call (t : Terminal σ) (ctx : CommandContext) : CommandHandler σ → Terminal σ
  | .help => t.write (t.cli.helpText ctx.args)
  | .clear => t.write (27 :: ascii "[2J" ++ 27 :: ascii "[1;1H")
  | .exit =>
    { t.write (ascii "Exiting CppGram CLI. Goodbye!\n") with cli := { t.cli with running := false } }
  | .program f =>
    let (text, program) := f ctx t.program
    { t.write text with program := program }

/-- `InteractiveCLI::execute_line`, with what it returns. -/
def executeLine (t : Terminal σ) (line : Text) : Bool × Terminal σ :=
  match parseArgs line with
  | [] => (t.cli.running, t)
  | cmd :: args =>
    let t :=
      match t.cli.find cmd with
      | some info => t.call ⟨cmd, args⟩ info.handler
      | none =>
        t.write (ascii "Unknown command '" ++ cmd ++
          ascii "'. Type '/help' for a list of commands.\n")
    (t.cli.running, t)

/-- The loop of `InteractiveCLI::run` over the lines that `std::getline` reads. -/
def runLines (t : Terminal σ) : List Text → Terminal σ
  | [] => t.write t.cli.prompt
  | line :: lines =>
    let (running, t) := (t.write t.cli.prompt).executeLine line
    if running then t.runLines lines else t

/-- `InteractiveCLI::run`. -/
def run (t : Terminal σ) (lines : List Text) : Terminal σ :=
  let t := if t.cli.banner ≠ [] then t.write (t.cli.banner ++ ascii "\n") else t
  { t with cli := { t.cli with running := true } }.runLines lines

/-! ### The end of a shell -/

/-- Both names end a shell, whatever was registered under them before. -/
lemma find_registerBuiltinCommands (cli : InteractiveCLI σ) {cmd : Text}
    (ends : cmd = ascii "/exit" ∨ cmd = ascii "/quit") :
    ∃ info, cli.registerBuiltinCommands.find cmd = some info ∧ info.handler = .exit := by
  have other : ascii "/quit" ≠ ascii "/exit" := by decide
  simp only [InteractiveCLI.registerBuiltinCommands, InteractiveCLI.registerCommand,
    InteractiveCLI.find, Tables.find_upsert]
  rcases ends with rfl | rfl
  · exact ⟨_, (if_neg other).trans (if_pos rfl), rfl⟩
  · exact ⟨_, if_pos rfl, rfl⟩

/-- No handler changes the commands. -/
lemma call_commands (t : Terminal σ) (ctx : CommandContext) (handler : CommandHandler σ) :
    (t.call ctx handler).cli.commands = t.cli.commands := by
  cases handler with
  | help | clear | exit | program => rfl

/-- To execute a line registers no command. -/
lemma executeLine_commands (t : Terminal σ) (line : Text) :
    (t.executeLine line).2.cli.commands = t.cli.commands := by
  rw [executeLine]
  cases parseArgs line with
  | nil => rfl
  | cons cmd args =>
    simp only
    cases t.cli.find cmd with
    | none => rfl
    | some info => exact call_commands t ⟨cmd, args⟩ info.handler

/-- What stands behind a line that ends the shell is not read. -/
lemma runLines_exit {t : Terminal σ} {cmd line : Text} {args : List Text}
    {info : CommandInfo σ} (tokens : parseArgs line = cmd :: args)
    (found : t.cli.find cmd = some info) (exit : info.handler = .exit) (before after : List Text) :
    t.runLines (before ++ line :: after) = t.runLines (before ++ [line]) := by
  induction before generalizing t with
  | nil =>
    have found : (t.write t.cli.prompt).cli.find cmd = some info := found
    simp only [List.nil_append, runLines, executeLine, tokens, found, exit]
    rfl
  | cons first before ih =>
    have found : ((t.write t.cli.prompt).executeLine first).2.cli.find cmd = some info := by
      rw [InteractiveCLI.find, executeLine_commands]
      exact found
    rw [List.cons_append, List.cons_append, runLines, runLines]
    simp only [ih found]

/-- A shell with its built-in commands reads no line behind `/exit` or `/quit`, whatever the lines before
    did. -/
theorem run_exit (t : Terminal σ) {cmd line : Text} {args : List Text}
    (ends : cmd = ascii "/exit" ∨ cmd = ascii "/quit") (tokens : parseArgs line = cmd :: args)
    (before after : List Text) :
    let t := { t with cli := t.cli.registerBuiltinCommands }
    t.run (before ++ line :: after) = t.run (before ++ [line]) := by
  obtain ⟨info, found, exit⟩ := find_registerBuiltinCommands t.cli ends
  intro t
  rw [run, run]
  split
  · exact runLines_exit tokens found exit before after
  · exact runLines_exit tokens found exit before after

end Terminal

end

/-! ## Quoted words -/

/-- A word in quotes. -/
def quoteWord (word : Text) : Text := 34 :: (word ++ [34])

/-- Words in quotes, with a space between them. -/
def quoteLine : List Text → Text
  | [] => []
  | [word] => quoteWord word
  | word :: words => quoteWord word ++ 32 :: quoteLine words

/-- Between quotes everything but a quote is taken into the token. -/
lemma scan_inside {word : Text} (noQuote : 34 ∉ word) (tokens : List Text) (current : Text) :
    word.foldl Scanner.scan ⟨tokens, current, true⟩ = ⟨tokens, current ++ word, true⟩ := by
  induction word generalizing current with
  | nil => rw [List.append_nil]; rfl
  | cons c word ih =>
    rw [List.mem_cons, not_or] at noQuote
    have step : Scanner.scan ⟨tokens, current, true⟩ c = ⟨tokens, current ++ [c], true⟩ := by
      rw [Scanner.scan, if_neg (Ne.symm noQuote.1), if_neg (fun h => by cases h.2)]
    rw [List.foldl_cons, step, ih noQuote.2, List.append_assoc]
    rfl

/-- A quoted word becomes the current token. -/
lemma scan_quoteWord {word : Text} (noQuote : 34 ∉ word) (tokens : List Text) :
    (quoteWord word).foldl Scanner.scan ⟨tokens, [], false⟩ = ⟨tokens, word, false⟩ := by
  change (word ++ [34]).foldl Scanner.scan ⟨tokens, [], true⟩ = _
  rw [List.foldl_append, scan_inside noQuote]
  rfl

/-- A word that ends becomes a token, unless it is empty. -/
lemma push_eq (tokens : List Text) (word : Text) :
    Scanner.push ⟨tokens, word, false⟩ = ⟨tokens ++ [word].filter (· ≠ []), [], false⟩ := by
  cases word with
  | nil => exact congrArg (Scanner.mk · [] false) (List.append_nil tokens).symm
  | cons => rfl

/-- Before a word and behind its separator the scanner is in the same state, but for the token. -/
lemma scan_quoteLine {words : List Text} (noQuotes : ∀ word ∈ words, 34 ∉ word)
    (tokens : List Text) : ((quoteLine words).foldl Scanner.scan ⟨tokens, [], false⟩).push.tokens =
      tokens ++ words.filter (· ≠ []) := by
  induction words generalizing tokens with
  | nil => exact (List.append_nil tokens).symm
  | cons word words ih =>
    obtain ⟨noQuote, noQuotes⟩ := List.forall_mem_cons.mp noQuotes
    cases words with
    | nil => rw [quoteLine, scan_quoteWord noQuote, push_eq]
    | cons next words =>
      have space (current : Text) : Scanner.scan ⟨tokens, current, false⟩ 32 =
          Scanner.push ⟨tokens, current, false⟩ := rfl
      have front : (word :: next :: words).filter (· ≠ []) =
          [word].filter (· ≠ []) ++ (next :: words).filter (· ≠ []) :=
        List.filter_append [word] (next :: words)
      rw [quoteLine, List.foldl_append, scan_quoteWord noQuote, List.foldl_cons, space, push_eq,
        ih noQuotes, front, List.append_assoc]
      exact List.cons_ne_nil next words

/-- Quoted words are the tokens of their line, but for those that are empty. -/
theorem parseArgs_quoteLine {words : List Text} (noQuotes : ∀ word ∈ words, 34 ∉ word) :
    parseArgs (quoteLine words) = words.filter (· ≠ []) :=
  scan_quoteLine noQuotes []

/-- A line of quoted words is cut into just these words exactly when none is empty. Then the handler of
    the command that the first one names is called with the others, each at its position. -/
theorem quoteLine_iff {words : List Text} (noQuotes : ∀ word ∈ words, 34 ∉ word) :
    (parseArgs (quoteLine words) = words ∧
      ∀ {σ : Type} (t : Terminal σ) (cmd : Text) (args : List Text) (info : CommandInfo σ),
        words = cmd :: args → t.cli.find cmd = some info →
        (t.executeLine (quoteLine words)).2 = t.call ⟨cmd, args⟩ info.handler) ↔
      ∀ word ∈ words, word ≠ [] := by
  have same : parseArgs (quoteLine words) = words ↔ ∀ word ∈ words, word ≠ [] := by
    rw [parseArgs_quoteLine noQuotes, List.filter_eq_self]
    simp only [decide_eq_true_iff]
  rw [← same]
  refine ⟨And.left, fun tokens => ⟨tokens, ?_⟩⟩
  rintro σ t cmd args info rfl found
  rw [Terminal.executeLine, tokens]
  simp only [found]

/-- Three words, one with blanks, come back as they were. -/
theorem quoteLine_iff_send :
    parseArgs (quoteLine [ascii "/send", ascii "12345", ascii "Hello CppGram v0.5!"]) =
      [ascii "/send", ascii "12345", ascii "Hello CppGram v0.5!"] :=
  ((quoteLine_iff (by decide)).mpr (by decide)).1

example : parseArgs (ascii "/send 12345 \"Hello CppGram v0.5!\"") =
    [ascii "/send", ascii "12345", ascii "Hello CppGram v0.5!"] := by decide

/-- An empty argument is lost, and those behind it move up. -/
theorem quoteLine_empty : ¬ ∀ words : List Text, (∀ word ∈ words, 34 ∉ word) →
    parseArgs (quoteLine words) = words := by
  intro all
  have this := all [ascii "/send", [], ascii "x"] (by decide)
  revert this
  decide

end CppGram
