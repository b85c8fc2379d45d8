import CommandConsole.CommandLine.Arguments
import CommandConsole.Release
import CommandConsole.Run.Trigger
import CommandConsole.Terminal.Repl
import CommandConsole.Text.Decimal

/-!
# The console on a terminal

The program evaluates one line, reads lines in a loop, lists the commands or tells its version. The
format may be given before the command or behind it; behind it wins. What a process does is a value:
its exit code and what it writes.
-/

namespace CommandConsole.CommandLine

/-! ## 1. What is asked for -/

/-- What the program is asked to do. -/
inductive Task where
  | eval (input : String) (delayMs : UInt64)
  | repl (delayMs : UInt64)
  | list (implemented : Bool)
  | version
  deriving DecidableEq, Repr

/-- A task and the format of its output. -/
structure Order where
  format : Terminal.Format
  task : Task
  deriving DecidableEq, Repr

/-- The option for the format. -/
def formatOption : OptionSpec :=
  { name := "format", letter := none
    value := .text fun v => (Terminal.Format.ofName? v).isSome }

/-- The option for more log messages. -/
def verboseOption : OptionSpec := { name := "verbose", letter := some 'v', value := .none }

/-- A value that is an unsigned number of 64 bits. -/
def isWord64 (v : String) : Bool := (Text.word64? v.toList).isSome

/-- The option for the delay. -/
def delayOption : OptionSpec := { name := "delay-ms", letter := none, value := .text isWord64 }

/-- The option to list only what produces output. -/
def implementedOption : OptionSpec :=
  { name := "implemented", letter := none, value := .none }

/-- The options that may be given before the command and behind it. -/
def sharedOptions : List OptionSpec := [formatOption, verboseOption]

/-- The command that gives help on the others. -/
def helpCommand : String := "help"

/-- The commands with their forms. -/
def commandForms : List (String × Form) := [
  ("eval", { options := delayOption :: sharedOptions, words := 1, commands := [] }),
  ("repl", { options := delayOption :: sharedOptions, words := 0, commands := [] }),
  ("commands", { options := implementedOption :: sharedOptions, words := 0, commands := [] }),
  ("version", { options := sharedOptions, words := 0, commands := [] })]

/-- What may be given before the command. -/
def consoleForm : Form :=
  { options := sharedOptions, words := 0
    commands := commandForms.map Prod.fst ++ [helpCommand] }

/-- A delay that was given, or the one that stands for it. -/
def delayOf (g : Given) (default : Nat) : UInt64 :=
  ((g.value? delayOption.name).bind fun v => Text.word64? v.toList).getD (UInt64.ofNat default)

/-- The task of a command from what was given behind it. -/
def taskOf (command : String) (g : Given) : Except Stop Task :=
  if command = "eval" then
    match g.words with
    | input :: _ => .ok (.eval input (delayOf g 0))
    | [] => .error .usage
  else if command = "repl" then .ok (.repl (delayOf g defaultRunDelay))
  else if command = "commands" then .ok (.list (g.has implementedOption.name))
  else .ok .version

/-- Help on a command, or on the program. -/
def helpOn : List String → Stop
  | [] => .help
  | name :: _ => if consoleForm.commands.contains name then .help else .usage

/-- What the arguments ask for. -/
def Order.ofArguments (args : List String) : Except Stop Order := do
  let before ← read terminalProgram consoleForm .nothing none args
  match before.command with
  | none => throw .usage
  | some (command, rest) =>
    match commandForms.lookup command with
    | none => throw (helpOn rest)
    | some form =>
      let behind ← read (terminalProgram ++ "-" ++ command) form .nothing none rest
      let task ← taskOf command behind
      let format := (behind.value? formatOption.name).orElse fun _ =>
        before.value? formatOption.name
      return { format := (format.bind Terminal.Format.ofName?).getD .table, task := task }

/-! ## 2. What is done -/

/-- What a process leaves behind. -/
structure Ending where
  code : Nat
  /-- What it wrote as its output. -/
  output : String
  /-- What it wrote as its complaints. -/
  complaint : String
  deriving DecidableEq, Repr

namespace Ending

/-- The process ended well. -/
def done (output : String) : Ending := { code := 0, output := output, complaint := "" }

/-- The arguments were not carried out. -/
def ofStop : Stop → Ending
  | .usage => { code := 2, output := "", complaint := "" }
  | .version program => done (program ++ " " ++ CommandConsole.version ++ "\n")
  | .help => done ""

end Ending

/-- A complaint about a failure, marked with a cross. -/
def complaintOf (colour : Bool) (e : Failure) : String :=
  Terminal.styled colour .plainRed "✗" ++ " " ++ e.message ++ "\n"

/-- Evaluates one line. -/
def evalOnce (format : Terminal.Format) (colour : Bool) (input : String) (delayMs : UInt64) :
    Ending :=
  match (Trigger.ofDelay delayMs.toNat).start 0 input with
  | .error e => { code := 1, output := "", complaint := complaintOf colour e }
  | .ok p =>
    { code := Terminal.exitCode p.outcome
      output := Terminal.renderOutcome format colour p.outcome ++ "\n"
      complaint := "" }

/-- The complaint about input that is no text. -/
def damagedInput : String := "Error: the input is no UTF-8 text\n"

/-- Reads lines in a loop; nobody types them. -/
def replOver (format : Terminal.Format) (colour : Bool) (delayMs : UInt64)
    (input : List UInt8) : Ending :=
  let repl : Terminal.Repl :=
    { format := format, colour := colour, interactive := false, delay := delayMs.toNat }
  let t := repl.run input
  if t.complete then .done t.output
  else { code := 1, output := t.output, complaint := damagedInput }

/-- What the program says about itself. -/
def about : String :=
  "Cysim CLI v" ++ CommandConsole.version ++ "\nℹ\ufe0f  Cypress command simulator\n"

/-- Carries an order out. -/
def Order.perform (o : Order) (colour : Bool) (input : List UInt8) : Ending :=
  match o.task with
  | .eval line delayMs => evalOnce o.format colour line delayMs
  | .repl delayMs => replOver o.format colour delayMs input
  | .list implemented =>
    .done (Terminal.renderListing o.format (Builtin.table.summaries implemented) ++ "\n")
  | .version => .done about

/-- Colours are used where the environment forces them. -/
def usesColour (forced : Option String) : Bool := forced.any (· != "0")

/-- The environment variable that forces colours. -/
def colourVariable : String := "CLICOLOR_FORCE"

/-- The console as a process: arguments, environment and input. -/
def runConsole (args : List String) (environment : String → Option String)
    (input : List UInt8) : Ending :=
  match Order.ofArguments args with
  | .error stop => .ofStop stop
  | .ok order => order.perform (usesColour (environment colourVariable)) input

end CommandConsole.CommandLine
