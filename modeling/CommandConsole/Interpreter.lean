import CommandConsole.Call
import CommandConsole.Help

/-!
# Evaluating a line

Every line comes to exactly one outcome. The rules are tried in this order and the first that
applies decides:

1. the line is `help`: the catalog of the table;
2. no parenthesis: an error;
3. the parentheses do not balance: an error;
4. the name is not a command of the table: an error that repeats the line;
5. the command produces no output yet: a warning;
6. the command's template, applied to the line and its arguments: a success.
-/

namespace CommandConsole

/-- The warning about a command that is known but produces no output. -/
def notImplementedMessage (name : String) : String :=
  "The \x60" ++ name ++ "\x60 command has not been implemented yet."

/-- The error about a line without parentheses. -/
def missingMessage (name : String) : String :=
  "Missing parentheses on \x60" ++ name ++ "\x60 command"

/-- The error about a line whose parentheses do not balance. -/
def unbalancedMessage (name : String) : String :=
  "Unbalanced parentheses on \x60" ++ name ++ "\x60 command"

/-- The error about a line that names no command. -/
def invalidMessage (input : String) : String :=
  "Invalid Cypress command: " ++ input

/-- The outcome of a command for a line and its arguments: what its template says, or a warning if
    it has none. -/
def CommandSpec.simulate (s : CommandSpec) (input args : String) : Outcome :=
  match s.template with
  | some template => .success (template { input := input, args := args })
  | none => .warning (notImplementedMessage s.name)

namespace CommandTable

/-- The command that a call names, provided the name has the shape of a command. -/
def commandOf? (t : CommandTable) (c : Call) : Option CommandSpec :=
  if c.isCommandShaped then t.find? c.name else none

/-- The outcome of a call, for the line it was read from. -/
def classifyCall (t : CommandTable) (c : Call) (input : String) : Outcome :=
  match c.parens with
  | .missing => .error (missingMessage c.name)
  | .unbalanced => .error (unbalancedMessage c.name)
  | .balanced =>
    match t.commandOf? c with
    | none => .error (invalidMessage input)
    | some s =>
      match s.template with
      | none => .warning (notImplementedMessage c.name)
      | some template => .success (template { input := input, args := c.args })

/-- The outcome of a line that has been read. -/
def classify (t : CommandTable) : Line → String → Outcome
  | .help, _ => .help (HelpCatalog.ofTable t)
  | .call c, input => t.classifyCall c input

/-- The outcome of a line. -/
def evaluate (t : CommandTable) (input : String) : Outcome :=
  t.classify (.ofString input) input

end CommandTable

/-- The outcome of a line over the built-in commands. -/
def evaluate (input : String) : Outcome := Builtin.table.evaluate input

/-- A line may be run when it is not blank. -/
def canRun (input : String) : Bool := !Text.allBlank input

end CommandConsole
