import CommandConsole.Call.Literal
import CommandConsole.Text.Blank

/-!
# Command specifications

What the console knows about one command: its name, how it is written, what it does, whether the
help catalog lists it, and, for a command that produces output, the template of that output.
-/

namespace CommandConsole

/-- What a template is given: the line as typed and the text of its arguments. -/
structure Invocation where
  input : String
  args : String
  deriving DecidableEq, Repr

/-- One command. -/
structure CommandSpec where
  name : String
  /-- How the command is written, for instance `cy.log(message)`. -/
  usage : String
  description : String
  /-- The help catalog lists the command. -/
  inHelp : Bool
  /-- The output of the command; a command without a template is known but not implemented. -/
  template : Option (Invocation → String)

/-- What a listing shows of a command. -/
structure CommandSummary where
  name : String
  usage : String
  description : String
  implemented : Bool
  deriving DecidableEq, Repr

namespace CommandSpec

/-- A command that produces output. -/
def implemented (s : CommandSpec) : Bool := s.template.isSome

/-- What a listing shows of the command. -/
def summary (s : CommandSpec) : CommandSummary :=
  { name := s.name, usage := s.usage, description := s.description, implemented := s.implemented }

/-- The text that a `cy.log` call logs: the body of the first literal among its arguments, or the
    trimmed arguments when there is none. -/
def loggedText (args : String) : String :=
  (Call.firstLiteralText args).getD (Text.trimmed args)

/-- The output of `cy.log`: the line as typed and a remark on what was logged. -/
def logTemplate (v : Invocation) : String :=
  v.input ++ " // Logged message \"" ++ loggedText v.args ++ "\""

end CommandSpec

end CommandConsole
