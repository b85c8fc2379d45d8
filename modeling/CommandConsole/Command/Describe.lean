import CommandConsole.Command.Spec
import CommandConsole.Text.Quoted

/-!
# Specifications as they are shown in a log

A specification is shown by its name, how it is written and whether it produces output.
-/

namespace CommandConsole.CommandSpec

/-- The specification as it is shown in a log. -/
def describe (s : CommandSpec) : String :=
  "CommandSpec \x7b name: " ++ Text.quoted s.name ++ ", example: " ++ Text.quoted s.usage
    ++ ", implemented: " ++ (if s.implemented then "true" else "false") ++ " \x7d"

end CommandConsole.CommandSpec
