import CommandConsole.Command.Builtin
import CommandConsole.Outcome

/-!
# The catalog of a table

The help catalog lists the specifications flagged for it, in the order of the table, between a fixed
heading and a closing sentence that links to the documentation of the commands.
-/

namespace CommandConsole.HelpCatalog

/-- The heading of every catalog. -/
def standardHeading : String := "Common Cypress commands and examples:"

/-- The text of the link to the documentation. -/
def docsText : String := "official Cypress API documentation"

/-- The address of the documentation. -/
def docsAddress : String := "https://docs.cypress.io/api/table-of-contents"

/-- The catalog entry of a specification. -/
def entryOf (s : CommandSpec) : HelpEntry := { name := s.usage, description := s.description }

/-- The catalog of a table. -/
def ofTable (t : CommandTable) : HelpCatalog :=
  { heading := standardHeading
    entries := (t.specs.filter CommandSpec.inHelp).map entryOf
    closingLead := "For more commands and details, visit the "
    link :=
      { text := docsText, href := docsAddress, target := "_blank", rel := "noopener noreferrer" }
    closingTail := "." }

/-- The catalog of the built-in commands. -/
def builtin : HelpCatalog := ofTable Builtin.table

end CommandConsole.HelpCatalog
