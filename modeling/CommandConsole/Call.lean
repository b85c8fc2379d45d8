import CommandConsole.Text.Blank
import CommandConsole.Text.Word
import CommandConsole.Call.Scan

/-!
# Call lines

One line of input is either the word `help`, alone and exact, or a call: a candidate name, the text
of its arguments and the shape of its parentheses. Reading never fails; a malformed line is a call
whose shape says what is wrong with it.

* The name is the text before the first parenthesis (the whole line if there is none), without the
  blanks around it.
* A call is balanced when the scan behind the first parenthesis ends with everything closed and the
  line ends in a closing parenthesis, behind which one semicolon and blanks are allowed.
-/

namespace CommandConsole

/-- The shape of the parentheses of a call. -/
inductive Parens where
  /-- The line has no opening parenthesis. -/
  | missing
  /-- An opening parenthesis, but the line does not end in a closed call. -/
  | unbalanced
  | balanced
  deriving DecidableEq, Repr

/-- A line read as the call of a command. -/
structure Call where
  /-- The text before the first parenthesis, trimmed. -/
  name : String
  /-- The text between the first parenthesis and the one that closes it. -/
  args : String
  parens : Parens
  /-- A parenthesis was found at all: what the shape says, unless it is given apart. -/
  hasParens : Bool := parens != .missing
  deriving DecidableEq, Repr

/-- One line of input. -/
inductive Line where
  | help
  | call (c : Call)
  deriving DecidableEq, Repr

/-- The word that asks for the help catalog. -/
def helpKeyword : String := "help"

namespace Call

/-- The name is `cy.` followed by one or more word characters, and nothing else. -/
def isCommandName (name : String) : Bool :=
  match name.toList with
  | 'c' :: 'y' :: '.' :: word => !word.isEmpty && word.all Text.isWord
  | _ => false

/-- The call is named like a command. -/
def isCommandShaped (c : Call) : Bool := isCommandName c.name

/-- The line ends in a closing parenthesis, once the blanks at its end, one semicolon before them
    and the blanks before that are taken away. -/
def endsClosed (line : List Char) : Bool :=
  match line.reverse.dropWhile Text.isBlank with
  | ';' :: before => (before.dropWhile Text.isBlank).head? == some ')'
  | last => last.head? == some ')'

/-- A line of characters read as a call. -/
def ofChars (line : List Char) : Call :=
  match line.dropWhile (· != '(') with
  | [] =>
    { name := String.ofList (Text.trim line), args := "", parens := .missing, hasParens := false }
  | _ :: rest =>
    { name := String.ofList (Text.trim (line.takeWhile (· != '(')))
      args := String.ofList (argumentText rest)
      parens := if balances rest && endsClosed line then .balanced else .unbalanced
      hasParens := true }

end Call

/-- Reads one line of input. -/
def Line.ofString (input : String) : Line :=
  if input = helpKeyword then .help else .call (.ofChars input.toList)

end CommandConsole
