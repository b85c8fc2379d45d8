import CommandConsole.Markup

/-!
# Outcomes

What one line of input comes to: a success, an error or a warning with a message, or the help
catalog. An outcome is shown in two ways, as plain text (`Outcome.text`) and as an HTML fragment
(`Outcome.html`).
-/

namespace CommandConsole

/-! ## 1. Categories -/

/-- The four kinds of outcome. -/
inductive Category where
  | success
  | error
  | warning
  | help
  deriving DecidableEq, Repr

/-- The word for a category, in lower case. -/
def Category.name : Category → String
  | .success => "success"
  | .error => "error"
  | .warning => "warning"
  | .help => "help"

/-- The label in front of a message. Help has none. -/
def Category.label : Category → Option String
  | .success => some "Success:"
  | .error => some "Error:"
  | .warning => some "Warning:"
  | .help => none

/-! ## 2. The help catalog -/

/-- One line of the help catalog: how a command is written and what it does. -/
structure HelpEntry where
  name : String
  description : String
  deriving DecidableEq, Repr

/-- A hyperlink to the documentation of the commands. -/
structure DocLink where
  text : String
  href : String
  target : String
  rel : String
  deriving DecidableEq, Repr

/-- The help catalog: a heading, the entries, and a closing sentence around a link. -/
structure HelpCatalog where
  heading : String
  entries : List HelpEntry
  /-- The closing sentence before the link. -/
  closingLead : String
  link : DocLink
  /-- The closing sentence behind the link. -/
  closingTail : String
  deriving DecidableEq, Repr

namespace HelpCatalog

/-- The closing sentence as it reads, the link shown by its text. -/
def closingSentence (h : HelpCatalog) : String := h.closingLead ++ h.link.text ++ h.closingTail

/-- One entry as a line of text. -/
def entryLine (e : HelpEntry) : String := "  " ++ e.name ++ " - " ++ e.description ++ "\n"

/-- The catalog as text: the heading, a line for each entry, and the closing sentence with the
    address of its link between angle brackets. -/
def toText (h : HelpCatalog) : String :=
  h.heading ++ "\n" ++ String.join (h.entries.map entryLine)
    ++ h.closingSentence ++ " <" ++ h.link.href ++ ">"

/-- One entry as an item of a list. -/
def entryMarkup (e : HelpEntry) : List Markup.Piece :=
  [.opening "li" [], .opening "code" [], .text e.name, .closing "code",
    .text (" - " ++ e.description), .closing "li"]

/-- The catalog as a fragment. -/
def markup (h : HelpCatalog) : List Markup.Piece :=
  [.opening "div" [("class", "help")],
    .opening "strong" [], .text h.heading, .closing "strong", .opening "ul" []]
  ++ h.entries.flatMap entryMarkup
  ++ [.closing "ul", .opening "p" [], .text h.closingLead,
    .opening "a" [("href", h.link.href), ("target", h.link.target), ("rel", h.link.rel)],
    .text h.link.text, .closing "a", .text h.closingTail, .closing "p", .closing "div"]

end HelpCatalog

/-! ## 3. Outcomes -/

/-- What one line of input comes to. -/
inductive Outcome where
  | success (message : String)
  | error (message : String)
  | warning (message : String)
  | help (catalog : HelpCatalog)
  deriving DecidableEq, Repr

namespace Outcome

/-- The kind of an outcome. -/
def category : Outcome → Category
  | .success _ => .success
  | .error _ => .error
  | .warning _ => .warning
  | .help _ => .help

/-- The outcome is a success. -/
def isSuccess (o : Outcome) : Bool := o.category == .success

/-- The outcome is an error. -/
def isError (o : Outcome) : Bool := o.category == .error

/-- The outcome is a warning. -/
def isWarning (o : Outcome) : Bool := o.category == .warning

/-- The message of an outcome that is not help. -/
def message? : Outcome → Option String
  | .success m => some m
  | .error m => some m
  | .warning m => some m
  | .help _ => none

/-- A message of one category as text: the label on a line of its own, then the message. -/
def labelled (c : Category) (message : String) : String :=
  c.label.getD "" ++ "\n" ++ message

/-- The outcome as plain text. -/
def text : Outcome → String
  | .success m => labelled .success m
  | .error m => labelled .error m
  | .warning m => labelled .warning m
  | .help h => h.toText

/-- A message of one category as a fragment. -/
def messageMarkup (c : Category) (message : String) : List Markup.Piece :=
  [.opening "div" [("class", c.name)],
    .opening "strong" [], .text (c.label.getD ""), .closing "strong",
    .opening "pre" [], .text message, .closing "pre", .closing "div"]

/-- The outcome as a fragment. -/
def markup : Outcome → List Markup.Piece
  | .success m => messageMarkup .success m
  | .error m => messageMarkup .error m
  | .warning m => messageMarkup .warning m
  | .help h => h.markup

/-- The outcome as HTML. -/
def html (o : Outcome) : String := Markup.write o.markup

end Outcome

end CommandConsole
