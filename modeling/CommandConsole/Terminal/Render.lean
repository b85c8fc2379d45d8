import CommandConsole.Terminal.Grid
import CommandConsole.Wire.Outcome

/-!
# Outcomes and listings on a terminal

Three formats: `table`, for reading, with colours where the terminal has them; `json`, the pretty
JSON form; and `plain`, text without any decoration. A process that showed an outcome ends with an
exit code by its category.
-/

namespace CommandConsole.Terminal

/-! ## 1. Formats and styles -/

/-- How output is written. -/
inductive Format where
  | table
  | json
  | plain
  deriving DecidableEq, Repr

/-- The format that a word names. -/
def Format.ofName? (s : String) : Option Format :=
  if s = "table" then some .table
  else if s = "json" then some .json
  else if s = "plain" then some .plain
  else none

/-- The styles in use, each the code that switches it on. -/
inductive Style where
  | green
  | red
  | yellow
  | plainRed
  | bold
  | underlined
  deriving DecidableEq, Repr

/-- The parameters of a style's escape sequence. -/
def Style.code : Style → String
  | .green => "1;32"
  | .red => "1;31"
  | .yellow => "1;33"
  | .plainRed => "31"
  | .bold => "1"
  | .underlined => "4"

/-- The sequence that switches a style on. -/
def Style.on (s : Style) : String := "\x1b[" ++ s.code ++ "m"

/-- The sequence that switches every style off. -/
def allOff : String := "\x1b[0m"

/-- A text in which every sequence that switches all styles off is followed by `on`. -/
def resuming (on : List Char) : List Char → List Char
  | '\x1b' :: '[' :: '0' :: 'm' :: rest => allOff.toList ++ on ++ resuming on rest
  | c :: rest => c :: resuming on rest
  | [] => []

/-- A text in a style, or as it is where there are no colours. The style goes on behind a place where
    the text itself switches styles off. -/
def styled (colour : Bool) (s : Style) (text : String) : String :=
  if colour then s.on ++ String.ofList (resuming s.on.toList text.toList) ++ allOff else text

/-! ## 2. Outcomes -/

/-- A message under its label, the label in colour. -/
def messageBlock (colour : Bool) (s : Style) (c : Category) (message : String) : String :=
  styled colour s (c.label.getD "") ++ "\n" ++ message

/-- The catalog for reading: its heading, a grid of the entries, and the closing sentence with the
    address of the link on a line of its own. -/
def helpBlock (colour : Bool) (h : HelpCatalog) : String :=
  styled colour .bold h.heading ++ "\n"
    ++ grid ["Command", "Description"] (h.entries.map fun e => [e.name, e.description]) ++ "\n"
    ++ h.closingSentence ++ "\n  " ++ styled colour .underlined h.link.href

/-- An outcome for reading. -/
def outcomeBlock (colour : Bool) : Outcome → String
  | .success m => messageBlock colour .green .success m
  | .error m => messageBlock colour .red .error m
  | .warning m => messageBlock colour .yellow .warning m
  | .help h => helpBlock colour h

/-- An outcome in a format. -/
def renderOutcome (format : Format) (colour : Bool) (o : Outcome) : String :=
  match format with
  | .json => Wire.pretty o
  | .plain => o.text
  | .table => outcomeBlock colour o

/-- The exit code of a process that showed an outcome. -/
def exitCode (o : Outcome) : Nat :=
  match o.category with
  | .success | .help => 0
  | .error => 1
  | .warning => 2

/-! ## 3. Listings -/

/-- The headers of a listing of commands. -/
def listingHeaders : List String := ["Command", "Example", "Implemented", "Description"]

/-- A command as a row of a listing. -/
def listingRow (s : CommandSummary) : List String :=
  [s.name, s.usage, if s.implemented then "yes" else "no", s.description]

/-- A command as lines of header and value. -/
def listingItem (s : CommandSummary) : String :=
  "\n".intercalate (List.zipWith (fun h v => h ++ ": " ++ v) listingHeaders (listingRow s))

/-- A listing of commands in a format. -/
def renderListing (format : Format) (rows : List CommandSummary) : String :=
  if rows.isEmpty then "No items found."
  else
    match format with
    | .table => grid listingHeaders (rows.map listingRow)
    | .json => (Json.array (rows.map CommandSummary.toJson)).pretty
    | .plain => "\n---\n".intercalate (rows.map listingItem)

end CommandConsole.Terminal
