import CommandConsole.Help
import CommandConsole.Wire.Basic

/-!
# Outcomes on the wire

The JSON forms of categories, of the help catalog and of outcomes. An outcome is one flat object:
the field `category` says which kind it is, and the other fields are those of a message or of a
catalog. It may come in any order, but a category given twice is refused; and because the category
has to be known before the rest can be read, the whole object is taken in first, so every part of it
has to be a value, unknown fields too.
-/

namespace CommandConsole

/-- The category that a word names. -/
def Category.ofName? (s : String) : Option Category :=
  if s = "success" then some .success
  else if s = "error" then some .error
  else if s = "warning" then some .warning
  else if s = "help" then some .help
  else none

instance : Wire Category where
  toJson c := .string c.name
  reader := .word Category.ofName?

instance : Wire HelpEntry where
  toJson e := .object [("name", .string e.name), ("description", .string e.description)]
  reader t := do
    let r ← Json.Record.ofTree
      [("name", Wire.check String), ("description", Wire.check String)] t
    return { name := ← r.get "name" .text, description := ← r.get "description" .text }

instance : Wire DocLink where
  toJson l := .object [
    ("text", .string l.text), ("href", .string l.href),
    ("target", .string l.target), ("rel", .string l.rel)]
  reader t := do
    let r ← Json.Record.ofTree
      [("text", Wire.check String), ("href", Wire.check String),
        ("target", Wire.check String), ("rel", Wire.check String)] t
    return {
      text := ← r.get "text" .text
      href := ← r.get "href" .text
      target := ← r.get "target" .text
      rel := ← r.get "rel" .text }

/-- The fields of a catalog in the order in which they are written. -/
def HelpCatalog.jsonFields (h : HelpCatalog) : List (String × Json) :=
  [("heading", .string h.heading), ("entries", Wire.toJson h.entries),
    ("closing_lead", .string h.closingLead), ("link", Wire.toJson h.link),
    ("closing_tail", .string h.closingTail)]

instance : Wire HelpCatalog where
  toJson h := .object h.jsonFields
  reader t := do
    let r ← Json.Record.ofTree
      [("heading", Wire.check String), ("entries", Wire.check (List HelpEntry)),
        ("closing_lead", Wire.check String), ("link", Wire.check DocLink),
        ("closing_tail", Wire.check String)] t
    return {
      heading := ← r.get "heading" .text
      entries := ← r.get "entries" Wire.reader
      closingLead := ← r.get "closing_lead" .text
      link := ← r.get "link" Wire.reader
      closingTail := ← r.get "closing_tail" .text }

namespace Outcome

/-- The JSON form of a message of one category. -/
def messageJson (c : Category) (message : String) : Json :=
  .object [("category", .string c.name), ("message", .string message)]

/-- The JSON form of an outcome. -/
def toJson : Outcome → Json
  | .success m => messageJson .success m
  | .error m => messageJson .error m
  | .warning m => messageJson .warning m
  | .help h => .object (("category", .string Category.help.name) :: h.jsonFields)

/-- The message among the fields of an outcome. -/
def messageReader : Json.Reader String := fun t => do
  let r ← Json.Record.ofTree [("message", Wire.check String)] t
  r.get "message" .text

/-- An outcome whose category is known, from its other fields. -/
def bodyReader (c : Category) : Json.Reader Outcome := fun t =>
  match c with
  | .success => (messageReader t).map .success
  | .error => (messageReader t).map .error
  | .warning => (messageReader t).map .warning
  | .help => (Wire.reader t : Except Json.Fault HelpCatalog).map .help

/-- The category of an outcome: a string, in no other form. -/
def categoryReader : Json.Reader Category
  | .text (some s) => ((Category.ofName? s).map Except.ok).getD (.error .mismatch)
  | t => .error t.unwanted

/-- An outcome inside a text that leaves `room` for arrays and objects inside each other. -/
def readerWithin (room : Nat) : Json.Reader Outcome := fun t =>
  if !t.fits room then .error .malformed
  else
    match t with
    | .object fs =>
      let isCategory := fun (f : Option String × Json.Tree) => f.1 == some "category"
      match fs.filter isCategory with
      | [(_, tag)] => do
        let c ← categoryReader tag
        bodyReader c (.object (fs.filter fun f => !isCategory f))
      | _ => .error .mismatch
    | .array (tag :: rest) => do
      let c ← categoryReader tag
      bodyReader c (.array rest)
    | t => .error t.unwanted

end Outcome

/-- How many arrays and objects a text may hold inside each other where the whole of it has to be
    taken in. -/
def Json.maxDepth : Nat := 127

instance : Wire Outcome where
  toJson := Outcome.toJson
  reader := Outcome.readerWithin Json.maxDepth

/-- A listing shows the name, how the command is written, what it does and whether it produces
    output. -/
def CommandSummary.toJson (s : CommandSummary) : Json :=
  .object [
    ("name", .string s.name), ("example", .string s.usage),
    ("description", .string s.description), ("implemented", .bool s.implemented)]

end CommandConsole
