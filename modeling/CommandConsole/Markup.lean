/-!
# Markup

An HTML fragment as a list of pieces: opening tags with their attributes, closing tags and text.
Whatever the pieces carry is escaped when it is written, so no text and no attribute value can begin
or end a tag. Escaping works character by character (`escapeChars_append`), hence on any text.
-/

namespace CommandConsole.Markup

/-! ## 1. Escaping -/

/-- The written form of one character: an entity for the five characters with a meaning in HTML,
    the character itself otherwise. -/
def escapeChar (c : Char) : List Char :=
  if c = '&' then "&amp;".toList
  else if c = '<' then "&lt;".toList
  else if c = '>' then "&gt;".toList
  else if c = '"' then "&quot;".toList
  else if c = '\'' then "&#39;".toList
  else [c]

/-- The written form of a list of characters. -/
def escapeChars (cs : List Char) : List Char := cs.flatMap escapeChar

/-- The written form of a text. -/
def escape (s : String) : String := String.ofList (escapeChars s.toList)

@[simp] theorem escapeChars_nil : escapeChars [] = [] := rfl

@[simp] theorem escapeChars_cons (c : Char) (cs : List Char) :
    escapeChars (c :: cs) = escapeChar c ++ escapeChars cs := List.flatMap_cons

theorem escapeChars_append (cs ds : List Char) :
    escapeChars (cs ++ ds) = escapeChars cs ++ escapeChars ds := List.flatMap_append

/-! ## 2. Pieces -/

/-- A piece of a fragment. -/
inductive Piece where
  /-- An opening tag with its attributes in order. -/
  | opening (tag : String) (attributes : List (String × String))
  | closing (tag : String)
  | text (s : String)
  deriving DecidableEq, Repr

/-- An attribute in front of the end of its tag: a space, the name, and the escaped value between
    double quotes. -/
def writeAttribute (a : String × String) : String :=
  " " ++ a.1 ++ "=\"" ++ escape a.2 ++ "\""

/-- A piece as it is written. -/
def Piece.write : Piece → String
  | .opening tag attributes => "<" ++ tag ++ String.join (attributes.map writeAttribute) ++ ">"
  | .closing tag => "</" ++ tag ++ ">"
  | .text s => escape s

/-- A fragment as it is written. -/
def write (pieces : List Piece) : String := String.join (pieces.map Piece.write)

end CommandConsole.Markup
