/-!
# String literals

A literal is a body between two equal quote characters. Inside a body a backslash takes the next
character with it, so an escaped quote does not end the literal; the body keeps its backslashes.
The scanner of parentheses and the extractor of the first literal both read literals by
`closeLiteral`'s rule, one character at a time.
-/

namespace CommandConsole.Call

/-! ## 1. Quote characters -/

/-- The three quote characters: double, single and the backtick (U+0060). -/
def isQuote (c : Char) : Bool :=
  c == '"' || c == '\'' || c == '\x60'

/-! ## 2. Bodies -/

/-- The literal body in front of `cs`, and what follows its closing quote. `escaped` says that the
    character before was a backslash that counts; `body` holds the characters read so far, last
    first. Without a closing quote there is no literal. -/
def closeLiteralFrom (q : Char) (escaped : Bool) (body : List Char) :
    List Char → Option (List Char × List Char)
  | [] => none
  | c :: cs =>
    if escaped then closeLiteralFrom q false (c :: body) cs
    else if c = '\\' then closeLiteralFrom q true (c :: body) cs
    else if c = q then some (body.reverse, cs)
    else closeLiteralFrom q false (c :: body) cs

/-- The body up to the first unescaped `q`, and the text after that quote. -/
def closeLiteral (q : Char) (cs : List Char) : Option (List Char × List Char) :=
  closeLiteralFrom q false [] cs

/-- The characters read before only stand in front of the body. -/
theorem closeLiteralFrom_eq (q : Char) (escaped : Bool) (body cs : List Char) :
    closeLiteralFrom q escaped body cs
      = (closeLiteralFrom q escaped [] cs).map fun r => (body.reverse ++ r.1, r.2) := by
  induction cs generalizing escaped body with
  | nil => rfl
  | cons c cs ih =>
    unfold closeLiteralFrom
    split
    · rw [ih false (c :: body), ih false [c], Option.map_map]
      congr 1; funext r; simp
    · split
      · rw [ih true (c :: body), ih true [c], Option.map_map]
        congr 1; funext r; simp
      · split
        · simp
        · rw [ih false (c :: body), ih false [c], Option.map_map]
          congr 1; funext r; simp

/-! ## 3. The first literal of a text -/

/-- The body of the literal that the first quote character opens; none if there is no quote
    character or if that literal is never closed. -/
def firstLiteral (cs : List Char) : Option (List Char) :=
  match cs.dropWhile fun c => !isQuote c with
  | [] => none
  | q :: rest => (closeLiteral q rest).map (·.1)

/-- `firstLiteral` on strings. -/
def firstLiteralText (s : String) : Option String :=
  (firstLiteral s.toList).map String.ofList

end CommandConsole.Call
