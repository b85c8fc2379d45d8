/-!
# TOML strings

The four kinds of string of TOML 1.0 and how they are read: basic and literal, each on one line or
on several. Only a basic string has escapes. In a string of several lines the line end behind the
opening quotes is dropped, a line end is always a line feed, and one or two quotes may stand in
front of the closing ones. The writer picks the plainest kind that can hold a text.
-/

namespace CommandConsole.Toml

/-- Reads a value from the front of a text, or refuses it. -/
abbrev Scan (α : Type) := List Char → Option (α × List Char)

/-! ## 1. Characters and escapes -/

/-- The blanks within a line. -/
def isSpace (c : Char) : Bool := c == ' ' || c == '\t'

/-- The text behind the blanks that it starts with. -/
def skipSpace (cs : List Char) : List Char := cs.dropWhile isSpace

/-- The characters that may stand in a comment: the tabulation and everything that is no control
    character of ASCII. -/
def isVisible (c : Char) : Bool := c == '\t' || (0x20 ≤ c.toNat && c.toNat != 0x7f)

/-- The line end that a text starts with. -/
def lineEnd? : List Char → Option (List Char)
  | '\n' :: cs => some cs
  | '\r' :: '\n' :: cs => some cs
  | _ => none

/-- The value of a hexadecimal digit. -/
def hexValue (c : Char) : Option Nat :=
  if '0' ≤ c ∧ c ≤ '9' then some (c.toNat - 48)
  else if 'a' ≤ c ∧ c ≤ 'f' then some (c.toNat - 87)
  else if 'A' ≤ c ∧ c ≤ 'F' then some (c.toNat - 55)
  else none

/-- The character with the code point that `n` hexadecimal digits give, behind digits already worth
    `value`; surrogates are no characters. -/
def codePoint (value : Nat) : Nat → Scan Char
  | 0, cs => if value.isValidChar then some (Char.ofNat value, cs) else none
  | n + 1, c :: cs => (hexValue c).bind fun d => codePoint (16 * value + d) n cs
  | _ + 1, [] => none

/-- The character of an escape, behind its backslash. -/
def escape : Scan Char
  | 'b' :: cs => some ('\x08', cs)
  | 't' :: cs => some ('\t', cs)
  | 'n' :: cs => some ('\n', cs)
  | 'f' :: cs => some ('\x0c', cs)
  | 'r' :: cs => some ('\r', cs)
  | '"' :: cs => some ('"', cs)
  | '\\' :: cs => some ('\\', cs)
  | 'u' :: cs => codePoint 0 4 cs
  | 'U' :: cs => codePoint 0 8 cs
  | _ => none

/-! ## 2. Strings on one line

The functions that follow read behind the opening quotes. The first argument bounds the steps, the
second holds the characters read so far, last first. -/

/-- A basic string. -/
def basicFrom : Nat → List Char → Scan String
  | 0, _, _ => none
  | n + 1, seen, cs =>
    match cs with
    | [] => none
    | '"' :: cs => some (String.ofList seen.reverse, cs)
    | '\\' :: cs => (escape cs).bind fun (c, cs) => basicFrom n (c :: seen) cs
    | c :: cs => if isVisible c then basicFrom n (c :: seen) cs else none

/-- A basic string on one line. -/
def basic : Scan String := fun cs => basicFrom (cs.length + 1) [] cs

/-- A literal string on one line, behind the characters `seen`. -/
def literalFrom (seen : List Char) : Scan String
  | [] => none
  | '\'' :: cs => some (String.ofList seen.reverse, cs)
  | c :: cs => if isVisible c then literalFrom (c :: seen) cs else none

/-- A literal string on one line. -/
def literal : Scan String := literalFrom []

/-! ## 3. Strings on several lines -/

/-- What follows three quotes inside a string: up to two more belong to the text. -/
def closing (q : Char) (seen : List Char) : List Char → String × List Char
  | c :: d :: cs =>
    if c = q ∧ d = q then (String.ofList (q :: q :: seen).reverse, cs)
    else if c = q then (String.ofList (q :: seen).reverse, d :: cs)
    else (String.ofList seen.reverse, c :: d :: cs)
  | [c] =>
    if c = q then (String.ofList (q :: seen).reverse, []) else (String.ofList seen.reverse, [c])
  | [] => (String.ofList seen.reverse, [])

/-- The text behind the blanks and line ends that it starts with. -/
def skipLines : List Char → List Char
  | '\n' :: cs => skipLines cs
  | '\r' :: '\n' :: cs => skipLines cs
  | ' ' :: cs => skipLines cs
  | '\t' :: cs => skipLines cs
  | cs => cs

/-- A basic string on several lines. A backslash at the end of a line drops the line end and all
    blanks and line ends that follow it. -/
def basicLinesFrom : Nat → List Char → Scan String
  | 0, _, _ => none
  | n + 1, seen, cs =>
    match cs with
    | [] => none
    | '"' :: '"' :: '"' :: cs => some (closing '"' seen cs)
    | '\\' :: cs =>
      match escape cs with
      | some (c, cs) => basicLinesFrom n (c :: seen) cs
      | none => (lineEnd? (skipSpace cs)).bind fun cs => basicLinesFrom n seen (skipLines cs)
    | '\n' :: cs => basicLinesFrom n ('\n' :: seen) cs
    | '\r' :: '\n' :: cs => basicLinesFrom n ('\n' :: seen) cs
    | c :: cs => if isVisible c then basicLinesFrom n (c :: seen) cs else none

/-- A literal string on several lines. -/
def literalLinesFrom (seen : List Char) : Scan String
  | '\'' :: '\'' :: '\'' :: cs => some (closing '\'' seen cs)
  | '\n' :: cs => literalLinesFrom ('\n' :: seen) cs
  | '\r' :: '\n' :: cs => literalLinesFrom ('\n' :: seen) cs
  | c :: cs => if isVisible c then literalLinesFrom (c :: seen) cs else none
  | [] => none

/-- The text behind a line end that directly follows opening quotes. -/
def dropFirstLineEnd (cs : List Char) : List Char := (lineEnd? cs).getD cs

/-- A string of any kind, with its opening quotes. -/
def anyString : Scan String
  | '"' :: '"' :: '"' :: cs =>
    basicLinesFrom (cs.length + 1) [] (dropFirstLineEnd cs)
  | '\'' :: '\'' :: '\'' :: cs => literalLinesFrom [] (dropFirstLineEnd cs)
  | '"' :: cs => basic cs
  | '\'' :: cs => literal cs
  | _ => none

/-! ## 4. Writing -/

/-- The length of the longest run of a character. `now` is the run that ends here. -/
def longestRun (q : Char) (now best : Nat) : List Char → Nat
  | [] => best
  | c :: cs =>
    if c = q then longestRun q (now + 1) (max best (now + 1)) cs else longestRun q 0 best cs

/-- A control character that only an escape can give. -/
def isControl (c : Char) : Bool :=
  c != '\t' && c != '\n' && (c.toNat ≤ 0x1f || c.toNat == 0x7f)

/-- A hexadecimal digit, upper case. -/
def hexDigit (n : Nat) : Char := if n < 10 then Char.ofNat (48 + n) else Char.ofNat (55 + n)

/-- An escaped character. -/
def writeEscape (c : Char) : List Char :=
  if c = '\x08' then ['\\', 'b']
  else if c = '\t' then ['\\', 't']
  else if c = '\n' then ['\\', 'n']
  else if c = '\x0c' then ['\\', 'f']
  else if c = '\r' then ['\\', 'r']
  else if c = '"' then ['\\', '"']
  else if c = '\\' then ['\\', '\\']
  else ['\\', 'u', '0', '0', hexDigit (c.toNat / 16), hexDigit (c.toNat % 16)]

/-- The inside of a basic string. Up to `allowed` quotes in a row stand for themselves, and a line
    feed does if `lines`; `run` counts the quotes just written. -/
def writeBasic (lines : Bool) (allowed run : Nat) : List Char → List Char
  | [] => []
  | c :: cs =>
    if c = '"' then
      if run < allowed then '"' :: writeBasic lines allowed (run + 1) cs
      else writeEscape c ++ writeBasic lines allowed 0 cs
    else if c = '\n' && lines then '\n' :: writeBasic lines allowed 0 cs
    else if c = '\\' || c = '\t' || c = '\n' || isControl c then
      writeEscape c ++ writeBasic lines allowed 0 cs
    else c :: writeBasic lines allowed 0 cs

/-- The quotes of a kind of string around its inside; strings of several lines begin on a new line
    when they hold one. -/
def enclose (quotes : String) (onNewLine : Bool) (inside : List Char) : List Char :=
  quotes.toList ++ (if onNewLine then ['\n'] else []) ++ inside ++ quotes.toList

/-- A written string: basic if nothing in it needs an escape, else literal if it has no single quote,
    else on several lines, basic or literal, if it fits there without escapes, and basic with
    escapes as the last resort. -/
def writeString (cs : List Char) : List Char :=
  let hasControl := cs.any isControl
  let hasBackslash := cs.contains '\\'
  let hasLineEnd := cs.contains '\n'
  let doubles := longestRun '"' 0 0 cs
  let singles := longestRun '\'' 0 0 cs
  if !hasControl && !hasBackslash && doubles == 0 && !hasLineEnd then
    enclose "\"" false (writeBasic false 0 0 cs)
  else if !hasControl && singles == 0 && !hasLineEnd then enclose "'" false cs
  else if !hasControl && !hasBackslash && doubles ≤ 2 then
    enclose "\"\"\"" hasLineEnd (writeBasic true 2 0 cs)
  else if !hasControl && singles ≤ 2 then enclose "'''" hasLineEnd cs
  else if hasLineEnd then enclose "\"\"\"" true (writeBasic true 2 0 cs)
  else enclose "\"" false (writeBasic false 0 0 cs)

end CommandConsole.Toml
