import CommandConsole.Call.Literal

/-!
# Scanning for the closing parenthesis

The text after an opening parenthesis is read character by character by a small machine. It counts
the parentheses that are still open, skips over string literals, and stops for good at a closing
parenthesis too many. `argumentText` cuts the text at the parenthesis that closes the first one;
`balances` says whether every parenthesis and every literal is closed at the end.

* The count is a signed 32-bit word and wraps around at the ends of the range. A text whose
  parentheses are nested deeper than 2^31 - 1 is therefore not read by its nesting.
* The machine is `step`, folded over the text; a run over two texts is the run over the second from
  where the first one led (`run_append`).
* Text after the parenthesis that closes the first one is still scanned: a second call behind the
  first has to balance too.
-/

namespace CommandConsole.Call

/-! ## 1. The machine -/

/-- Where the scanner stands with respect to string literals. -/
inductive Place where
  /-- Outside every literal. -/
  | code
  /-- Inside a literal that `q` closes. -/
  | quoted (q : Char)
  /-- Inside a literal that `q` closes, behind a backslash that counts. -/
  | escaped (q : Char)
  deriving DecidableEq, Repr

/-- A state of the scanner: the count of parentheses still open and the place, or the dead end behind
    a closing parenthesis that takes the count below zero. -/
inductive Scan where
  | reading (depth : Int32) (place : Place)
  | overrun
  deriving DecidableEq, Repr

/-- The state behind the first opening parenthesis. -/
def Scan.start : Scan := .reading 1 .code

/-- One character of the scan. -/
def Scan.step : Scan → Char → Scan
  | .overrun, _ => .overrun
  | .reading depth (.escaped q), _ => .reading depth (.quoted q)
  | .reading depth (.quoted q), c =>
    if c = '\\' then .reading depth (.escaped q)
    else if c = q then .reading depth .code
    else .reading depth (.quoted q)
  | .reading depth .code, c =>
    if isQuote c then .reading depth (.quoted c)
    else if c = '(' then .reading (depth + 1) .code
    else if c = ')' then
      if depth - 1 < 0 then .overrun else .reading (depth - 1) .code
    else .reading depth .code

/-- A scan over a text. -/
def Scan.run (s : Scan) (cs : List Char) : Scan := cs.foldl Scan.step s

@[simp] theorem Scan.run_nil (s : Scan) : s.run [] = s := rfl

@[simp] theorem Scan.run_cons (s : Scan) (c : Char) (cs : List Char) :
    s.run (c :: cs) = (s.step c).run cs := rfl

theorem Scan.run_append (s : Scan) (cs ds : List Char) :
    s.run (cs ++ ds) = (s.run cs).run ds := List.foldl_append

@[simp] theorem Scan.run_overrun (cs : List Char) : Scan.overrun.run cs = .overrun := by
  induction cs with
  | nil => rfl
  | cons c cs ih => exact ih

/-- The text is done and everything opened in it has been closed. -/
def Scan.isClosed (s : Scan) : Bool := s == .reading 0 .code

/-- The next character is a closing parenthesis, outside of literals, that takes the count to zero. -/
def Scan.closes : Scan → Char → Bool
  | .reading depth .code, c => c == ')' && depth - 1 == 0
  | _, _ => false

/-! ## 2. The two questions -/

/-- Everything that the text behind the first parenthesis opens is closed at its end, and so is the
    first parenthesis itself. -/
def balances (cs : List Char) : Bool := (Scan.start.run cs).isClosed

/-- The characters up to the first closing parenthesis that takes the count to zero, and the text behind
    that parenthesis. `seen` holds the characters read so far, last first. -/
def cutFrom (s : Scan) (seen : List Char) : List Char → Option (List Char × List Char)
  | [] => none
  | c :: cs =>
    if s.closes c then some (seen.reverse, cs)
    else cutFrom (s.step c) (c :: seen) cs

/-- The argument text behind an opening parenthesis, up to the closing one that matches it, and what
    follows; none when the parenthesis is never closed. -/
def cut (cs : List Char) : Option (List Char × List Char) := cutFrom .start [] cs

/-- The argument text: up to the matching parenthesis, or all there is. -/
def argumentText (cs : List Char) : List Char :=
  match cut cs with
  | some (args, _) => args
  | none => cs

end CommandConsole.Call
