/-!
# Lines

A text is a sequence of lines, each ended by a line feed; a carriage return in front of the line
feed belongs to the line end. The last line may lack its end and is then taken as it is; an end with
nothing behind it begins no further line.
-/

namespace CommandConsole.Text

/-- A line without the carriage return it ends with; the line is given last character first. -/
def dropReturn {α : Type} [BEq α] (cr : α) : List α → List α
  | [] => []
  | c :: line => if c == cr then line else c :: line

/-- The lines of a sequence that is divided by `lf`, a `cr` in front of it left out. `line` holds the
    line begun so far, last first, and `done` the lines before it, last first. -/
def linesFrom {α : Type} [BEq α] (lf cr : α) (done : List (List α)) (line : List α) :
    List α → List (List α)
  | [] => (if line.isEmpty then done else line.reverse :: done).reverse
  | c :: cs =>
    if c == lf then linesFrom lf cr ((dropReturn cr line).reverse :: done) [] cs
    else linesFrom lf cr done (c :: line) cs

/-- The lines of a text. -/
def lines (cs : List Char) : List (List Char) := linesFrom '\n' '\r' [] [] cs

/-- The lines of a stream of bytes. -/
def byteLines (bs : List UInt8) : List (List UInt8) := linesFrom 10 13 [] [] bs

end CommandConsole.Text
