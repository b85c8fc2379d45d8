import CommandConsole.Run.Trigger
import CommandConsole.Terminal.Render
import CommandConsole.Text.Lines

/-!
# The loop that reads lines

Lines are read one after the other until one of them says `exit` or `quit`, or the input ends. A
blank line is passed over; every other line is run, and its outcome is written with a line end
behind it. Where someone types, a banner comes first and a prompt before each line.

* A line that is no UTF-8 text ends the loop with a failure, and so does a run that is refused; what
  was written before stays.
* Every run is waited for. The lines behind the one that ends the loop have no effect.
-/

namespace CommandConsole.Terminal

/-- How the loop is set up. -/
structure Repl where
  format : Format
  colour : Bool
  /-- Someone types, so there are a banner and prompts. -/
  interactive : Bool
  /-- How long every outcome is held back, in milliseconds. -/
  delay : Nat
  deriving DecidableEq, Repr

/-- How many outcomes of each category there were. -/
structure Tally where
  successes : Nat
  errors : Nat
  warnings : Nat
  help : Nat
  deriving DecidableEq, Repr

namespace Tally

/-- No outcome yet. -/
def zero : Tally := { successes := 0, errors := 0, warnings := 0, help := 0 }

/-- One outcome more. -/
def record (t : Tally) : Category → Tally
  | .success => { t with successes := t.successes + 1 }
  | .error => { t with errors := t.errors + 1 }
  | .warning => { t with warnings := t.warnings + 1 }
  | .help => { t with help := t.help + 1 }

/-- How many outcomes there were. -/
def runs (t : Tally) : Nat := t.successes + t.errors + t.warnings + t.help

end Tally

/-- What the loop has come to. -/
structure Transcript where
  /-- What was written, piece by piece. -/
  pieces : List String
  tally : Tally
  /-- The time that passed, in milliseconds. -/
  elapsed : Nat
  /-- The loop ended by the input, not by a failure. -/
  complete : Bool
  deriving DecidableEq, Repr

namespace Transcript

/-- What was written. -/
def output (t : Transcript) : String := String.join t.pieces

/-- Nothing was run any more. -/
def ending (complete : Bool) : Transcript :=
  { pieces := [], tally := .zero, elapsed := 0, complete := complete }

/-- Something was written before. -/
def after (piece : String) (t : Transcript) : Transcript := { t with pieces := piece :: t.pieces }

/-- An outcome was waited for and shown before. -/
def counting (c : Category) (wait : Nat) (t : Transcript) : Transcript :=
  { t with tally := t.tally.record c, elapsed := wait + t.elapsed }

end Transcript

namespace Repl

/-- The line that explains the loop to someone who types. -/
def banner : String := "Type \x60help\x60 for common commands, \x60exit\x60 to quit.\n"

/-- The prompt before a line. -/
def prompt (r : Repl) : String := if r.interactive then "> " else ""

/-- A line that ends the loop. -/
def isLeaving (line : String) : Bool :=
  Text.trimmed line == "exit" || Text.trimmed line == "quit"

/-- An outcome as it is written. -/
def shown (r : Repl) (o : Outcome) : String := renderOutcome r.format r.colour o ++ "\n"

/-- What a line asks of the loop. -/
inductive Move where
  /-- It ends the loop. -/
  | leave
  /-- It is blank and passed over. -/
  | pass
  /-- It is no text, so the loop fails. -/
  | refuse
  /-- Its run cannot be started, so the loop fails. -/
  | fail (reason : Failure)
  /-- It is run; the outcome is due at a moment counted from the line. -/
  | run (pending : Pending)
  deriving DecidableEq, Repr

/-- What the bytes of a line ask of the loop. -/
def move (r : Repl) (bytes : List UInt8) : Move :=
  match Text.Utf8.strict? bytes with
  | none => .refuse
  | some line =>
    if isLeaving line then .leave
    else if !canRun line then .pass
    else
      match (Trigger.ofDelay r.delay).start 0 line with
      | .error reason => .fail reason
      | .ok pending => .run pending

/-- The loop over the lines of the input. -/
def runLines (r : Repl) : List (List UInt8) → Transcript
  | [] => (Transcript.ending true).after r.prompt
  | bytes :: more =>
    match r.move bytes with
    | .leave => (Transcript.ending true).after r.prompt
    | .refuse => (Transcript.ending false).after r.prompt
    | .fail _ => (Transcript.ending false).after r.prompt
    | .pass => (r.runLines more).after r.prompt
    | .run p =>
      (((r.runLines more).counting p.outcome.category p.dueAt).after
        (r.shown p.outcome)).after r.prompt

/-- The loop over an input. -/
def run (r : Repl) (input : List UInt8) : Transcript :=
  let t := r.runLines (Text.byteLines input)
  if r.interactive then t.after banner else t

end Repl

end CommandConsole.Terminal
