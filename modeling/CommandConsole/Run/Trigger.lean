import CommandConsole.Failure
import CommandConsole.Interpreter

/-!
# Runs that are held back

The outcome of a line is known at once but shown only after a delay. A `Trigger` knows the commands
and the delay; `Pending` is an outcome that waits for its moment. Time is counted in milliseconds.
-/

namespace CommandConsole

/-- The delay before an outcome is shown, unless another one is set: two seconds. -/
def defaultRunDelay : Nat := 2000

/-- What is shown while an outcome is held back. -/
def runningMessage : String := "Running... Please wait."

/-- Evaluates lines and holds their outcomes back. -/
structure Trigger where
  commands : CommandTable
  delay : Nat

/-- An outcome and the moment at which it may be shown. -/
structure Pending where
  outcome : Outcome
  dueAt : Nat
  deriving DecidableEq, Repr

namespace Trigger

/-- A trigger over the built-in commands. -/
def ofDelay (delay : Nat) : Trigger := { commands := Builtin.table, delay := delay }

/-- The outcome of a line without waiting; a blank line is refused. -/
def evaluateNow (t : Trigger) (input : String) : Except Failure Outcome :=
  if canRun input then .ok (t.commands.evaluate input) else .error .emptyInput

/-- A run begun at a moment: refused at once, or due after the delay. -/
def start (t : Trigger) (now : Nat) (input : String) : Except Failure Pending :=
  (t.evaluateNow input).map fun o => { outcome := o, dueAt := now + t.delay }

end Trigger

end CommandConsole
