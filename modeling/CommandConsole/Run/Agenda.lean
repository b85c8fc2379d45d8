import CommandConsole.Run.Trigger

/-!
# An agenda of runs in the background

Runs can be started in the background, looked at, given up and waited for. The agenda holds the
moment, the runs started so far by number, and whether the runs that fall due at this very moment
have had their turn.

* Time passes only by `advance` and by waiting, straight to the moment waited for.
* A run in the background is finished when its moment has passed, or has come and the run had its
  turn. A caller that waits out a delay of its own resumes before the background has its turn
  (`runNow`); every other step lets the background go first.
* Giving up a finished run has no effect. Waiting for a run takes it off the agenda.
-/

namespace CommandConsole

/-- A run in the background. -/
inductive Job where
  | held (run : Pending)
  | aborted
  deriving DecidableEq, Repr

/-- The moment and the runs in the background, by number. -/
structure Agenda where
  now : Nat
  /-- The runs that fall due at this moment have had their turn. -/
  settled : Bool
  /-- The runs in the order of their start; a run waited for leaves its place empty. -/
  jobs : List (Option Job)
  deriving DecidableEq, Repr

namespace Agenda

/-- Nothing started yet. -/
def new : Agenda := { now := 0, settled := true, jobs := [] }

/-- The job under a number, unless it was waited for or never started. -/
def job? (a : Agenda) (n : Nat) : Option Job := a.jobs[n]?.join

/-- A run that is due at this agenda's moment is finished. -/
def isDue (a : Agenda) (r : Pending) : Bool :=
  r.dueAt < a.now || (r.dueAt == a.now && a.settled)

/-- A job is over. -/
def isFinished (a : Agenda) : Job → Bool
  | .aborted => true
  | .held r => a.isDue r

/-- Lets time pass; whatever falls due has its turn. -/
def advance (a : Agenda) (ms : Nat) : Agenda :=
  { a with now := a.now + ms, settled := true }

/-- Starts a run in the background and answers its number. -/
def spawn (a : Agenda) (t : Trigger) (input : String) : Except Failure Nat × Agenda :=
  match t.start a.now input with
  | .error e => (.error e, a)
  | .ok r => (.ok a.jobs.length, { a with settled := true, jobs := a.jobs ++ [some (.held r)] })

/-- Runs a line and waits its delay out. -/
def runNow (a : Agenda) (t : Trigger) (input : String) : Except Failure Outcome × Agenda :=
  match t.evaluateNow input with
  | .error e => (.error e, a)
  | .ok o =>
    (.ok o, { a with now := a.now + t.delay, settled := a.settled && t.delay == 0 })

/-- Gives a run up, unless it is finished. -/
def abort (a : Agenda) (n : Nat) : Agenda :=
  match a.job? n with
  | none => a
  | some j =>
    { a with
      settled := true
      jobs := if a.isFinished j then a.jobs else a.jobs.set n (some .aborted) }

/-- Waits for a run and takes it off the agenda; none if there is no such run. -/
def wait (a : Agenda) (n : Nat) : Option (Except Failure Outcome) × Agenda :=
  match a.job? n with
  | none => (none, a)
  | some .aborted => (some (.error .runAborted), { a with jobs := a.jobs.set n none })
  | some (.held r) =>
    let jobs := a.jobs.set n none
    if a.isDue r then (some (.ok r.outcome), { a with jobs := jobs })
    else (some (.ok r.outcome), { now := max a.now r.dueAt, settled := true, jobs := jobs })

end Agenda

end CommandConsole
