import CommandConsole.Failure
import CommandConsole.Interpreter

/-!
# The session gate

What one visitor may do. A session is on the login page or logged in; every login opens a new
generation. A run is admitted when the visitor is logged in, no other run is going on and the input
is not blank; its ticket carries the generation, and only under the same generation can it be
finished. The choice about cookies outlasts logins and logouts; the output panel is folded up again
by each login.
-/

namespace CommandConsole

/-! ## 1. The parts of a session -/

/-- The visitor's choice about cookies. -/
inductive Consent where
  | accepted
  | declined
  deriving DecidableEq, Repr

/-- The word for a choice. -/
def Consent.name : Consent → String
  | .accepted => "accepted"
  | .declined => "declined"

/-- The choice that a word stands for, exactly. -/
def Consent.ofString (s : String) : Except Failure Consent :=
  if s = "accepted" then .ok .accepted
  else if s = "declined" then .ok .declined
  else .error (.invalidConsent s)

/-- How the output panel is shown. -/
inductive Panel where
  | collapsed
  | expanded
  deriving DecidableEq, Repr

/-- The word for a state of the panel. -/
def Panel.name : Panel → String
  | .collapsed => "collapsed"
  | .expanded => "expanded"

/-- The other state of the panel. -/
def Panel.toggle : Panel → Panel
  | .collapsed => .expanded
  | .expanded => .collapsed

/-- The admission of one run, under the generation of its login. -/
structure RunTicket where
  generation : Nat
  deriving DecidableEq, Repr

/-- A ticket as it is shown in a log. -/
def RunTicket.describe (t : RunTicket) : String :=
  "RunTicket \x7b generation: " ++ toString t.generation ++ " \x7d"

/-! ## 2. The gate -/

/-- The state of one session. -/
structure Gate where
  loggedIn : Bool
  generation : Nat
  running : Bool
  consent : Option Consent
  panel : Panel
  deriving DecidableEq, Repr

/-- What a visitor is told about the session. -/
structure SessionStatus where
  loggedIn : Bool
  running : Bool
  consent : Option Consent
  showConsentBanner : Bool
  panel : Panel
  deriving DecidableEq, Repr

namespace Gate

/-- The gate before any login. -/
def new : Gate :=
  { loggedIn := false, generation := 0, running := false, consent := none, panel := .collapsed }

/-- A login opens the next generation, idle and with the panel folded up. -/
def login (g : Gate) : Gate :=
  { g with loggedIn := true, generation := g.generation + 1, running := false, panel := .collapsed }

/-- Back to the login page. -/
def logout (g : Gate) : Gate := { g with loggedIn := false, running := false }

/-- A run of this input would be admitted. -/
def canRun (g : Gate) (input : String) : Bool :=
  g.loggedIn && !g.running && CommandConsole.canRun input

/-- Admits a run. Of several reasons to refuse, the login comes first, then a run that is going on,
    then blank input; a refusal leaves the gate as it is. -/
def beginRun (g : Gate) (input : String) : Except Failure RunTicket × Gate :=
  if !g.loggedIn then (.error .notLoggedIn, g)
  else if g.running then (.error .runInProgress, g)
  else if !CommandConsole.canRun input then (.error .emptyInput, g)
  else (.ok { generation := g.generation }, { g with running := true })

/-- Ends a run. The session has ended for it when the visitor has logged out, or in again, since the
    ticket was issued. -/
def finishRun (g : Gate) (t : RunTicket) : Except Failure Unit × Gate :=
  if !g.loggedIn || t.generation != g.generation then (.error .sessionEnded, g)
  else (.ok (), { g with running := false })

/-- Keeps a choice about cookies. -/
def setConsent (g : Gate) (choice : Consent) : Gate := { g with consent := some choice }

/-- The banner that asks about cookies is shown after login until a choice is made. -/
def showsConsentBanner (g : Gate) : Bool := g.loggedIn && g.consent.isNone

/-- Turns the panel over. -/
def togglePanel (g : Gate) : Gate := { g with panel := g.panel.toggle }

/-- What the visitor is told. -/
def status (g : Gate) : SessionStatus :=
  { loggedIn := g.loggedIn
    running := g.running
    consent := g.consent
    showConsentBanner := g.showsConsentBanner
    panel := g.panel }

end Gate

end CommandConsole
