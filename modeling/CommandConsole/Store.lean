import CommandConsole.Captcha
import CommandConsole.Session.Gate
import CommandConsole.Store.Clock
import CommandConsole.Store.Registry

/-!
# The store of sessions and challenges

All visitors of the web console share one store. It files the challenges that were put and not yet
used up, and the sessions that were opened and not yet closed. Every operation is one step: it is
given the present moment, and the random values that it may need (the next challenge, the token of
the next session), and comes to an answer and the store afterwards.

* A challenge is valid while it is younger than its time to live. A right answer marks it as solved;
  a wrong one removes it and puts the next; a login uses a solved one up.
* A session is live while a run is going on or while it was seen within its time to live. Finding it
  marks it as seen.
* Expired challenges go with every operation that consults the challenges; expired sessions go with
  every login, and one by one when they are looked up.
-/

namespace CommandConsole

/-! ## 1. What is filed -/

/-- A challenge that was put to someone. -/
structure Issued where
  challenge : Challenge
  issuedAt : Moment
  solved : Bool
  deriving DecidableEq, Repr

/-- A challenge put at a moment. -/
def Issued.ofChallenge (now : Moment) (c : Challenge) : Issued :=
  { challenge := c, issuedAt := now, solved := false }

/-- The challenge is younger than the cutoff. -/
def Issued.isValid (cutoff : Moment) (i : Issued) : Bool := cutoff < i.issuedAt

/-- A session that was opened, and when it was seen last. -/
structure Visit where
  gate : Gate
  lastSeen : Moment
  deriving DecidableEq, Repr

/-- A run is going on, or the session was seen after the cutoff. -/
def Visit.isLive (cutoff : Moment) (v : Visit) : Bool := v.gate.running || cutoff < v.lastSeen

/-- The challenges and sessions of all visitors. -/
structure Store where
  /-- How long a challenge stays valid, in milliseconds. -/
  captchaTtl : Nat
  /-- How long a session may be left alone, in milliseconds. -/
  idleTtl : Nat
  challenges : Registry Issued
  sessions : Registry Visit

/-- What an answer to a challenge comes to. -/
inductive Verdict where
  | solved
  /-- The answer is wrong; this challenge takes the place of the old one. -/
  | retry (next : ChallengeView)
  deriving DecidableEq, Repr

namespace Store

/-- What a step of the store comes to: an answer or a failure, and the store afterwards. -/
abbrev Result (α : Type) := Except Failure α × Store

/-- A store with nothing filed. -/
def new (captchaTtl idleTtl : Nat) : Store :=
  { captchaTtl := captchaTtl, idleTtl := idleTtl, challenges := .empty, sessions := .empty }

/-- How many sessions are filed. -/
def sessionCount (s : Store) : Nat := s.sessions.size

/-! ## 2. Challenges -/

/-- The store without the challenges that have expired. -/
def sweepChallenges (s : Store) (now : Moment) : Except CalendarFault Store := do
  let c ← cutoff now s.captchaTtl
  return { s with challenges := s.challenges.retain (Issued.isValid c) }

/-- Files a challenge as put at this moment. -/
def put (s : Store) (now : Moment) (c : Challenge) : Store :=
  { s with challenges := s.challenges.insert c.id (.ofChallenge now c) }

/-- Puts a challenge. -/
def issue (s : Store) (now : Moment) (fresh : Challenge) :
    Except CalendarFault (ChallengeView × Store) := do
  let s ← s.sweepChallenges now
  return (fresh.view, s.put now fresh)

/-- Judges an answer to a challenge. -/
def verify (s : Store) (now : Moment) (id answer : String) (fresh : Challenge) :
    Except CalendarFault (Result Verdict) :=
  if !Challenge.canSubmit answer then .ok (.error .emptyInput, s)
  else do
    let s ← s.sweepChallenges now
    match s.challenges.get? id with
    | none => return (.error (.unknownChallenge id), s)
    | some i =>
      if i.challenge.accepts answer then
        let i := { i with solved := true }
        return (.ok .solved, { s with challenges := s.challenges.insert id i })
      else
        let s := { s with challenges := s.challenges.erase id }
        return (.ok (.retry fresh.view), s.put now fresh)

/-- Uses a solved challenge up. -/
def takeSolved (s : Store) (now : Moment) (id : String) : Except CalendarFault (Result Unit) := do
  let s ← s.sweepChallenges now
  match s.challenges.get? id with
  | none => return (.error (.unknownChallenge id), s)
  | some i =>
    if i.solved then return (.ok (), { s with challenges := s.challenges.erase id })
    else return (.error .captchaRequired, s)

/-! ## 3. Sessions -/

/-- Whether a visitor may log in: always when the captcha is passed over, else with a solved
    challenge, which is used up. -/
def passCaptcha (s : Store) (now : Moment) (challenge : Option String) (bypass : Bool) :
    Except CalendarFault (Result Unit) :=
  if bypass then .ok (.ok (), s)
  else
    match challenge with
    | none => .ok (.error .captchaRequired, s)
    | some id => s.takeSolved now id

/-- Opens a session under a token; sessions that have expired are removed first. -/
def openSession (s : Store) (now : Moment) (token : String) : Except CalendarFault Store := do
  let c ← cutoff now s.idleTtl
  let swept := s.sessions.retain (Visit.isLive c)
  return { s with sessions := swept.insert token { gate := Gate.new.login, lastSeen := now } }

/-- Logs a visitor in and answers the token of the new session. -/
def login (s : Store) (now : Moment) (challenge : Option String) (bypass : Bool)
    (token : String) : Except CalendarFault (Result String) := do
  match ← s.passCaptcha now challenge bypass with
  | (.error e, s) => return (.error e, s)
  | (.ok (), s) => return (.ok token, ← s.openSession now token)

/-- Looks a session up. One that is live is marked as seen; one that has expired is removed. -/
def touch (s : Store) (now : Moment) (token : String) :
    Except CalendarFault (Option Gate × Store) := do
  let c ← cutoff now s.idleTtl
  match s.sessions.get? token with
  | none => return (none, s)
  | some v =>
    if v.isLive c then
      let v := { v with lastSeen := now }
      return (some v.gate, { s with sessions := s.sessions.insert token v })
    else return (none, { s with sessions := s.sessions.erase token })

/-- Closes a session, be it expired or not. -/
def logout (s : Store) (token : String) : Except Failure Unit × Store :=
  match s.sessions.get? token with
  | none => (.error .notLoggedIn, s)
  | some _ => (.ok (), { s with sessions := s.sessions.erase token })

/-- What a visitor is told; without a live session the same as before any login. -/
def status (s : Store) (now : Moment) (token : Option String) :
    Except CalendarFault (SessionStatus × Store) :=
  match token with
  | none => .ok (Gate.new.status, s)
  | some t => do
    let (found, s) ← s.touch now t
    return ((found.getD Gate.new).status, s)

/-- Lets the gate of a live session do something; `absent` is the failure if there is none. -/
def atGate {α : Type} (s : Store) (now : Moment) (token : String) (absent : Failure)
    (act : Gate → Except Failure α × Gate) : Except CalendarFault (Result α) := do
  match ← s.touch now token with
  | (none, s) => return (.error absent, s)
  | (some g, s) =>
    let (answer, g) := act g
    return (answer, { s with sessions := s.sessions.insert token { gate := g, lastSeen := now } })

/-- Keeps a choice about cookies. -/
def setConsent (s : Store) (now : Moment) (token : String) (choice : Consent) :
    Except CalendarFault (Result Unit) :=
  s.atGate now token .notLoggedIn fun g => (.ok (), g.setConsent choice)

/-- Turns the panel of a session over. -/
def togglePanel (s : Store) (now : Moment) (token : String) : Except CalendarFault (Result Panel) :=
  s.atGate now token .notLoggedIn fun g => (.ok g.togglePanel.panel, g.togglePanel)

/-- Admits a run. -/
def beginRun (s : Store) (now : Moment) (token input : String) :
    Except CalendarFault (Result RunTicket) :=
  s.atGate now token .notLoggedIn fun g => g.beginRun input

/-- Ends a run; without a live session it has nobody to be delivered to. -/
def finishRun (s : Store) (now : Moment) (token : String) (ticket : RunTicket) :
    Except CalendarFault (Result Unit) :=
  s.atGate now token .sessionEnded fun g => g.finishRun ticket

end Store

end CommandConsole
