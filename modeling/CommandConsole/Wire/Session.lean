import CommandConsole.Captcha
import CommandConsole.Session.Gate
import CommandConsole.Wire.Outcome

/-!
# Requests and answers on the wire

The JSON forms of what the web console is sent and what it answers: challenges, the status of a
session, choices, panels, and the answers to a run, a login and a captcha. A request is only read.
-/

namespace CommandConsole

/-! ## 1. Words -/

/-- The choice that a word names. -/
def Consent.ofName? (s : String) : Option Consent := (Consent.ofString s).toOption

/-- The state of the panel that a word names. -/
def Panel.ofName? (s : String) : Option Panel :=
  if s = "collapsed" then some .collapsed
  else if s = "expanded" then some .expanded
  else none

instance : Wire Consent where
  toJson c := .string c.name
  reader := .word Consent.ofName?

instance : Wire Panel where
  toJson p := .string p.name
  reader := .word Panel.ofName?

/-! ## 2. Challenges and the status of a session -/

instance : Wire Challenge where
  toJson c := .object [
    ("id", .string c.id), ("left", Wire.toJson c.left), ("right", Wire.toJson c.right)]
  reader t := do
    let r ← Json.Record.ofTree
      [("id", Wire.check String), ("left", Wire.check UInt32), ("right", Wire.check UInt32)] t
    return {
      id := ← r.get "id" .text
      left := ← r.get "left" Wire.reader
      right := ← r.get "right" Wire.reader }

instance : Wire ChallengeView where
  toJson v := .object [("id", .string v.id), ("question", .string v.question)]
  reader t := do
    let r ← Json.Record.ofTree [("id", Wire.check String), ("question", Wire.check String)] t
    return { id := ← r.get "id" .text, question := ← r.get "question" .text }

instance : Wire SessionStatus where
  toJson s := .object [
    ("logged_in", .bool s.loggedIn), ("running", .bool s.running),
    ("consent", Wire.orNull s.consent), ("show_consent_banner", .bool s.showConsentBanner),
    ("panel", Wire.toJson s.panel)]
  reader t := do
    let r ← Json.Record.ofTree
      [("logged_in", Wire.check Bool), ("running", Wire.check Bool),
        ("consent", Wire.checkOrNull Consent), ("show_consent_banner", Wire.check Bool),
        ("panel", Wire.check Panel)] t
    return {
      loggedIn := ← r.get "logged_in" .bool
      running := ← r.get "running" .bool
      consent := ← r.getOrNull "consent" Wire.reader
      showConsentBanner := ← r.get "show_consent_banner" .bool
      panel := ← r.get "panel" Wire.reader }

/-! ## 3. Answers -/

/-- The answer to a run: the outcome with both of its renderings. -/
structure RunAnswer where
  outcome : Outcome
  text : String
  html : String
  deriving DecidableEq, Repr

/-- The answer that shows an outcome. -/
def RunAnswer.ofOutcome (o : Outcome) : RunAnswer := { outcome := o, text := o.text, html := o.html }

instance : Wire RunAnswer where
  toJson a := .object [
    ("outcome", Wire.toJson a.outcome), ("text", .string a.text), ("html", .string a.html)]
  reader t := do
    let outcome := Outcome.readerWithin (Json.maxDepth - 1)
    let r ← Json.Record.ofTree
      [("outcome", outcome.check), ("text", Wire.check String), ("html", Wire.check String)] t
    return {
      outcome := ← r.get "outcome" outcome
      text := ← r.get "text" .text
      html := ← r.get "html" .text }

/-- The answer to a login: the token of the session and its status. -/
structure LoginAnswer where
  token : String
  status : SessionStatus
  deriving DecidableEq, Repr

instance : Wire LoginAnswer where
  toJson a := .object [("token", .string a.token), ("status", Wire.toJson a.status)]
  reader t := do
    let r ← Json.Record.ofTree
      [("token", Wire.check String), ("status", Wire.check SessionStatus)] t
    return { token := ← r.get "token" .text, status := ← r.get "status" Wire.reader }

/-- The answer to an attempt at a captcha. What is absent is left out when it is written. -/
structure CaptchaAnswer where
  valid : Bool
  error : Option String
  next : Option ChallengeView
  deriving DecidableEq, Repr

/-- A field that is written only when it is there. -/
def optionalField {α : Type} [Wire α] (name : String) (a : Option α) : List (String × Json) :=
  (a.map fun v => (name, Wire.toJson v)).toList

instance : Wire CaptchaAnswer where
  toJson a := .object
    (("valid", .bool a.valid) :: optionalField "error" a.error ++ optionalField "next" a.next)
  reader t := do
    let r ← Json.Record.ofTree
      [("valid", Wire.check Bool), ("error", Wire.checkOrNull String),
        ("next", Wire.checkOrNull ChallengeView)] t
    return {
      valid := ← r.get "valid" .bool
      error := ← r.getOrNull "error" .text
      next := ← r.getOrNull "next" Wire.reader }

/-- The answer to turning the panel over. -/
structure PanelAnswer where
  panel : Panel
  deriving DecidableEq, Repr

instance : Wire PanelAnswer where
  toJson a := .object [("panel", Wire.toJson a.panel)]
  reader t := do
    let r ← Json.Record.ofTree [("panel", Wire.check Panel)] t
    return { panel := ← r.get "panel" Wire.reader }

/-! ## 4. Requests -/

/-- A login, with the challenge that was solved for it if there is one. -/
structure LoginRequest where
  captchaId : Option String
  deriving DecidableEq, Repr

/-- Reads a login. The challenge may be null or left out. -/
def LoginRequest.reader : Json.Reader LoginRequest := fun t => do
  let r ← Json.Record.ofTree [("captcha_id", Wire.checkOrNull String)] t
  return { captchaId := ← r.getOr "captcha_id" (Json.Reader.orNull .text) none }

/-- An attempt at a captcha. -/
structure CaptchaRequest where
  id : String
  answer : String
  deriving DecidableEq, Repr

/-- Reads an attempt at a captcha. -/
def CaptchaRequest.reader : Json.Reader CaptchaRequest := fun t => do
  let r ← Json.Record.ofTree [("id", Wire.check String), ("answer", Wire.check String)] t
  return { id := ← r.get "id" .text, answer := ← r.get "answer" .text }

/-- A choice about cookies. -/
structure ConsentRequest where
  choice : Consent
  deriving DecidableEq, Repr

/-- Reads a choice about cookies. -/
def ConsentRequest.reader : Json.Reader ConsentRequest := fun t => do
  let r ← Json.Record.ofTree [("choice", Wire.check Consent)] t
  return { choice := ← r.get "choice" Wire.reader }

/-- A line to be evaluated or run. -/
structure RunRequest where
  input : String
  deriving DecidableEq, Repr

/-- Reads a line to be evaluated or run. -/
def RunRequest.reader : Json.Reader RunRequest := fun t => do
  let r ← Json.Record.ofTree [("input", Wire.check String)] t
  return { input := ← r.get "input" .text }

end CommandConsole
