import CommandConsole.Release
import CommandConsole.Settings
import CommandConsole.Store
import CommandConsole.Web.Asset
import CommandConsole.Web.MediaType
import CommandConsole.Web.Route
import CommandConsole.Wire.Session

/-!
# The web console

How each request is answered. A request is one step: it is given the occasion (the moments on the
two clocks and the random values it may need) and comes to a response and the console afterwards.

* Only `POST /api/run` is not answered at once: a run that is admitted is held until its delay is
  over (`HeldRun`), and is then delivered in a second step, whether its client is still there or
  not. In between the session counts as running.
* A body is read before the token of a session is looked for. The login alone does without its body:
  one that is refused counts as absent.
* Any origin may ask, and any `OPTIONS` request is told so.
-/

namespace CommandConsole.Web

/-! ## 1. The console and its surroundings -/

/-- The state of the web console. -/
structure Console where
  settings : Settings
  store : Store

/-- What the surroundings give to one step. -/
structure Occasion where
  /-- The moment by the calendar, by which things expire. -/
  now : Moment
  /-- The milliseconds since the console was started, by which runs are held back. -/
  uptime : Nat
  /-- The next challenge. -/
  challenge : Challenge
  /-- The token of the next session. -/
  token : String
  deriving DecidableEq, Repr

/-- A run that was admitted and is held back. -/
structure HeldRun where
  token : String
  ticket : RunTicket
  /-- The outcome and when it is due, or why there is none. -/
  pending : Except Failure Pending

/-- What a request comes to. -/
inductive Reply where
  | answered (r : Response)
  | held (run : HeldRun)

/-- A step of the console. -/
abbrev Step := Except CalendarFault (Reply × Console)

namespace Console

/-- A console in which nothing has happened yet. -/
def new (settings : Settings) : Console :=
  { settings := settings, store := .new settings.captchaTtl settings.sessionIdleTtl }

/-- What holds runs back. -/
def trigger (c : Console) : Trigger := .ofDelay c.settings.runDelay

/-- A response that leaves the console as it is. -/
def reply (c : Console) (r : Response) : Step := .ok (.answered r, c)

/-- A response with the store afterwards. -/
def replyWith (c : Console) (s : Store) (r : Response) : Step :=
  .ok (.answered r, { c with store := s })

/-- The response to an answer or a failure, with the store afterwards. -/
def replyResult {α : Type} (c : Console) (result : Store.Result α) (render : α → Response) :
    Step :=
  match result with
  | (.ok a, s) => c.replyWith s (render a)
  | (.error e, s) => c.replyWith s (.ofFailure e)

/-! ## 2. Reading requests -/

/-- How many bytes a body may have. -/
def maxBody : Nat := 2097152

/-- The value in the body of a request. -/
def readBody {α : Type} (reader : Json.Reader α) (r : Request) : Except Refusal α :=
  if !((r.header? "content-type").any MediaType.isJson) then .error .notJson
  else if maxBody < r.body.length then .error .tooLarge
  else
    match reader (Json.Tree.read (.ofBytes r.body)).1 with
    | .ok a => .ok a
    | .error .malformed => .error .malformed
    | .error .mismatch => .error .mismatch

/-- The field of a query by which a login asks to pass over the captcha. -/
def skipField : String := "skipCaptcha"

/-- Whether a query asks to pass over the captcha. -/
def wantsSkip (query : String) : Except Refusal Bool :=
  match (Text.formFields query).filter fun f => f.1 == skipField with
  | [] => .ok false
  | [f] => .ok (f.2 == "true" || f.2 == "1")
  | _ => .error .repeatedField

/-! ## 3. Resources that are read -/

/-- A sign of life. -/
def health : Response :=
  .ofJson 200 (.object [
    ("status", .string "ok"), ("service", .string webProgram), ("version", .string version)])

/-- The listing of all commands. -/
def listing : Response :=
  .ofJson 200 (.array ((Builtin.table.summaries false).map CommandSummary.toJson))

/-- A file by its percent-encoded name. -/
def file (encoded : String) : Response :=
  match assetName? encoded with
  | some name => Asset.serve name
  | none => Refusal.badPath.response

/-- Puts a challenge. -/
def putChallenge (c : Console) (o : Occasion) : Step := do
  let (view, s) ← c.store.issue o.now o.challenge
  c.replyWith s (.ofJson 200 (Wire.toJson view))

/-- Tells the status of a session. -/
def tellStatus (c : Console) (o : Occasion) (r : Request) : Step := do
  let (status, s) ← c.store.status o.now r.token?
  c.replyWith s (.ofJson 200 (Wire.toJson status))

/-! ## 4. Logging in and out -/

/-- The response to an answer to a challenge. -/
def verdictResponse : Verdict → Response
  | .solved => .ofJson 200 (Wire.toJson ({ valid := true, error := none, next := none } : CaptchaAnswer))
  | .retry next =>
    .ofJson 200 (Wire.toJson
      ({ valid := false, error := some Failure.captchaIncorrect.message, next := some next } :
        CaptchaAnswer))

/-- Judges an answer to a challenge. -/
def judge (c : Console) (o : Occasion) (r : Request) : Step :=
  match readBody CaptchaRequest.reader r with
  | .error refusal => c.reply refusal.response
  | .ok q => do
    let result ← c.store.verify o.now q.id q.answer o.challenge
    c.replyResult result verdictResponse

/-- The captcha is passed over when it is not required, or when skipping is allowed and asked for. -/
def bypasses (c : Console) (skip : Bool) : Bool :=
  !c.settings.captcha.required || (c.settings.captcha.allowSkip && skip)

/-- The challenge that a login names; a body that is refused names none. -/
def namedChallenge (r : Request) : Option String :=
  match readBody LoginRequest.reader r with
  | .ok q => q.captchaId
  | .error _ => none

/-- Logs a visitor in. -/
def login (c : Console) (o : Occasion) (r : Request) : Step :=
  match wantsSkip r.query with
  | .error refusal => c.reply refusal.response
  | .ok skip => do
    match ← c.store.login o.now (namedChallenge r) (c.bypasses skip) o.token with
    | (.error e, s) => c.replyWith s (.ofFailure e)
    | (.ok token, s) => do
      let (status, s) ← s.status o.now (some token)
      c.replyWith s (.ofJson 200 (Wire.toJson ({ token := token, status := status } : LoginAnswer)))

/-- Lets a step be done for the session whose token the request carries. -/
def withToken (c : Console) (r : Request) (step : String → Step) : Step :=
  match r.token? with
  | none => c.reply (.ofFailure .notLoggedIn)
  | some token => step token

/-- Logs a visitor out. -/
def logout (c : Console) (r : Request) : Step :=
  c.withToken r fun token =>
    c.replyResult (c.store.logout token) fun () => .bare 204

/-! ## 5. The session -/

/-- Keeps a choice about cookies and tells the status afterwards. -/
def keepConsent (c : Console) (o : Occasion) (r : Request) : Step :=
  match readBody ConsentRequest.reader r with
  | .error refusal => c.reply refusal.response
  | .ok q =>
    c.withToken r fun token => do
      match ← c.store.setConsent o.now token q.choice with
      | (.error e, s) => c.replyWith s (.ofFailure e)
      | (.ok (), s) => do
        let (status, s) ← s.status o.now (some token)
        c.replyWith s (.ofJson 200 (Wire.toJson status))

/-- Turns the panel over. -/
def turnPanel (c : Console) (o : Occasion) (r : Request) : Step :=
  c.withToken r fun token => do
    let result ← c.store.togglePanel o.now token
    c.replyResult result fun panel =>
      .ofJson 200 (Wire.toJson ({ panel := panel } : PanelAnswer))

/-! ## 6. Runs -/

/-- An outcome as a response. -/
def outcomeResponse (o : Outcome) : Response := .ofJson 200 (Wire.toJson (RunAnswer.ofOutcome o))

/-- Evaluates a line at once, without a session. -/
def evaluateNow (c : Console) (r : Request) : Step :=
  match readBody RunRequest.reader r with
  | .error refusal => c.reply refusal.response
  | .ok q =>
    match c.trigger.evaluateNow q.input with
    | .error e => c.reply (.ofFailure e)
    | .ok outcome => c.reply (outcomeResponse outcome)

/-- Admits a run and holds it back. -/
def beginRun (c : Console) (o : Occasion) (token input : String) : Step := do
  match ← c.store.beginRun o.now token input with
  | (.error e, s) => c.replyWith s (.ofFailure e)
  | (.ok ticket, s) =>
    let run : HeldRun :=
      { token := token, ticket := ticket, pending := c.trigger.start o.uptime input }
    return (.held run, { c with store := s })

/-- Runs a line for a session. -/
def run (c : Console) (o : Occasion) (r : Request) : Step :=
  match readBody RunRequest.reader r with
  | .error refusal => c.reply refusal.response
  | .ok q => c.withToken r fun token => c.beginRun o token q.input

/-- Delivers a run whose delay is over: its session is released, and the outcome is the response
    unless the session has ended. -/
def deliver (c : Console) (now : Moment) (run : HeldRun) :
    Except CalendarFault (Response × Console) := do
  match ← c.store.finishRun now run.token run.ticket with
  | (.error e, s) => return (.ofFailure e, { c with store := s })
  | (.ok (), s) =>
    match run.pending with
    | .error e => return (.ofFailure e, { c with store := s })
    | .ok p => return (outcomeResponse p.outcome, { c with store := s })

/-! ## 7. Every request -/

/-- A request for a resource by one of its methods. -/
def serve (c : Console) (o : Occasion) (r : Request) : Route → Step
  | .page => c.reply Asset.page
  | .asset encoded => c.reply (file encoded)
  | .health => c.reply health
  | .commands => c.reply listing
  | .captcha => c.putChallenge o
  | .captchaAnswer => c.judge o r
  | .session => c.tellStatus o r
  | .login => c.login o r
  | .logout => c.logout r
  | .consent => c.keepConsent o r
  | .panel => c.turnPanel o r
  | .run => c.run o r
  | .evaluate => c.evaluateNow r

/-- The headers that let any origin ask. -/
def openHeaders : List (String × String) := [
  ("access-control-allow-origin", "*"),
  ("vary", "origin, access-control-request-method, access-control-request-headers")]

/-- The response to an `OPTIONS` request: any method and any header may be used. -/
def permissions (route : Option Route) : Response :=
  (Response.bare 200).withHeaders
    ((route.map fun r => ("allow", r.allow)).toList ++
      [("access-control-allow-methods", "*"), ("access-control-allow-headers", "*")])

/-- The answer to a path at which there is nothing. -/
def nothingThere : Response := .ofMessage 404 "not found"

/-- What the console has to say to a request; the headers for other origins are added later. -/
def respond (c : Console) (o : Occasion) (r : Request) : Step :=
  let route := Route.ofPath? r.path
  if r.method = "OPTIONS" then c.reply (permissions route)
  else
    match route with
    | none => c.reply nothingThere
    | some route =>
      if route.methods.contains r.method then c.serve o r route
      else c.reply ((Response.bare 405).withHeaders [("allow", route.allow)])

/-- The response as it is sent: the body is left out for `HEAD` where there is a resource, and any
    origin is allowed to read it. -/
def sent (r : Request) (response : Response) : Response :=
  let hidden := r.method = "HEAD" && (Route.ofPath? r.path).isSome
  (if hidden then response.withoutBody else response).withHeaders openHeaders

end Console

end CommandConsole.Web
