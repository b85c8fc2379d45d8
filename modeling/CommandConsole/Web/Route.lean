import CommandConsole.Text.Percent

/-!
# Routes

Which resources the web console has, and how each is asked for: some are read with `GET` or `HEAD`,
the others are acted on with `POST`. A path is compared as it arrives, without decoding and without
tidying; only what stands behind `/static/` is decoded, to the name of a file.
-/

namespace CommandConsole.Web

/-- The resources of the web console. -/
inductive Route where
  | page
  /-- A file, by its percent-encoded name. -/
  | asset (encoded : String)
  | health
  | captcha
  | captchaAnswer
  | session
  | login
  | logout
  | consent
  | panel
  | run
  | evaluate
  | commands
  deriving DecidableEq, Repr

namespace Route

/-- The resources at fixed paths. -/
def fixed : List (String × Route) := [
  ("/", .page),
  ("/index.html", .page),
  ("/api/health", .health),
  ("/api/captcha", .captcha),
  ("/api/captcha/verify", .captchaAnswer),
  ("/api/session", .session),
  ("/api/session/login", .login),
  ("/api/session/logout", .logout),
  ("/api/consent", .consent),
  ("/api/panel/toggle", .panel),
  ("/api/run", .run),
  ("/api/evaluate", .evaluate),
  ("/api/commands", .commands)]

/-- Where the files are. -/
def assetRoot : List Char := "/static/".toList

/-- The resource at a path. -/
def ofPath? (path : String) : Option Route :=
  match fixed.lookup path with
  | some r => some r
  | none =>
    let name := path.toList.drop assetRoot.length
    if assetRoot.isPrefixOf path.toList && !name.isEmpty then some (.asset (String.ofList name))
    else none

/-- The resource is read, not acted on. -/
def isRead : Route → Bool
  | page | asset _ | health | captcha | session | commands => true
  | captchaAnswer | login | logout | consent | panel | run | evaluate => false

/-- The methods by which a resource is asked for. -/
def methods (r : Route) : List String := if r.isRead then ["GET", "HEAD"] else ["POST"]

/-- The methods as the value of a header. -/
def allow (r : Route) : String := ",".intercalate r.methods

end Route

/-- The name of a file from its percent-encoded form, if it is text. -/
def assetName? (encoded : String) : Option String :=
  Text.Utf8.strict? (Text.percentDecode (Text.Utf8.encode encoded))

end CommandConsole.Web
