import CommandConsole.Failure
import CommandConsole.Json.Tree
import CommandConsole.Json.Value
import CommandConsole.Text.Blank
import CommandConsole.Text.Percent

/-!
# Requests and responses

A request has a method, a target, headers and a body of bytes. A response has a status, the headers
that matter to a client, and a body that is empty, a JSON value or a text. Header names are compared
without regard to case.
-/

namespace CommandConsole.Web

/-! ## 1. Requests -/

/-- A request as it arrives. -/
structure Request where
  method : String
  /-- The path, and behind a question mark the query. -/
  target : String
  headers : List (String × String)
  body : List UInt8
  deriving DecidableEq, Repr

/-- The header that carries the token of a session. -/
def sessionHeader : String := "x-cysim-session"

namespace Request

/-- The target without a fragment. -/
def resource (r : Request) : List Char := r.target.toList.takeWhile (· != '#')

/-- The path, percent-encoded as it arrives. -/
def path (r : Request) : String := String.ofList (r.resource.takeWhile (· != '?'))

/-- The query, empty if there is none. -/
def query (r : Request) : String := String.ofList ((r.resource.dropWhile (· != '?')).drop 1)

/-- A header value is readable when it has only visible ASCII characters, spaces and tabulations. -/
def isReadable (value : String) : Bool :=
  value.toList.all fun c => c == '\t' || (32 ≤ c.toNat && c.toNat < 127)

/-- The first value of a header, if it is readable. -/
def header? (r : Request) (name : String) : Option String :=
  ((r.headers.find? fun h => h.1.toLower == name).map Prod.snd).filter isReadable

/-- The token of a session, without the blanks around it. -/
def token? (r : Request) : Option String :=
  ((r.header? sessionHeader).map Text.trimmed).filter fun t => !t.isEmpty

end Request

/-! ## 2. Responses -/

/-- The body of a response. -/
inductive Body where
  | empty
  | json (value : Json)
  | text (s : String)

/-- A response. -/
structure Response where
  status : Nat
  headers : List (String × String)
  body : Body

namespace Response

/-- A response without a body. -/
def bare (status : Nat) : Response := { status := status, headers := [], body := .empty }

/-- A JSON value as a response. -/
def ofJson (status : Nat) (value : Json) : Response :=
  { status := status, headers := [("content-type", "application/json")], body := .json value }

/-- A text as a response. -/
def ofText (status : Nat) (contentType text : String) : Response :=
  { status := status, headers := [("content-type", contentType)], body := .text text }

/-- The content type of unadorned text. -/
def plainText : String := "text/plain; charset=utf-8"

/-- A failure told by its message. -/
def ofMessage (status : Nat) (message : String) : Response :=
  ofJson status (.object [("error", .string message)])

/-- The status for a failure: the client's faults one by one, all others together. -/
def failureStatus : Failure → Nat
  | .emptyInput | .invalidConsent _ | .captchaIncorrect => 400
  | .notLoggedIn => 401
  | .captchaRequired => 403
  | .unknownChallenge _ => 404
  | .runInProgress => 409
  | .sessionEnded => 410
  | .io _ | .serialization _ | .runAborted | .invalidConfig _ | .internal _ => 500

/-- A failure as a response. -/
def ofFailure (e : Failure) : Response := ofMessage (failureStatus e) e.message

/-- The response without its body. -/
def withoutBody (r : Response) : Response := { r with body := .empty }

/-- The response with further headers. -/
def withHeaders (r : Response) (more : List (String × String)) : Response :=
  { r with headers := r.headers ++ more }

end Response

/-! ## 3. Refusals -/

/-- Why a request is refused before anything is done for it. -/
inductive Refusal where
  /-- The body is not announced as JSON. -/
  | notJson
  /-- The body is greater than a request may be. -/
  | tooLarge
  /-- The body is no JSON text. -/
  | malformed
  /-- The body is JSON of another shape. -/
  | mismatch
  /-- The query gives a field twice. -/
  | repeatedField
  /-- The path does not decode to text. -/
  | badPath
  deriving DecidableEq, Repr

namespace Refusal

/-- The status of a refusal. -/
def status : Refusal → Nat
  | notJson => 415
  | tooLarge => 413
  | malformed | repeatedField | badPath => 400
  | mismatch => 422

/-- The text of a refusal. -/
def message : Refusal → String
  | notJson => "The request body is not announced as JSON"
  | tooLarge => "The request body is too large"
  | malformed => "The request body is not a JSON text"
  | mismatch => "The request body has an unexpected shape"
  | repeatedField => "The query gives a field twice"
  | badPath => "The path is not UTF-8 text"

/-- A refusal as a response. -/
def response (r : Refusal) : Response := .ofText r.status Response.plainText r.message

end Refusal

end CommandConsole.Web
