import CommandConsole.Failure
import CommandConsole.Net.SocketAddress
import CommandConsole.Run.Trigger
import CommandConsole.Text.Blank
import CommandConsole.Text.Decimal
import CommandConsole.Text.Utf8
import CommandConsole.Toml.Reader
import CommandConsole.Wire.Basic

/-!
# Settings of the web console

Where the console listens, how long a run is held back, and the rules for captchas and sessions. The
settings come in layers: the defaults, a file in TOML, two environment variables, and the options of
the command line. What a layer does not give it leaves alone.

* A file may give any of the settings; what it does not name keeps its default, and names that are
  not known are passed over. A table may also be written as an array of its values in order.
* An environment variable that is blank counts as absent. The address is taken over before the delay
  is looked at.
* Settings are saved as a file that is read back to the same settings. A number that TOML cannot
  hold is refused before anything is written.
-/

namespace CommandConsole

/-! ## 1. The settings -/

/-- The rules for captchas. -/
structure CaptchaSettings where
  /-- A solved challenge is needed to log in. -/
  required : Bool
  /-- A login may ask to skip the challenge. -/
  allowSkip : Bool
  /-- How long a challenge stays valid, in seconds. -/
  ttlSecs : UInt64
  deriving DecidableEq, Repr

/-- The rules for sessions. -/
structure SessionSettings where
  /-- How long a session may be left alone, in seconds. -/
  idleTtlSecs : UInt64
  deriving DecidableEq, Repr

/-- The settings of the web console. -/
structure Settings where
  /-- The address to listen on, as text. -/
  listen : String
  /-- How long an outcome is held back, in milliseconds. -/
  runDelayMs : UInt64
  captcha : CaptchaSettings
  session : SessionSettings
  deriving DecidableEq, Repr

/-- Captchas are required, may be skipped, and stay valid for five minutes. -/
def CaptchaSettings.default : CaptchaSettings :=
  { required := true, allowSkip := true, ttlSecs := 300 }

/-- A session may be left alone for half an hour. -/
def SessionSettings.default : SessionSettings := { idleTtlSecs := 1800 }

namespace Settings

/-- The settings without any file. -/
def default : Settings :=
  { listen := "127.0.0.1:8080"
    runDelayMs := UInt64.ofNat defaultRunDelay
    captcha := .default
    session := .default }

/-- How long an outcome is held back, in milliseconds. -/
def runDelay (s : Settings) : Nat := s.runDelayMs.toNat

/-- How long a challenge stays valid, in milliseconds. -/
def captchaTtl (s : Settings) : Nat := 1000 * s.captcha.ttlSecs.toNat

/-- How long a session may be left alone, in milliseconds. -/
def sessionIdleTtl (s : Settings) : Nat := 1000 * s.session.idleTtlSecs.toNat

/-- The address to listen on. -/
def listenAddress (s : Settings) : Except Failure Net.SocketAddress :=
  match Net.SocketAddress.ofString s.listen with
  | some a => .ok a
  | none => .error (.invalidConfig ("invalid listen address: " ++ s.listen))

end Settings

/-! ## 2. JSON form -/

instance : Wire CaptchaSettings where
  toJson s := .object [
    ("required", .bool s.required), ("allow_skip", .bool s.allowSkip),
    ("ttl_secs", Wire.toJson s.ttlSecs)]
  reader t := do
    let r ← Json.Record.ofTree
      [("required", Wire.check Bool), ("allow_skip", Wire.check Bool),
        ("ttl_secs", Wire.check UInt64)] t
    return {
      required := ← r.getOr "required" .bool CaptchaSettings.default.required
      allowSkip := ← r.getOr "allow_skip" .bool CaptchaSettings.default.allowSkip
      ttlSecs := ← r.getOr "ttl_secs" Wire.reader CaptchaSettings.default.ttlSecs }

instance : Wire SessionSettings where
  toJson s := .object [("idle_ttl_secs", Wire.toJson s.idleTtlSecs)]
  reader t := do
    let r ← Json.Record.ofTree [("idle_ttl_secs", Wire.check UInt64)] t
    return {
      idleTtlSecs := ← r.getOr "idle_ttl_secs" Wire.reader SessionSettings.default.idleTtlSecs }

instance : Wire Settings where
  toJson s := .object [
    ("listen", .string s.listen), ("run_delay_ms", Wire.toJson s.runDelayMs),
    ("captcha", Wire.toJson s.captcha), ("session", Wire.toJson s.session)]
  reader t := do
    let r ← Json.Record.ofTree
      [("listen", Wire.check String), ("run_delay_ms", Wire.check UInt64),
        ("captcha", Wire.check CaptchaSettings), ("session", Wire.check SessionSettings)] t
    return {
      listen := ← r.getOr "listen" .text Settings.default.listen
      runDelayMs := ← r.getOr "run_delay_ms" Wire.reader Settings.default.runDelayMs
      captcha := ← r.getOr "captcha" Wire.reader CaptchaSettings.default
      session := ← r.getOr "session" Wire.reader SessionSettings.default }

/-! ## 3. Reading a file -/

namespace Toml

/-- A string. -/
def asString : Toml → Option String
  | .string s => some s
  | _ => none

/-- A truth value. -/
def asBool : Toml → Option Bool
  | .boolean b => some b
  | _ => none

/-- A number that is not negative. -/
def asWord : Toml → Option UInt64
  | .integer n => if 0 ≤ n then some (UInt64.ofNat n.toNat) else none
  | _ => none

/-- The values of a table by the names of its fields. An array gives them in order; a moment is a
    table none of whose fields are known. -/
def fieldsOf (names : List String) : Toml → Option (List (String × Toml))
  | .table es => some es
  | .array vs => some (names.zip vs)
  | .moment _ => some []
  | _ => none

/-- A field that keeps its default when it is not given. -/
def field {α : Type} (es : List (String × Toml)) (name : String) (read : Toml → Option α)
    (default : α) : Option α :=
  match es.lookup name with
  | none => some default
  | some v => read v

end Toml

/-- The rules for captchas in a file. -/
def CaptchaSettings.ofToml? (v : Toml) : Option CaptchaSettings := do
  let es ← v.fieldsOf ["required", "allow_skip", "ttl_secs"]
  return {
    required := ← Toml.field es "required" Toml.asBool CaptchaSettings.default.required
    allowSkip := ← Toml.field es "allow_skip" Toml.asBool CaptchaSettings.default.allowSkip
    ttlSecs := ← Toml.field es "ttl_secs" Toml.asWord CaptchaSettings.default.ttlSecs }

/-- The rules for sessions in a file. -/
def SessionSettings.ofToml? (v : Toml) : Option SessionSettings := do
  let es ← v.fieldsOf ["idle_ttl_secs"]
  return {
    idleTtlSecs :=
      ← Toml.field es "idle_ttl_secs" Toml.asWord SessionSettings.default.idleTtlSecs }

namespace Settings

/-- The settings of a document. -/
def ofEntries? (es : List (String × Toml)) : Option Settings := do
  return {
    listen := ← Toml.field es "listen" Toml.asString default.listen
    runDelayMs := ← Toml.field es "run_delay_ms" Toml.asWord default.runDelayMs
    captcha := ← Toml.field es "captcha" CaptchaSettings.ofToml? CaptchaSettings.default
    session := ← Toml.field es "session" SessionSettings.ofToml? SessionSettings.default }

/-- The settings in the text of a file. The text of the error is a stand-in: the place and the kind of a
    fault, which a reader of the format would tell, are not modelled, only that there is one. -/
def ofText (text : String) : Except Failure Settings :=
  match (Toml.ofString text).bind ofEntries? with
  | some s => .ok s
  | none => .error (.invalidConfig "the file is no table of settings")

/-- What stands where a file of settings is looked for. -/
inductive Source where
  | absent
  | file (bytes : List UInt8)
  /-- Something that cannot be read as a file. -/
  | unreadable
  deriving DecidableEq, Repr

/-- The settings from where a file is looked for. Without a file they are the defaults. The texts of the
    errors about a file that cannot be read are stand-ins for what the system says of it. -/
def load : Source → Except Failure Settings
  | .absent => .ok default
  | .unreadable => .error (.io "the file cannot be read")
  | .file bytes =>
    match Text.Utf8.strict? bytes with
    | some text => ofText text
    | none => .error (.io "the file is no UTF-8 text")

/-! ## 4. Environment and options -/

/-- The environment variable for the address to listen on. -/
def addressVariable : String := "CYSIM_WEB_ADDR"

/-- The environment variable for the delay. -/
def delayVariable : String := "CYSIM_RUN_DELAY_MS"

/-- The value of an environment variable that is not blank. -/
def given (value? : Option String) : Option String :=
  value?.filter fun v => !Text.allBlank v

/-- The settings with the address of an environment variable. -/
def withAddress (s : Settings) (value? : Option String) : Settings :=
  match given value? with
  | some v => { s with listen := Text.trimmed v }
  | none => s

/-- The settings with the delay of an environment variable, which has to be a number. -/
def withDelay (s : Settings) (value? : Option String) : Except Failure Settings :=
  match given value? with
  | none => .ok s
  | some v =>
    match Text.word64? (Text.trim v.toList) with
    | some n => .ok { s with runDelayMs := n }
    | none => .error (.invalidConfig (delayVariable ++ "=" ++ v))

/-- Takes over the environment variables and says whether that succeeded. The settings are given
    back in either case: the address is taken over even where the delay is refused. -/
def applyEnvironment (s : Settings) (address delay : Option String) :
    Except Failure Unit × Settings :=
  let s := s.withAddress address
  match s.withDelay delay with
  | .ok s => (.ok (), s)
  | .error e => (.error e, s)

/-- Takes over the options of the command line. -/
def withOptions (s : Settings) (listen : Option String) (delay : Option UInt64) : Settings :=
  { s with listen := listen.getD s.listen, runDelayMs := delay.getD s.runDelayMs }

/-- The settings after all layers. -/
def layered (source : Source) (address delay listen : Option String) (option : Option UInt64) :
    Except Failure Settings := do
  let s ← load source
  let (done, s) := s.applyEnvironment address delay
  done
  return s.withOptions listen option

/-! ## 5. Saving -/

/-- A number in a file; TOML holds none beyond 63 bits. The text of the error is a stand-in for what a
    writer of the format says. -/
def writeWord (n : UInt64) : Except Failure String :=
  if n.toNat ≤ 9223372036854775807 then .ok (toString n.toNat)
  else .error (.invalidConfig "a number is too great for the file")

/-- A truth value in a file. -/
def writeBool (b : Bool) : String := if b then "true" else "false"

/-- One setting as a line. -/
def line (key value : String) : String := key ++ " = " ++ value ++ "\n"

/-- The settings as the text of a file. -/
def toText (s : Settings) : Except Failure String := do
  let delay ← writeWord s.runDelayMs
  let captchaTtl ← writeWord s.captcha.ttlSecs
  let idleTtl ← writeWord s.session.idleTtlSecs
  return line "listen" (String.ofList (Toml.writeString s.listen.toList))
    ++ line "run_delay_ms" delay
    ++ "\n[captcha]\n"
    ++ line "required" (writeBool s.captcha.required)
    ++ line "allow_skip" (writeBool s.captcha.allowSkip)
    ++ line "ttl_secs" captchaTtl
    ++ "\n[session]\n"
    ++ line "idle_ttl_secs" idleTtl

end Settings

end CommandConsole
