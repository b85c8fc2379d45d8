/-!
# Failures

Evaluating a line never fails. What can fail is what stands around it: the session, the captcha, a
run that is held back, the settings and the files. Each failure is a cause with the data its message
needs; the wording is in `Failure.message`.
-/

namespace CommandConsole

/-- Why an operation of the console was refused or did not succeed. -/
inductive Failure where
  /-- Reading or writing a file failed; the text says how. -/
  | io (reason : String)
  /-- A value could not be read from its JSON text. -/
  | serialization (reason : String)
  | emptyInput
  | notLoggedIn
  | captchaRequired
  | captchaIncorrect
  | invalidConsent (choice : String)
  | unknownChallenge (id : String)
  | runInProgress
  | sessionEnded
  | runAborted
  | invalidConfig (reason : String)
  | internal (reason : String)
  deriving DecidableEq, Repr

namespace Failure

/-- The message of a failure. -/
def message : Failure → String
  | io reason => "IO error: " ++ reason
  | serialization reason => "Serialization error: " ++ reason
  | emptyInput => "Nothing to run: the command input is empty"
  | notLoggedIn => "Not logged in"
  | captchaRequired => "Captcha verification required"
  | captchaIncorrect => "Incorrect answer, please try again."
  | invalidConsent choice => "Unknown consent choice: " ++ choice
  | unknownChallenge id => "Unknown captcha challenge: " ++ id
  | runInProgress => "A command is already running"
  | sessionEnded => "Session ended before the result was delivered"
  | runAborted => "Run was aborted"
  | invalidConfig reason => "Invalid configuration: " ++ reason
  | internal reason => "Internal error: " ++ reason

/-- The failures that the caller causes, not the system. -/
def isClientFault : Failure → Bool
  | emptyInput | notLoggedIn | captchaRequired | captchaIncorrect | invalidConsent _
  | unknownChallenge _ | runInProgress | sessionEnded => true
  | io _ | serialization _ | runAborted | invalidConfig _ | internal _ => false

end Failure

end CommandConsole
