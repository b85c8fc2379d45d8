import CommandConsole.Command.Describe
import CommandConsole.Main
import CommandConsole.Proofs.Call.Extraction
import CommandConsole.Proofs.Call.Reading
import CommandConsole.Proofs.Captcha
import CommandConsole.Proofs.Command.Repetitions
import CommandConsole.Proofs.Interpreter.Canonical
import CommandConsole.Proofs.Interpreter.Chain
import CommandConsole.Proofs.Interpreter.Echo
import CommandConsole.Proofs.Interpreter.Logged
import CommandConsole.Proofs.Interpreter.Padding
import CommandConsole.Proofs.Interpreter.Precedence
import CommandConsole.Proofs.Outcome.Fragment
import CommandConsole.Proofs.Session.History
import CommandConsole.Proofs.Settings.Layers
import CommandConsole.Proofs.Settings.Saved
import CommandConsole.Proofs.Store.Admission
import CommandConsole.Proofs.Store.Failures
import CommandConsole.Proofs.Store.Sweeps
import CommandConsole.Proofs.Store.TimeToLive
import CommandConsole.Proofs.Terminal.Linewise
import CommandConsole.Proofs.Terminal.Rendering
import CommandConsole.Proofs.Web.Courses
import CommandConsole.Proofs.Wire.RoundTrip
import CommandConsole.Run.Agenda
