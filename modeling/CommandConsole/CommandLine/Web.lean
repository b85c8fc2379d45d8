import CommandConsole.CommandLine.Console
import CommandConsole.Settings.Folder

/-!
# Starting the web console

The settings come from a file, the environment and the options, in this order, and the address to
listen on has to be one. Whatever is refused ends the process before it listens.
-/

namespace CommandConsole.CommandLine

/-- What may be given to the web console. -/
def webForm : Form :=
  { options := [
      { name := "config", letter := some 'c', value := .text fun v => !v.isEmpty },
      { name := "listen", letter := some 'l', value := .text fun _ => true },
      { name := "run-delay-ms", letter := none, value := .text isWord64 },
      { name := "debug", letter := some 'd', value := .none }]
    words := 0
    commands := [] }

/-- Where the settings are looked for, unless a path is given. -/
def defaultConfig : String := "cysim.toml"

/-- The settings that the arguments, the environment and a folder come to. -/
def webSettings (g : Given) (environment : String → Option String) (f : Folder) :
    Except Failure Settings :=
  let path := (g.value? "config").getD defaultConfig
  let delay := (g.value? "run-delay-ms").bind fun v => Text.word64? v.toList
  Settings.layered (f.find path) (environment Settings.addressVariable)
    (environment Settings.delayVariable) (g.value? "listen") delay

/-- The settings with the address to listen on. -/
def webStart (g : Given) (environment : String → Option String) (f : Folder) :
    Except Failure (Settings × Net.SocketAddress) := do
  let settings ← webSettings g environment f
  return (settings, ← settings.listenAddress)

/-- The web console as a process up to the moment at which it listens; none if it gets there. -/
def runWeb (args : List String) (environment : String → Option String) (f : Folder) :
    Option Ending :=
  match read webProgram webForm .nothing none args with
  | .error stop => some (.ofStop stop)
  | .ok g =>
    match webStart g environment f with
    | .error e =>
      some { code := 1, output := "", complaint := "Error: " ++ e.message ++ "\n" }
    | .ok _ => none

end CommandConsole.CommandLine
