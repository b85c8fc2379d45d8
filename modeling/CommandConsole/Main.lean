import CommandConsole.CommandLine.Web

/-!
# The programs

One executable for both programs; the name under which it is called says which one is meant. It
hands the arguments, the environment, the input and the files over, waits where an outcome is held
back, and writes what comes back. The web console is started up to the moment at which it would
listen.
-/

namespace CommandConsole

open CommandLine

/-- Writes what a process leaves behind and answers its exit code. -/
def leave (e : Ending) : IO UInt32 := do
  (← IO.getStdout).putStr e.output
  (← IO.getStderr).putStr e.complaint
  return UInt32.ofNat e.code

/-- The environment variables that the programs look at. -/
def environmentVariables : List String :=
  [colourVariable, Settings.addressVariable, Settings.delayVariable]

/-- The environment as far as it is looked at. -/
def environment : IO (String → Option String) := do
  let values ← environmentVariables.mapM fun name => return (name, ← IO.getEnv name)
  return fun name => (values.lookup name).join

/-! ## 1. On a terminal -/

/-- Waits for a delay. -/
def hold (delayMs : Nat) : IO Unit := IO.sleep (UInt32.ofNat (min delayMs 0xffffffff))

/-- The bytes of a line without its end. -/
def lineBytes (line : ByteArray) : List UInt8 :=
  ((Text.byteLines line.toList).head?).getD []

/-- Reads one byte after the other up to the end of a line; the bytes read are `seen`. -/
partial def readLine (input : IO.FS.Stream) (seen : ByteArray) : IO ByteArray := do
  let byte ← input.read 1
  if byte.isEmpty || byte.toList == [10] then return seen ++ byte
  else readLine input (seen ++ byte)

/-- The loop over lines as they come in, from the prompt on. -/
partial def converse (r : Terminal.Repl) (input output : IO.FS.Stream) : IO UInt32 := do
  output.putStr r.prompt
  output.flush
  let line ← readLine input .empty
  if line.isEmpty then return 0
  match r.move (lineBytes line) with
  | .leave => return 0
  | .refuse => leave { code := 1, output := "", complaint := damagedInput }
  | .fail reason =>
    leave { code := 1, output := "", complaint := "Error: " ++ reason.message ++ "\n" }
  | .pass => converse r input output
  | .run p =>
    hold p.dueAt
    output.putStr (r.shown p.outcome)
    converse r input output

/-- The loop of an order, with a banner and prompts where someone types. -/
def loop (format : Terminal.Format) (colour : Bool) (delayMs : UInt64) : IO UInt32 := do
  let input ← IO.getStdin
  let output ← IO.getStdout
  let interactive ← input.isTty
  if interactive then output.putStr Terminal.Repl.banner
  let repl : Terminal.Repl :=
    { format := format, colour := colour, interactive := interactive, delay := delayMs.toNat }
  converse repl input output

/-- The console on a terminal. -/
def consoleMain (args : List String) : IO UInt32 := do
  let env ← environment
  match Order.ofArguments args with
  | .error stop => leave (.ofStop stop)
  | .ok order =>
    let colour := usesColour (env colourVariable)
    match order.task with
    | .repl delayMs => loop order.format colour delayMs
    | .eval input delayMs =>
      if canRun input then hold delayMs.toNat
      leave (order.perform colour [])
    | _ => leave (order.perform colour [])

/-! ## 2. The web console -/

/-- The file that the web console reads its settings from, in a folder of its own. -/
def settingsFolder (args : List String) : IO Folder := do
  match CommandLine.read webProgram webForm .nothing none args with
  | .error _ => return { files := [] }
  | .ok g =>
    let path := (g.value? "config").getD defaultConfig
    try
      let bytes ← IO.FS.readBinFile path
      return (({ files := [] } : Folder).write path bytes.toList).2
    catch _ => return { files := [] }

/-- The web console, up to the moment at which it would listen. -/
def webMain (args : List String) : IO UInt32 := do
  match runWeb args (← environment) (← settingsFolder args) with
  | some e => leave e
  | none => leave { code := 0, output := "", complaint := "The settings are valid.\n" }

end CommandConsole

/-- Calls the program that is meant by the name of the executable. -/
def main (args : List String) : IO UInt32 := do
  let name := (← IO.appPath).fileStem
  if name == some CommandConsole.webProgram then CommandConsole.webMain args
  else CommandConsole.consoleMain args
