/-!
# The release

What the console says about itself.
-/

namespace CommandConsole

/-- The version of the console. -/
def version : String := "0.1.0"

/-- The name under which the console is called on a terminal. -/
def terminalProgram : String := "cysim"

/-- The name under which the web console is called. -/
def webProgram : String := "cysim-web"

end CommandConsole
