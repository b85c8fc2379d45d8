import CommandConsole.Command.Table

/-!
# The built-in commands

The commands the console knows from the start, in the order of the help catalog and of the listing.
Only `cy.log` produces output.
-/

namespace CommandConsole.Builtin

/-- A command that is known but neither listed in the help catalog nor implemented. -/
def known (name usage description : String) : CommandSpec :=
  { name := name, usage := usage, description := description, inHelp := false, template := none }

/-- A command that the help catalog lists. -/
def listed (name usage description : String) : CommandSpec :=
  { known name usage description with inHelp := true }

/-- The built-in commands in order. -/
def commands : List CommandSpec := [
  { listed "cy.log" "cy.log(message)"
      "Prints a message to the Cypress Command Log." with
    template := some CommandSpec.logTemplate },
  listed "cy.visit" "cy.visit(url)" "Visits a given URL.",
  listed "cy.get" "cy.get(selector)" "Gets one or more DOM elements by selector or alias.",
  listed "cy.contains" "cy.contains(content)" "Gets the DOM element containing the text.",
  listed "cy.request" "cy.request(url)" "Makes an HTTP request.",
  listed "cy.intercept" "cy.intercept(method, url)"
    "Spies and stubs network requests and responses.",
  listed "cy.wait" "cy.wait(ms)" "Waits for a number of milliseconds or for an aliased resource.",
  listed "cy.reload" "cy.reload()" "Reloads the page.",
  known "cy.fixture" "cy.fixture(filePath)" "Loads a fixed set of data located in a file.",
  known "cy.go" "cy.go(direction)" "Navigates back or forward in the browser history.",
  known "cy.url" "cy.url()" "Gets the URL of the active page.",
  known "cy.title" "cy.title()" "Gets the document title of the active page.",
  known "cy.location" "cy.location()" "Gets the window.location object of the active page.",
  known "cy.hash" "cy.hash()" "Gets the URL hash of the active page.",
  known "cy.window" "cy.window()" "Gets the window object of the active page.",
  known "cy.document" "cy.document()" "Gets the window.document of the active page.",
  known "cy.viewport" "cy.viewport(width, height)"
    "Controls the size and orientation of the screen.",
  known "cy.screenshot" "cy.screenshot()" "Takes a screenshot of the application under test.",
  known "cy.wrap" "cy.wrap(subject)" "Yields the object passed into it.",
  known "cy.focused" "cy.focused()" "Gets the DOM element that is currently focused.",
  known "cy.root" "cy.root()" "Gets the root DOM element.",
  known "cy.exec" "cy.exec(command)" "Executes a system command.",
  known "cy.task" "cy.task(event)" "Executes code in Node via the task plugin event.",
  known "cy.readFile" "cy.readFile(filePath)" "Reads a file and yields its contents.",
  known "cy.writeFile" "cy.writeFile(filePath, contents)"
    "Writes to a file with the specified contents.",
  known "cy.session" "cy.session(id, setup)"
    "Caches and restores cookies and storage between tests.",
  known "cy.origin" "cy.origin(url, callback)"
    "Visits multiple domains of different origin in a single test.",
  known "cy.clearCookie" "cy.clearCookie(name)" "Clears a specific browser cookie.",
  known "cy.clearCookies" "cy.clearCookies()" "Clears browser cookies for a domain.",
  known "cy.clearAllCookies" "cy.clearAllCookies()" "Clears browser cookies for all domains.",
  known "cy.getCookie" "cy.getCookie(name)" "Gets a browser cookie by its name.",
  known "cy.getCookies" "cy.getCookies()" "Gets browser cookies for the current domain.",
  known "cy.getAllCookies" "cy.getAllCookies()" "Gets all browser cookies.",
  known "cy.setCookie" "cy.setCookie(name, value)" "Sets a browser cookie.",
  known "cy.clearLocalStorage" "cy.clearLocalStorage()"
    "Clears local storage for the current origin.",
  known "cy.clearAllLocalStorage" "cy.clearAllLocalStorage()"
    "Clears local storage for all origins.",
  known "cy.clearAllSessionStorage" "cy.clearAllSessionStorage()"
    "Clears session storage for all origins.",
  known "cy.getAllLocalStorage" "cy.getAllLocalStorage()" "Gets local storage for all origins.",
  known "cy.getAllSessionStorage" "cy.getAllSessionStorage()"
    "Gets session storage for all origins.",
  known "cy.clock" "cy.clock()" "Overrides native global functions related to time.",
  known "cy.tick" "cy.tick(ms)" "Moves time after overriding the clock.",
  known "cy.stub" "cy.stub()" "Replaces a function and controls its behavior.",
  known "cy.spy" "cy.spy()" "Wraps a method in a spy to record calls.",
  known "cy.debug" "cy.debug()" "Sets a debugger and logs what the previous command yields.",
  known "cy.pause" "cy.pause()" "Stops cy commands from running until resumed.",
  known "cy.press" "cy.press(key)" "Triggers native key events as if a user pressed them."]

/-- The table of the built-in commands. -/
def table : CommandTable := .ofList commands

end CommandConsole.Builtin
