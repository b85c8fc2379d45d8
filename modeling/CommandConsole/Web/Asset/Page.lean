/-!
# The console page

The one page of the console: a header with the menu, the login with its captcha, the simulator with its
output panel, and the banner that asks about cookies.
-/

namespace CommandConsole.Web.Asset

/-- The page, line by line. -/
def pageLines : List String := [
  "<!DOCTYPE html>",
  "<html lang=\"en\">",
  "<head>",
  "  <meta charset=\"utf-8\">",
  "  <meta name=\"viewport\" content=\"width=device-width, initial-scale=1\">",
  "  <title>Cypress Simulator</title>",
  "  <link rel=\"stylesheet\" href=\"/static/style.css\">",
  "</head>",
  "<body>",
  "  <header>",
  "    <h1>Cypress Simulator</h1>",
  "    <button id=\"sandwich-menu\" class=\"hidden\" aria-label=\"Menu\">&#9776;</button>",
  "    <nav id=\"menu\" class=\"hidden\">",
  "      <button id=\"logoutButton\">Logout</button>",
  "    </nav>",
  "  </header>",
  "",
  "  <section id=\"login\">",
  "    <h2>Let's get started!</h2>",
  "    <div id=\"captcha\" class=\"hidden\">",
  "      <label for=\"captchaInput\" id=\"captchaQuestion\"></label>",
  "      <input id=\"captchaInput\" type=\"text\" autocomplete=\"off\">",
  "      <button id=\"verifyCaptcha\" disabled>Verify</button>",
  "      <p id=\"captchaError\" class=\"hidden\">Incorrect answer, please try again.</p>",
  "    </div>",
  "    <button id=\"loginButton\" disabled>Login</button>",
  "  </section>",
  "",
  "  <main id=\"simulator\" class=\"hidden\">",
  "    <textarea id=\"codeInput\" rows=\"4\" placeholder='cy.log(\"Hello\")'></textarea>",
  "    <button id=\"runButton\" disabled>Run</button>",
  "    <div class=\"output-header\">",
  "      <span>Output</span>",
  "      <button class=\"expand-collapse\" aria-label=\"Expand or collapse\">",
  "        <span id=\"expandIcon\">&#x2922;</span>",
  "        <span id=\"collapseIcon\" class=\"hidden\">&#x2921;</span>",
  "      </button>",
  "    </div>",
  "    <div id=\"outputArea\" class=\"collapsed\"></div>",
  "  </main>",
  "",
  "  <div id=\"cookieConsent\" class=\"hidden\">",
  "    <p>We use cookies to improve your experience.</p>",
  "    <button data-choice=\"accepted\">Accept</button>",
  "    <button data-choice=\"declined\">Decline</button>",
  "  </div>",
  "",
  "  <script src=\"/static/app.js\"></script>",
  "</body>",
  "</html>"]

end CommandConsole.Web.Asset
