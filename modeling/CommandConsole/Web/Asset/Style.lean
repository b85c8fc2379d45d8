/-!
# The style sheet of the console page

How the page looks: the header, the panels, the output and the colours of the four categories.
-/

namespace CommandConsole.Web.Asset

/-- The style sheet, line by line. -/
def styleLines : List String := [
  "body \x7b font-family: sans-serif; margin: 0; background: #f5f6f8; color: #1b1e23; \x7d",
  "header \x7b display: flex; align-items: center; justify-content: space-between; padding: 0.5rem 1rem; background: #1b1e23; color: #fff; \x7d",
  "header h1 \x7b font-size: 1.2rem; margin: 0; \x7d",
  "#menu \x7b position: absolute; top: 3rem; right: 1rem; background: #fff; padding: 0.5rem; box-shadow: 0 2px 6px rgba(0,0,0,.2); \x7d",
  "#login, #simulator \x7b max-width: 48rem; margin: 2rem auto; padding: 1rem; background: #fff; border-radius: 6px; \x7d",
  "#codeInput \x7b width: 100%; font-family: monospace; box-sizing: border-box; \x7d",
  ".output-header \x7b display: flex; justify-content: space-between; margin-top: 1rem; \x7d",
  "#outputArea \x7b border: 1px solid #ccc; padding: 0.5rem; overflow: auto; \x7d",
  "#outputArea.collapsed \x7b max-height: 8rem; \x7d",
  "#outputArea.expanded \x7b max-height: none; min-height: 20rem; \x7d",
  "#outputArea pre \x7b white-space: pre-wrap; margin: 0.25rem 0 0; \x7d",
  ".success \x7b color: #1e7b34; \x7d",
  ".error \x7b color: #b3261e; \x7d",
  ".warning \x7b color: #8a6d00; \x7d",
  ".loading \x7b color: #555; font-style: italic; \x7d",
  "#captchaError \x7b color: #b3261e; \x7d",
  "#cookieConsent \x7b position: fixed; bottom: 0; left: 0; right: 0; padding: 1rem; background: #1b1e23; color: #fff; \x7d",
  ".hidden \x7b display: none !important; \x7d"]

end CommandConsole.Web.Asset
