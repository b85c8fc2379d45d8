import CommandConsole.Web.Asset.Page
import CommandConsole.Web.Asset.Script
import CommandConsole.Web.Asset.Style
import CommandConsole.Web.Message

/-!
# The files of the console page

The page is one HTML file with a script and a style sheet. They are part of the program and are
found by their exact names.
-/

namespace CommandConsole.Web.Asset

/-- Lines as a text in which every line is ended. -/
def ofLines (lines : List String) : String := String.join (lines.map (· ++ "\n"))

/-- The response that gives the page. -/
def page : Response := .ofText 200 "text/html; charset=utf-8" (ofLines pageLines)

/-- The response for a file by its name. -/
def serve (name : String) : Response :=
  if name = "app.js" then .ofText 200 "application/javascript" (ofLines scriptLines)
  else if name = "style.css" then .ofText 200 "text/css" (ofLines styleLines)
  else if name = "index.html" then page
  else .ofText 404 Response.plainText "File not found"

end CommandConsole.Web.Asset
