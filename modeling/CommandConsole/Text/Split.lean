/-!
# Division at a separator

A text divided at every occurrence of a separator. There is always one part more than there are
separators, so the parts with the separator between them give the text again.
-/

namespace CommandConsole.Text

/-- A list divided at every occurrence of a separator. -/
def splitAt (sep : Char) : List Char → List (List Char)
  | [] => [[]]
  | c :: cs =>
    if c = sep then [] :: splitAt sep cs
    else
      match splitAt sep cs with
      | [] => [[c]]
      | part :: parts => (c :: part) :: parts

end CommandConsole.Text
