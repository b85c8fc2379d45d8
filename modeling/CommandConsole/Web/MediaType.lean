/-!
# Media types

Which `content-type` announces JSON: the type `application` with the subtype `json`, or with any
subtype and the suffix `json`. Case does not matter and parameters are not looked at, but they have
to be well written.
-/

namespace CommandConsole.Web.MediaType

/-- The characters of a token besides letters and digits. -/
def tokenMarks : List Char :=
  ['!', '#', '$', '%', '&', '\'', '+', '-', '.', '^', '_', '\x60', '|', '~']

/-- A character of a token. -/
def isToken (c : Char) : Bool := c.isAlphanum || tokenMarks.contains c

/-- A character of a quoted value. -/
def isQuotable (c : Char) : Bool := 31 < c.toNat && c.toNat != 127

/-- Behind a quoted value: blanks, then the end or a semicolon, behind which the rest is left. -/
def afterQuoted (cs : List Char) : Option (List Char) :=
  match cs.dropWhile (· == ' ') with
  | [] => some []
  | ';' :: rest => some rest
  | _ => none

/-- The rest behind a value: a token or a quoted text of one or more characters, and a semicolon
    if something follows. A value may be empty at the very end. -/
def afterValue : List Char → Option (List Char)
  | '"' :: c :: cs =>
    if !isQuotable c then none
    else
      match cs.dropWhile fun d => d != '"' && isQuotable d with
      | '"' :: rest => afterQuoted rest
      | _ => none
  | cs =>
    match cs.dropWhile isToken with
    | [] => some []
    | ';' :: rest => if (cs.takeWhile isToken).isEmpty then none else some rest
    | _ => none

/-- The rest behind a parameter, a name and a value with an equals sign between them. -/
def afterParameter (cs : List Char) : Option (List Char) :=
  match cs.dropWhile isToken with
  | '=' :: rest => if (cs.takeWhile isToken).isEmpty then none else afterValue rest
  | _ => none

/-- Parameters, with blanks before each of them; `fuel` bounds their number. -/
def areParameters : Nat → List Char → Bool
  | 0, _ => false
  | fuel + 1, cs =>
    match cs.dropWhile (· == ' ') with
    | [] => true
    | cs =>
      match afterParameter cs with
      | none => false
      | some rest => areParameters fuel rest

/-- The subtype and the suffix: what stands before and behind the last plus sign that is not the
    first character. -/
def splitSuffix (cs : List Char) : List Char × Option (List Char) :=
  let suffix := (cs.reverse.takeWhile (· != '+')).reverse
  let before := cs.take (cs.length - suffix.length - 1)
  if suffix.length < cs.length && !before.isEmpty then (before, some suffix) else (cs, none)

/-- A `content-type` announces JSON. -/
def isJson (value : String) : Bool :=
  let cs := value.toLower.toList
  match cs.takeWhile isToken, cs.dropWhile isToken with
  | main, '/' :: rest =>
    let (subtype, suffix) := splitSuffix (rest.takeWhile isToken)
    let parameters := match rest.dropWhile isToken with
      | [] => true
      | ';' :: more => areParameters (more.length + 1) more
      | _ => false
    main == "application".toList && parameters
      && (subtype == "json".toList || suffix == some "json".toList)
  | _, _ => false

end CommandConsole.Web.MediaType
