/-!
# Reading arguments

The arguments of a program are options, commands and words. An option is written `--name`, with its
value behind an equals sign or as the next argument, or by one letter, `-n`, with its value behind
it or as the next argument; letters without a value can be written together.

* Behind `--` there are only words. A single `-` is a word.
* A value that is the next argument cannot begin with a dash, unless it is a single dash.
* An option is given at most once. Arguments are read from the front, and the first thing that is
  wrong, or that asks for the version or for help, ends the reading.
-/

namespace CommandConsole.CommandLine

/-- What an option takes. -/
inductive Value where
  /-- Nothing: the option is there or not. -/
  | none
  /-- A value that passes a test. -/
  | text (isValid : String → Bool)

/-- An option. -/
structure OptionSpec where
  name : String
  letter : Option Char
  value : Value

/-- What arguments may be given. -/
structure Form where
  options : List OptionSpec
  /-- How many words there may be. -/
  words : Nat
  /-- The commands, one of which ends the reading of this form. -/
  commands : List String

/-- Why arguments are not read to the end. -/
inductive Stop where
  /-- They are wrong. -/
  | usage
  /-- They ask for the version of the program under this name. -/
  | version (program : String)
  /-- They ask for help. -/
  | help
  deriving DecidableEq, Repr

/-- What was given. -/
structure Given where
  /-- Options by name with their values, the empty text for an option that takes none. -/
  options : List (String × String)
  words : List String
  /-- A command and the arguments behind it. -/
  command : Option (String × List String)
  deriving DecidableEq, Repr

namespace Given

/-- Nothing given. -/
def nothing : Given := { options := [], words := [], command := none }

/-- The value of an option. -/
def value? (g : Given) (name : String) : Option String := g.options.lookup name

/-- An option is there. -/
def has (g : Given) (name : String) : Bool := (g.value? name).isSome

end Given

/-- The option that asks for the version. -/
def versionOption : OptionSpec := { name := "version", letter := some 'V', value := .none }

/-- The option that asks for help. -/
def helpOption : OptionSpec := { name := "help", letter := some 'h', value := .none }

namespace Form

/-- All options of a form; every form can be asked for the version and for help. -/
def allOptions (f : Form) : List OptionSpec := f.options ++ [versionOption, helpOption]

/-- The option with a name. -/
def named? (f : Form) (name : String) : Option OptionSpec :=
  f.allOptions.find? fun o => o.name == name

/-- The option with a letter. -/
def lettered? (f : Form) (letter : Char) : Option OptionSpec :=
  f.allOptions.find? fun o => o.letter == some letter

end Form

/-- The program takes an option without a value. -/
def takeFlag (program : String) (g : Given) (o : OptionSpec) : Except Stop Given :=
  if o.name = versionOption.name then .error (.version program)
  else if o.name = helpOption.name then .error .help
  else if g.has o.name then .error .usage
  else .ok { g with options := g.options ++ [(o.name, "")] }

/-- The program takes an option with its value. -/
def takeValue (g : Given) (o : OptionSpec) (isValid : String → Bool) (v : String) :
    Except Stop Given :=
  if g.has o.name || !isValid v then .error .usage
  else .ok { g with options := g.options ++ [(o.name, v)] }

/-- An option that still needs its value. -/
abbrev Open := Option (OptionSpec × (String → Bool))

/-- The letters of one argument. An option that takes a value takes the rest of them, or is left
    open at the end. -/
def takeLetters (program : String) (f : Form) (g : Given) : List Char → Except Stop (Given × Open)
  | [] => .ok (g, none)
  | c :: cs =>
    match f.lettered? c with
    | none => .error .usage
    | some o =>
      match o.value with
      | .none =>
        match takeFlag program g o with
        | .error e => .error e
        | .ok g => takeLetters program f g cs
      | .text isValid =>
        match cs with
        | [] => .ok (g, some (o, isValid))
        | '=' :: v => (takeValue g o isValid (String.ofList v)).map fun g => (g, none)
        | v => (takeValue g o isValid (String.ofList v)).map fun g => (g, none)

/-- An argument behind two dashes: a name, and a value if there is an equals sign. -/
def takeName (program : String) (f : Form) (g : Given) (cs : List Char) :
    Except Stop (Given × Open) :=
  let attached := match cs.dropWhile (· != '=') with
    | [] => none
    | _ :: v => some (String.ofList v)
  match f.named? (String.ofList (cs.takeWhile (· != '='))) with
  | none => .error .usage
  | some o =>
    match o.value, attached with
    | .none, none => (takeFlag program g o).map fun g => (g, none)
    | .none, some _ => .error .usage
    | .text isValid, some v => (takeValue g o isValid v).map fun g => (g, none)
    | .text isValid, none => .ok (g, some (o, isValid))

/-- The program takes a word. -/
def takeWord (f : Form) (g : Given) (word : String) : Except Stop Given :=
  if g.words.length < f.words then .ok { g with words := g.words ++ [word] } else .error .usage

/-- The program takes words only. -/
def takeWords (f : Form) (g : Given) (words : List String) : Except Stop Given :=
  words.foldlM (takeWord f) g

/-- An argument that can be the value of the option before it. -/
def isPlain (arg : String) : Bool :=
  match arg.toList with
  | '-' :: _ :: _ => false
  | _ => true

/-- Reads arguments from the front; `o` is an option that needs its value. -/
def read (program : String) (f : Form) (g : Given) : Open → List String → Except Stop Given
  | none, [] => .ok g
  | some _, [] => .error .usage
  | some (o, isValid), arg :: rest =>
    if isPlain arg then
      match takeValue g o isValid arg with
      | .error e => .error e
      | .ok g => read program f g none rest
    else .error .usage
  | none, arg :: rest =>
    if f.commands.contains arg then .ok { g with command := some (arg, rest) }
    else
      match arg.toList with
      | ['-', '-'] => takeWords f g rest
      | '-' :: '-' :: name =>
        match takeName program f g name with
        | .error e => .error e
        | .ok (g, o) => read program f g o rest
      | '-' :: c :: cs =>
        match takeLetters program f g (c :: cs) with
        | .error e => .error e
        | .ok (g, o) => read program f g o rest
      | _ =>
        match takeWord f g arg with
        | .error e => .error e
        | .ok g => read program f g none rest

end CommandConsole.CommandLine
