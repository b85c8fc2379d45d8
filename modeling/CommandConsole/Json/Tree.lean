import CommandConsole.Json.Numeral
import CommandConsole.Text.Utf8

/-!
# JSON text as a tree

A JSON text is read into a tree without regard to what it is wanted for. Where the text stops being
JSON the tree ends in a leaf `broken`, and nothing behind that place is kept. So a reader that walks
the tree in the order of the text meets what is wrong with the value and what is wrong with the text
in the order in which they stand.

* The source is a list of characters in which `none` marks bytes that belong to no character.
* A string is kept as `none` when it is well delimited but denotes no text: a lone surrogate, or
  damaged bytes.
* Depth is not limited here; a reader that limits it asks `Tree.fits`.
-/

namespace CommandConsole.Json

/-- Characters to be read, with marks where bytes are damaged. -/
abbrev Source := List (Option Char)

/-- A text as a source. -/
def Source.ofString (s : String) : Source := s.toList.map some

/-- Bytes as a source. -/
def Source.ofBytes (bytes : List UInt8) : Source := Text.Utf8.decode bytes

/-- A JSON text, up to where it breaks off. -/
inductive Tree where
  | null
  | bool (b : Bool)
  | number (n : Numeral)
  | text (s : Option String)
  | array (items : List Tree)
  | object (fields : List (Option String × Tree))
  /-- Here the text is no JSON any more. -/
  | broken

namespace Tree

/-! ## 1. Blanks, words and numbers -/

/-- The four characters allowed between tokens. -/
def isGap (c : Option Char) : Bool :=
  c == some ' ' || c == some '\n' || c == some '\t' || c == some '\r'

/-- The source behind the gap it starts with. -/
def skipGap (s : Source) : Source := s.dropWhile isGap

/-- The source behind a word that it starts with. -/
def afterWord : List Char → Source → Option Source
  | [], s => some s
  | c :: cs, some d :: s => if c = d then afterWord cs s else none
  | _ :: _, _ => none

/-- A decimal digit. -/
def isDigit : Option Char → Bool
  | some c => c.isDigit
  | none => false

/-- The digits a source starts with, and the rest. -/
def digits (s : Source) : List Char × Source :=
  ((s.takeWhile isDigit).filterMap id, s.dropWhile isDigit)

/-- The digits before the point: a lone zero, or digits that do not start with zero. -/
def wholePart (s : Source) : Option (List Char × Source) :=
  match digits s with
  | ([], _) => none
  | (['0'], rest) => some (['0'], rest)
  | ('0' :: _, _) => none
  | (ds, rest) => some (ds, rest)

/-- The point and the digits behind it, if there is a point. -/
def fractionPart : Source → Option (Option (List Char) × Source)
  | some '.' :: s =>
    match digits s with
    | ([], _) => none
    | (ds, rest) => some (some ds, rest)
  | s => some (none, s)

/-- The sign and the digits of an exponent. -/
def exponentDigits (negative : Bool) (s : Source) :
    Option (Option (Bool × List Char) × Source) :=
  match digits s with
  | ([], _) => none
  | (ds, rest) => some (some (negative, ds), rest)

/-- The exponent, if there is one. -/
def exponentPart : Source → Option (Option (Bool × List Char) × Source)
  | some 'e' :: some '+' :: s | some 'E' :: some '+' :: s => exponentDigits false s
  | some 'e' :: some '-' :: s | some 'E' :: some '-' :: s => exponentDigits true s
  | some 'e' :: s | some 'E' :: s => exponentDigits false s
  | s => some (none, s)

/-- A number behind its sign. -/
def numeral (negative : Bool) (s : Source) : Option (Numeral × Source) := do
  let (whole, s) ← wholePart s
  let (fraction, s) ← fractionPart s
  let (exponent, s) ← exponentPart s
  return ({ negative, whole, fraction, exponent }, s)

/-! ## 2. Strings -/

/-- The value of a hexadecimal digit. -/
def hexValue (c : Char) : Option Nat :=
  if '0' ≤ c ∧ c ≤ '9' then some (c.toNat - 48)
  else if 'a' ≤ c ∧ c ≤ 'f' then some (c.toNat - 87)
  else if 'A' ≤ c ∧ c ≤ 'F' then some (c.toNat - 55)
  else none

/-- Four hexadecimal digits as a number. -/
def hexUnit (a b c d : Char) : Option Nat := do
  return ((← hexValue a) * 16 + (← hexValue b)) * 256 + (← hexValue c) * 16 + (← hexValue d)

/-- The character behind a backslash, for the escapes of two characters. -/
def shortEscape : Char → Option Char
  | '"' => some '"'
  | '\\' => some '\\'
  | '/' => some '/'
  | 'b' => some '\x08'
  | 'f' => some '\x0c'
  | 'n' => some '\n'
  | 'r' => some '\r'
  | 't' => some '\t'
  | _ => none

/-- One element of a string: a character, a unit of sixteen bits, or damage. -/
inductive Element where
  | char (c : Char)
  | unit (n : Nat)
  | damage
  deriving DecidableEq, Repr

/-- The elements of a string behind its opening quote and the source behind the closing one; none
    if the string is not well delimited: it ends too early, holds a control character or an escape
    that does not exist. The elements read so far are `seen`, last first. -/
def elements (seen : List Element) : Source → Option (List Element × Source)
  | [] => none
  | some '"' :: s => some (seen.reverse, s)
  | some '\\' :: some 'u' :: some a :: some b :: some c :: some d :: s =>
    match hexUnit a b c d with
    | some n => elements (.unit n :: seen) s
    | none => none
  | some '\\' :: some e :: s =>
    match shortEscape e with
    | some c => elements (.char c :: seen) s
    | none => none
  | some '\\' :: _ => none
  | some c :: s => if c.toNat < 0x20 then none else elements (.char c :: seen) s
  | none :: s => elements (.damage :: seen) s

/-- A unit that begins a pair of surrogates. -/
def isHighSurrogate (n : Nat) : Bool := 0xd800 ≤ n && n ≤ 0xdbff

/-- A unit that ends a pair of surrogates. -/
def isLowSurrogate (n : Nat) : Bool := 0xdc00 ≤ n && n ≤ 0xdfff

/-- The characters that elements denote, behind characters already found (last first); none for
    damage and for a surrogate without its partner. -/
def resolve (seen : List Char) : List Element → Option (List Char)
  | [] => some seen.reverse
  | .char c :: es => resolve (c :: seen) es
  | .damage :: _ => none
  | [.unit h] =>
    if isHighSurrogate h || isLowSurrogate h then none else some (Char.ofNat h :: seen).reverse
  | .unit h :: .unit l :: es =>
    if isLowSurrogate h then none
    else if isHighSurrogate h then
      if isLowSurrogate l then
        resolve (Char.ofNat (0x10000 + (h - 0xd800) * 1024 + (l - 0xdc00)) :: seen) es
      else none
    else resolve (Char.ofNat h :: seen) (.unit l :: es)
  | .unit h :: e :: es =>
    if isHighSurrogate h || isLowSurrogate h then none
    else resolve (Char.ofNat h :: seen) (e :: es)

/-- A string behind its opening quote. -/
def string (s : Source) : Option (Option String × Source) :=
  (elements [] s).map fun (es, rest) => ((resolve [] es).map String.ofList, rest)

/-! ## 3. Values -/

/-- What reading gives: a tree, and the source behind it unless the text broke off. -/
abbrev Reading := Tree × Option Source

/-- A reading that breaks off at once. -/
def broke : Reading := (.broken, none)

/-- A leaf, if it was read. -/
def leaf {α : Type} (f : α → Tree) : Option (α × Source) → Reading
  | some (a, s) => (f a, some s)
  | none => broke

/-- A word that stands for a value. -/
def word (cs : List Char) (t : Tree) (s : Source) : Reading :=
  match afterWord cs s with
  | some rest => (t, some rest)
  | none => broke

mutual

/-- A value. The first argument bounds the steps. -/
def value : Nat → Source → Reading
  | 0, _ => broke
  | n + 1, s =>
    match skipGap s with
    | some '\x7b' :: s =>
      match skipGap s with
      | some '\x7d' :: s => (.object [], some s)
      | s => fields n [] s
    | some '[' :: s =>
      match skipGap s with
      | some ']' :: s => (.array [], some s)
      | s => items n [] s
    | some '"' :: s => leaf .text (string s)
    | some 't' :: s => word ['r', 'u', 'e'] (.bool true) s
    | some 'f' :: s => word ['a', 'l', 's', 'e'] (.bool false) s
    | some 'n' :: s => word ['u', 'l', 'l'] .null s
    | some '-' :: s => leaf .number (numeral true s)
    | s => leaf .number (numeral false s)

/-- The items of an array from the next one on, behind those read so far (last first). -/
def items : Nat → List Tree → Source → Reading
  | 0, seen, _ => (.array (seen.reverse ++ [.broken]), none)
  | n + 1, seen, s =>
    match value n s with
    | (v, none) => (.array (v :: seen).reverse, none)
    | (v, some s) =>
      match skipGap s with
      | some ',' :: s => items n (v :: seen) s
      | some ']' :: s => (.array (v :: seen).reverse, some s)
      | _ => (.array (.broken :: v :: seen).reverse, none)

/-- The fields of an object from the next one on, behind those read so far (last first). -/
def fields : Nat → List (Option String × Tree) → Source → Reading
  | 0, seen, _ => (.object (seen.reverse ++ [(none, .broken)]), none)
  | n + 1, seen, s =>
    match skipGap s with
    | some '"' :: s =>
      match string s with
      | none => (.object ((none, .broken) :: seen).reverse, none)
      | some (k, s) =>
        match skipGap s with
        | some ':' :: s =>
          match value n s with
          | (v, none) => (.object ((k, v) :: seen).reverse, none)
          | (v, some s) =>
            match skipGap s with
            | some ',' :: s => fields n ((k, v) :: seen) s
            | some '\x7d' :: s => (.object ((k, v) :: seen).reverse, some s)
            | _ => (.object ((none, .broken) :: (k, v) :: seen).reverse, none)
        | _ => (.object ((k, .broken) :: seen).reverse, none)
    | _ => (.object ((none, .broken) :: seen).reverse, none)

end

/-- The first value of a source, and the source behind it unless the text broke off. Every step
    but two for each level consumes a character, which bounds them. -/
def read (s : Source) : Reading := value (2 * s.length + 2) s

/-- The value that makes up a whole text, with nothing but gaps around it. -/
def ofText (s : String) : Tree :=
  match read (.ofString s) with
  | (t, some rest) => if (skipGap rest).isEmpty then t else .broken
  | (t, none) => t

/-! ## 4. Questions about a tree -/

mutual

/-- The text does not break off inside the tree. -/
def isWhole : Tree → Bool
  | .broken => false
  | .array ts => allWhole ts
  | .object fs => fieldsWhole fs
  | _ => true

/-- `isWhole` for every item. -/
def allWhole : List Tree → Bool
  | [] => true
  | t :: ts => t.isWhole && allWhole ts

/-- `isWhole` for every field. -/
def fieldsWhole : List (Option String × Tree) → Bool
  | [] => true
  | (_, t) :: fs => t.isWhole && fieldsWhole fs

end

mutual

/-- Every part of the tree has a value of its own: no break, no string without a text, no number
    beyond the floating-point numbers, and no more than `room` arrays and objects inside each
    other. -/
def fits (room : Nat) : Tree → Bool
  | .broken => false
  | .text s => s.isSome
  | .number n => !n.overflows
  | .array ts =>
    match room with
    | 0 => false
    | r + 1 => allFit r ts
  | .object fs =>
    match room with
    | 0 => false
    | r + 1 => fieldsFit r fs
  | .null | .bool _ => true

/-- `fits` for every item. -/
def allFit (room : Nat) : List Tree → Bool
  | [] => true
  | t :: ts => t.fits room && allFit room ts

/-- `fits` for every field, its name included. -/
def fieldsFit (room : Nat) : List (Option String × Tree) → Bool
  | [] => true
  | (k, t) :: fs => k.isSome && t.fits room && fieldsFit room fs

end

end Tree

end CommandConsole.Json
