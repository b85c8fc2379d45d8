/-!
# JSON values and their text

The values that the console writes, and the two ways they are written: compact, without any space,
and pretty, with two spaces for each level. Both are one text under two layouts. In a string only
the quote, the backslash and the control characters below U+0020 are escaped, by the short form
where there is one.
-/

namespace CommandConsole

/-- A JSON value to be written. The console writes no fractions and no negative numbers. -/
inductive Json where
  | null
  | bool (b : Bool)
  | number (n : Nat)
  | string (s : String)
  | array (items : List Json)
  | object (fields : List (String × Json))

namespace Json

/-! ## 1. Strings -/

/-- A hexadecimal digit, lower case. -/
def hexDigit (n : Nat) : Char :=
  if n < 10 then Char.ofNat (48 + n) else Char.ofNat (87 + n)

/-- A character inside a written string. -/
def escapeChar (c : Char) : List Char :=
  if c = '"' then ['\\', '"']
  else if c = '\\' then ['\\', '\\']
  else if c = '\x08' then ['\\', 'b']
  else if c = '\t' then ['\\', 't']
  else if c = '\n' then ['\\', 'n']
  else if c = '\x0c' then ['\\', 'f']
  else if c = '\r' then ['\\', 'r']
  else if c.toNat < 0x20 then
    ['\\', 'u', '0', '0', hexDigit (c.toNat / 16), hexDigit (c.toNat % 16)]
  else [c]

/-- A written string, its quotes included. -/
def quote (s : String) : List Char := '"' :: s.toList.flatMap escapeChar ++ ['"']

/-! ## 2. Layouts -/

/-- The characters that may stand between tokens. -/
def gaps : List Char := [' ', '\n', '\t', '\r']

/-- Where a text has gaps between its tokens, and which. -/
structure Layout where
  /-- The beginning of a line at a level. -/
  line : Nat → List Char
  /-- What stands behind a colon. -/
  space : List Char
  line_subset : ∀ level, line level ⊆ gaps
  space_subset : space ⊆ gaps

namespace Layout

/-- No gaps at all. -/
def dense : Layout where
  line _ := []
  space := []
  line_subset _ := List.nil_subset _
  space_subset := List.nil_subset _

/-- A line for each item and each field, two spaces further in for each level, and a space behind
    each colon. -/
def spread : Layout where
  line level := '\n' :: List.replicate (2 * level) ' '
  space := [' ']
  line_subset level c hc := by
    rcases List.mem_cons.1 hc with rfl | hc
    · decide
    · rw [List.eq_of_mem_replicate hc]
      decide
  space_subset c hc := by
    rw [List.mem_singleton.1 hc]
    decide

variable (l : Layout)

mutual

/-- The text of a value whose line is at `level`. -/
def chars (level : Nat) : Json → List Char
  | null => "null".toList
  | bool b => (if b then "true" else "false").toList
  | number n => Nat.toDigits 10 n
  | string s => quote s
  | array [] => "[]".toList
  | array (v :: vs) =>
    '[' :: l.line (level + 1) ++ chars (level + 1) v ++ items (level + 1) vs ++ l.line level ++ [']']
  | object [] => "\x7b\x7d".toList
  | object ((k, v) :: fs) =>
    '{' :: l.line (level + 1) ++ quote k ++ ':' :: l.space ++ chars (level + 1) v
      ++ fields (level + 1) fs ++ l.line level ++ ['}']

/-- The items behind the first. -/
def items (level : Nat) : List Json → List Char
  | [] => []
  | v :: vs => ',' :: l.line level ++ chars level v ++ items level vs

/-- The fields behind the first. -/
def fields (level : Nat) : List (String × Json) → List Char
  | [] => []
  | (k, v) :: fs =>
    ',' :: l.line level ++ quote k ++ ':' :: l.space ++ chars level v ++ fields level fs

end

end Layout

/-! ## 3. The two texts -/

/-- The compact text of a value. -/
def compact (v : Json) : String := String.ofList (Layout.dense.chars 0 v)

/-- The pretty text of a value. -/
def pretty (v : Json) : String := String.ofList (Layout.spread.chars 0 v)

end Json

end CommandConsole
