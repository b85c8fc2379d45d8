/-!
# UTF-8

Bytes read as characters. The reader is a machine that takes one byte at a time and owes itself the
continuation bytes of the character it is in. A byte that cannot go on is damage: the characters
around it are still read, and one mark `none` stands for each maximal run that begins a character
and does not finish it.

* `decode` keeps the marks; `strict?` refuses a text with a mark; `lossy` replaces each mark by
  U+FFFD.
-/

namespace CommandConsole.Text.Utf8

/-! ## 1. The machine -/

/-- Where the machine stands between two bytes. -/
inductive State where
  /-- Between characters. -/
  | start
  /-- Inside a character that needs `owed + 1` more bytes, the next one from `lo` to `hi`; `value`
      is what the bytes so far contribute. -/
  | inside (owed lo hi value : Nat)
  deriving DecidableEq, Repr

/-- What one byte brings: the characters or marks it completes, last first, and the next state. -/
abbrev Progress := List (Option Char) × State

/-- A byte at the beginning of a character. -/
def first (b : Nat) : Progress :=
  if b < 0x80 then ([some (Char.ofNat b)], .start)
  else if 0xc2 ≤ b && b ≤ 0xdf then ([], .inside 0 0x80 0xbf (b - 0xc0))
  else if b == 0xe0 then ([], .inside 1 0xa0 0xbf 0)
  else if b == 0xed then ([], .inside 1 0x80 0x9f 0xd)
  else if 0xe1 ≤ b && b ≤ 0xef then ([], .inside 1 0x80 0xbf (b - 0xe0))
  else if b == 0xf0 then ([], .inside 2 0x90 0xbf 0)
  else if 0xf1 ≤ b && b ≤ 0xf3 then ([], .inside 2 0x80 0xbf (b - 0xf0))
  else if b == 0xf4 then ([], .inside 2 0x80 0x8f 4)
  else ([none], .start)

/-- One byte. A byte that cannot continue a character leaves a mark and begins the next one. -/
def State.step : State → Nat → Progress
  | .start, b => first b
  | .inside owed lo hi value, b =>
    if lo ≤ b && b ≤ hi then
      let value := 64 * value + (b - 0x80)
      match owed with
      | 0 => ([some (Char.ofNat value)], .start)
      | n + 1 => ([], .inside n 0x80 0xbf value)
    else
      let (out, next) := first b
      (out ++ [none], next)

/-- Marks a character that the end of the bytes cuts off. -/
def State.finish : State → List (Option Char)
  | .start => []
  | .inside .. => [none]

/-- All bytes, behind characters already read (last first). -/
def decodeFrom (s : State) (out : List (Option Char)) : List UInt8 → List (Option Char)
  | [] => (s.finish ++ out).reverse
  | b :: bs =>
    let (more, next) := s.step b.toNat
    decodeFrom next (more ++ out) bs

/-- The characters of the bytes, with a mark for each damage. -/
def decode (bytes : List UInt8) : List (Option Char) := decodeFrom .start [] bytes

/-! ## 2. Texts -/

/-- The text of the bytes if there is no damage. -/
def strict? (bytes : List UInt8) : Option String :=
  ((decode bytes).mapM id).map String.ofList

/-- The character that stands for damage, U+FFFD. -/
def replacement : Char := '\ufffd'

/-- The text of the bytes, damage replaced. -/
def lossy (bytes : List UInt8) : String :=
  String.ofList ((decode bytes).map fun c => c.getD replacement)

/-- The bytes of a text. -/
def encode (s : String) : List UInt8 := s.toUTF8.toList

end CommandConsole.Text.Utf8
