/-!
# JSON numbers as written

A number of a JSON text before it is given a meaning: its sign, its digits, and the fraction and
exponent if they are written. Only a numeral without sign, fraction and exponent is read as a
natural number. `overflows` says which numerals lie beyond the floating-point numbers of 64 bits;
a reader that has to give a number a value refuses those as malformed.
-/

namespace CommandConsole.Json

/-- A number as written. -/
structure Numeral where
  negative : Bool
  /-- The digits before the point. -/
  whole : List Char
  /-- The digits behind the point, if there is one. -/
  fraction : Option (List Char)
  /-- The exponent, if there is one: whether it is negative, and its digits. -/
  exponent : Option (Bool × List Char)
  deriving DecidableEq, Repr

namespace Numeral

/-- The value of a digit. -/
def digit (c : Char) : Nat := c.toNat - 48

/-- The natural number that digits denote. -/
def valueOf (cs : List Char) : Nat := cs.foldl (fun n c => 10 * n + digit c) 0

/-- The natural number that a numeral denotes, if it has neither sign nor fraction nor exponent. -/
def natural? (n : Numeral) : Option Nat :=
  if n.negative || n.fraction.isSome || n.exponent.isSome then none else some (valueOf n.whole)

/-- The significant digits that fit into a word of 64 bits, read from the front: their value, how
    many there are, and how many are left out. Once a digit does not fit, the rest is left out. -/
def significand (start : Nat) : List Char → Nat × Nat × Nat
  | [] => (start, 0, 0)
  | c :: cs =>
    let next := 10 * start + digit c
    if next < Nat.pow 2 64 then
      let (value, taken, left) := significand next cs
      (value, taken + 1, left)
    else (start, 0, cs.length + 1)

/-- A natural number rounded to 53 significant bits, a tie to the even neighbour. -/
def round53 (n : Nat) : Nat :=
  let unit := Nat.pow 2 (n.log2 + 1 - 53)
  let low := n / unit
  let rest := n % unit
  if 2 * rest > unit || (2 * rest == unit && low % 2 == 1) then (low + 1) * unit else low * unit

/-- The numeral lies beyond the floating-point numbers of 64 bits. Its significant digits are scaled
    by a power of ten; a power beyond 308 is too great for any significand but zero, and up to there
    the product of the two rounded factors decides. -/
def overflows (n : Numeral) : Bool :=
  let (whole, _, leftOut) := significand 0 n.whole
  let (value, taken, _) := significand whole (n.fraction.getD [])
  let written : Int := match n.exponent with
    | none => 0
    | some (true, ds) => -(valueOf ds : Int)
    | some (false, ds) => valueOf ds
  let power : Int := leftOut - taken + written
  let isFraction := n.fraction.isSome || n.exponent.isSome || leftOut != 0
  isFraction && value != 0 && 0 ≤ power
    && (308 < power
      || Nat.pow 2 1024 - Nat.pow 2 970 ≤ round53 value * round53 (Nat.pow 10 power.toNat))

end Numeral

end CommandConsole.Json
