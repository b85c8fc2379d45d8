/-!
# Decimal integers in text

How a whole text is read as an integer: an optional sign, then one or more ASCII digits and nothing
else. Leading zeros are allowed. A value outside the range asked for is refused, never wrapped: the
digits are read as a natural number of any size first and compared with the bounds afterwards.
-/

namespace CommandConsole.Text

/-- The value of a digit. -/
def digitValue (c : Char) : Nat := c.toNat - 48

/-- The number that a list of digits denotes behind digits already worth `n`. -/
def digitsFrom (n : Nat) (cs : List Char) : Nat :=
  cs.foldl (fun n c => 10 * n + digitValue c) n

/-- The number denoted by one or more ASCII digits; none for any other text. -/
def natural? (cs : List Char) : Option Nat :=
  if !cs.isEmpty && cs.all Char.isDigit then some (digitsFrom 0 cs) else none

/-- A natural number of at most `max`, with an optional plus sign. -/
def naturalUpTo (max : Nat) (cs : List Char) : Option Nat :=
  let digits := match cs with
    | '+' :: rest => rest
    | _ => cs
  (natural? digits).filter (· ≤ max)

/-- An integer from `min` to `max`, with an optional sign. -/
def integerWithin (min max : Int) (cs : List Char) : Option Int :=
  let value := match cs with
    | '-' :: rest => (natural? rest).map fun n => -(n : Int)
    | '+' :: rest => (natural? rest).map fun n => (n : Int)
    | _ => (natural? cs).map fun n => (n : Int)
  value.filter fun n => min ≤ n && n ≤ max

/-- The greatest unsigned number of 16 bits. -/
def maxWord16 : Nat := 65535

/-- The greatest unsigned number of 32 bits. -/
def maxWord32 : Nat := 4294967295

/-- The greatest unsigned number of 64 bits. -/
def maxWord64 : Nat := 18446744073709551615

/-- The greatest signed number of 64 bits. -/
def maxInt64 : Nat := 9223372036854775807

/-- The least signed number of 64 bits. -/
def minInt64 : Int := -9223372036854775808

/-- A signed number of 64 bits. -/
def int64? (cs : List Char) : Option Int := integerWithin minInt64 maxInt64 cs

/-- An unsigned number of 64 bits. -/
def word64? (cs : List Char) : Option UInt64 := (naturalUpTo maxWord64 cs).map UInt64.ofNat

end CommandConsole.Text
