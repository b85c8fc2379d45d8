import CommandConsole.Toml.Strings

/-!
# TOML numbers and moments

The values of TOML 1.0 that are written as one word: truth values, integers, floating-point numbers,
dates and times. Integers are those of 64 bits with a sign. Numbers with a fraction and moments are
kept as they are written; the console asks only whether they are well formed.
-/

namespace CommandConsole.Toml

/-! ## 1. Digits -/

/-- Digits of one kind with single underscores between them; the digits alone are given. `behindDigit`
    says that a digit has just been read. -/
def grouped (isDigit : Char → Bool) (behindDigit : Bool) : List Char → Option (List Char)
  | [] => if behindDigit then some [] else none
  | c :: cs =>
    if isDigit c then (grouped isDigit true cs).map (c :: ·)
    else if c = '_' && behindDigit then grouped isDigit false cs
    else none

/-- The number that digits denote in a base. -/
def valueIn (base : Nat) (ds : List Char) : Nat :=
  ds.foldl (fun n c => base * n + (hexValue c).getD 0) 0

/-- A decimal digit. -/
def isDecimal (c : Char) : Bool := '0' ≤ c && c ≤ '9'

/-- A hexadecimal digit. -/
def isHexadecimal (c : Char) : Bool := (hexValue c).isSome

/-- An octal digit. -/
def isOctal (c : Char) : Bool := '0' ≤ c && c ≤ '7'

/-- A binary digit. -/
def isBinary (c : Char) : Bool := c == '0' || c == '1'

/-- A word and the sign it starts with: whether it is negative, and the rest. -/
def unsigned : List Char → Bool × List Char
  | '-' :: cs => (true, cs)
  | '+' :: cs => (false, cs)
  | cs => (false, cs)

/-- Decimal digits that do not start with a zero unless it stands alone. -/
def plainDigits (cs : List Char) : Option (List Char) :=
  match cs with
  | '0' :: _ :: _ => none
  | _ => grouped isDecimal false cs

/-! ## 2. Integers -/

/-- The greatest and least integers. -/
def integerRange : Int × Int := (-9223372036854775808, 9223372036854775807)

/-- An integer in the range. -/
def inRange (n : Int) : Option Int :=
  if integerRange.1 ≤ n ∧ n ≤ integerRange.2 then some n else none

/-- An integer: decimal with an optional sign, or without a sign in base 16, 8 or 2. -/
def integer? (word : List Char) : Option Int :=
  match word with
  | '0' :: 'x' :: cs => (grouped isHexadecimal false cs).bind fun ds => inRange (valueIn 16 ds)
  | '0' :: 'o' :: cs => (grouped isOctal false cs).bind fun ds => inRange (valueIn 8 ds)
  | '0' :: 'b' :: cs => (grouped isBinary false cs).bind fun ds => inRange (valueIn 2 ds)
  | _ =>
    let (negative, cs) := unsigned word
    (plainDigits cs).bind fun ds =>
      let n : Int := valueIn 10 ds
      inRange (if negative then -n else n)

/-! ## 3. Floating-point numbers -/

/-- The exponent of a number: a sign and digits, zeros in front allowed. -/
def exponent? (cs : List Char) : Option Int :=
  let (negative, cs) := unsigned cs
  (grouped isDecimal false cs).map fun ds =>
    let n : Int := valueIn 10 ds
    if negative then -n else n

/-- A positive number given by its digits and a power of ten is beyond the floating-point numbers of
    64 bits. -/
def isTooGreat (digits : List Char) (power : Int) : Bool :=
  let m := valueIn 10 digits
  let size : Int := (Nat.toDigits 10 m).length + power
  m != 0 && 300 < size
    && (400 < size
      || Nat.pow 2 1024 - Nat.pow 2 970 ≤ (if 0 ≤ power then m * Nat.pow 10 power.toNat
          else m / Nat.pow 10 (-power).toNat))

/-- A number with a fraction or an exponent, or one of the special ones. A positive number beyond the
    range is refused. -/
def isFloat (word : List Char) : Bool :=
  let (negative, cs) := unsigned word
  if cs = ['i', 'n', 'f'] || cs = ['n', 'a', 'n'] then true
  else
    let isMark := fun c => c == '.' || c == 'e' || c == 'E'
    let isExponent := fun c => c == 'e' || c == 'E'
    let whole := plainDigits (cs.takeWhile fun c => !isMark c)
    let parts : Option (List Char × Int) :=
      match cs.dropWhile fun c => !isMark c with
      | '.' :: rest =>
        match grouped isDecimal false (rest.takeWhile fun c => !isExponent c),
          rest.dropWhile fun c => !isExponent c with
        | some ds, [] => some (ds, 0)
        | some ds, _ :: e => (exponent? e).map fun n => (ds, n)
        | none, _ => none
      | _ :: e => (exponent? e).map fun n => ([], n)
      | [] => none
    match whole, parts with
    | some ds, some (fraction, power) =>
      negative || !isTooGreat (ds ++ fraction) (power - fraction.length)
    | _, _ => false

/-! ## 4. Dates and times -/

/-- A number of two digits within bounds. -/
def twoDigits (min max : Nat) (a b : Char) : Option Nat :=
  if isDecimal a && isDecimal b then
    let n := valueIn 10 [a, b]
    if min ≤ n ∧ n ≤ max then some n else none
  else none

/-- The days of a month. -/
def daysIn (year month : Nat) : Nat :=
  if month = 2 then
    if year % 4 = 0 ∧ (year % 100 ≠ 0 ∨ year % 400 = 0) then 29 else 28
  else if month = 4 ∨ month = 6 ∨ month = 9 ∨ month = 11 then 30
  else 31

/-- A date of ten characters. -/
def isDate : List Char → Bool
  | [y1, y2, y3, y4, '-', m1, m2, '-', d1, d2] =>
    [y1, y2, y3, y4].all isDecimal
      && ((twoDigits 1 12 m1 m2).bind fun m =>
        twoDigits 1 (daysIn (valueIn 10 [y1, y2, y3, y4]) m) d1 d2).isSome
  | _ => false

/-- The text behind a time without an offset. -/
def afterTime : List Char → Option (List Char)
  | h1 :: h2 :: ':' :: m1 :: m2 :: ':' :: s1 :: s2 :: cs => do
    let _ ← twoDigits 0 23 h1 h2
    let _ ← twoDigits 0 59 m1 m2
    let _ ← twoDigits 0 60 s1 s2
    match cs with
    | '.' :: f :: cs => if isDecimal f then some (cs.dropWhile isDecimal) else none
    | ['.'] => none
    | cs => some cs
  | _ => none

/-- A time without an offset. -/
def isTime (cs : List Char) : Bool := afterTime cs == some []

/-- An offset from universal time. -/
def isOffset : List Char → Bool
  | ['Z'] => true
  | ['z'] => true
  | [sign, h1, h2, ':', m1, m2] =>
    (sign == '+' || sign == '-') && (twoDigits 0 23 h1 h2).isSome && (twoDigits 0 59 m1 m2).isSome
  | _ => false

/-- A time with or without an offset. -/
def isTimeWithOffset (cs : List Char) : Bool :=
  match afterTime cs with
  | some [] => true
  | some rest => isOffset rest
  | none => false

/-- A moment in one word: a date, a time, or both with the letter T between them. -/
def isMoment (word : List Char) : Bool :=
  isDate word || isTime word
    || (isDate (word.take 10)
      && match word.drop 10 with
        | 'T' :: time => isTimeWithOffset time
        | 't' :: time => isTimeWithOffset time
        | _ => false)

end CommandConsole.Toml
