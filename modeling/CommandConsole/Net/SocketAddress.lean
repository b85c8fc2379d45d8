/-!
# Socket addresses

An address of the internet protocol with a port, as text. Version 4 is four decimal octets without
leading zeros; version 6 stands in brackets: eight groups of up to four hexadecimal digits, one
`::` for one or more groups of zero, the last two groups possibly as an address of version 4, and an
optional numeric scope behind a percent sign.

An address is written in one way only: groups in lower case without leading zeros, `::` for the
longest run of two or more groups of zero (the first of several), and the dotted form only for the
addresses of version 4 that are mapped into version 6.
-/

namespace CommandConsole.Net

/-- An address with a port. -/
inductive SocketAddress where
  | v4 (octets : List Nat) (port : Nat)
  | v6 (groups : List Nat) (scope port : Nat)
  deriving DecidableEq, Repr

/-- Reads a value from the front of a text, or refuses it. -/
abbrev Scan (α : Type) := List Char → Option (α × List Char)

/-! ## 1. Reading -/

/-- The value of a digit in a base of up to 16. -/
def digitIn (base : Nat) (c : Char) : Option Nat :=
  let value :=
    if '0' ≤ c ∧ c ≤ '9' then some (c.toNat - 48)
    else if 'a' ≤ c ∧ c ≤ 'f' then some (c.toNat - 87)
    else if 'A' ≤ c ∧ c ≤ 'F' then some (c.toNat - 55)
    else none
  value.filter (· < base)

/-- The digits a text starts with. -/
def digits (base : Nat) (cs : List Char) : List Char :=
  cs.takeWhile fun c => (digitIn base c).isSome

/-- A number of at most `max`, of at most `length` digits if that is given. Zeros in front count as
    digits, and are refused unless `zeros` allows them. -/
def number (base max : Nat) (length : Option Nat) (zeros : Bool) : Scan Nat := fun cs =>
  let ds := digits base cs
  let value := ds.foldl (fun n c => base * n + (digitIn base c).getD 0) 0
  let tooLong := match length with
    | some l => l < ds.length
    | none => false
  if ds.isEmpty || tooLong || max < value || (!zeros && 1 < ds.length && ds.head? == some '0')
  then none
  else some (value, cs.drop ds.length)

/-- A given character. -/
def char (c : Char) : List Char → Option (List Char)
  | d :: cs => if c = d then some cs else none
  | [] => none

/-- An octet. -/
def octet : Scan Nat := number 10 255 (some 3) false

/-- Four octets with dots between them. -/
def dotted : Scan (List Nat) := fun cs => do
  let (a, cs) ← octet cs
  let (b, cs) ← octet (← char '.' cs)
  let (c, cs) ← octet (← char '.' cs)
  let (d, cs) ← octet (← char '.' cs)
  return ([a, b, c, d], cs)

/-- A port behind its colon. -/
def port : Scan Nat := fun cs => do
  number 10 65535 none true (← char ':' cs)

/-- A colon, unless this is the first group. -/
def separator (first : Bool) (cs : List Char) : Option (List Char) :=
  if first then some cs else char ':' cs

/-- The two groups that four octets make up. -/
def pairOctets : List Nat → List Nat
  | a :: b :: rest => (256 * a + b) :: pairOctets rest
  | _ => []

/-- Up to `n` groups with colons between them, as many as there are, and whether the last two came
    as octets with dots. -/
def groups (first : Bool) : Nat → List Char → List Nat × Bool × List Char
  | 0, cs => ([], false, cs)
  | n + 1, cs =>
    let octets := if n = 0 then none else (separator first cs).bind dotted
    match octets with
    | some (os, rest) => (pairOctets os, true, rest)
    | none =>
      match (separator first cs).bind (number 16 65535 (some 4) true) with
      | some (g, rest) =>
        let (gs, dots, rest) := groups false n rest
        (g :: gs, dots, rest)
      | none => ([], false, cs)

/-- The eight groups of an address of version 6. -/
def eightGroups : Scan (List Nat) := fun cs =>
  let (head, dots, cs) := groups true 8 cs
  if head.length = 8 then some (head, cs)
  else if dots then none
  else do
    let cs ← char ':' (← char ':' cs)
    let (tail, _, cs) := groups true (7 - head.length) cs
    return (head ++ List.replicate (8 - head.length - tail.length) 0 ++ tail, cs)

/-- A scope behind its percent sign; zero if there is none. -/
def scope (cs : List Char) : Nat × List Char :=
  (((char '%' cs).bind (number 10 4294967295 none true))).getD (0, cs)

/-- An address of version 4 with a port. -/
def version4 : Scan SocketAddress := fun cs => do
  let (octets, cs) ← dotted cs
  let (p, cs) ← port cs
  return (.v4 octets p, cs)

/-- An address of version 6 with a port. -/
def version6 : Scan SocketAddress := fun cs => do
  let (gs, cs) ← eightGroups (← char '[' cs)
  let (s, cs) := scope cs
  let (p, cs) ← port (← char ']' cs)
  return (.v6 gs s p, cs)

/-- The address that makes up a whole text. -/
def SocketAddress.ofString (s : String) : Option SocketAddress :=
  match version4 s.toList with
  | some (a, []) => some a
  | some (_, _ :: _) => none
  | none =>
    match version6 s.toList with
    | some (a, []) => some a
    | _ => none

/-! ## 2. Writing -/

/-- A number in decimal digits. -/
def decimal (n : Nat) : String := String.ofList (Nat.toDigits 10 n)

/-- A number in hexadecimal digits. -/
def hexadecimal (n : Nat) : String := String.ofList (Nat.toDigits 16 n)

/-- Octets with dots between them. -/
def writeDotted (octets : List Nat) : String := ".".intercalate (octets.map decimal)

/-- Groups with colons between them. -/
def writeGroups (gs : List Nat) : String := ":".intercalate (gs.map hexadecimal)

/-- Where the longest run of zeros begins and how long it is, the first of several; `i` is the
    position, `now` the length of the run that ends here. -/
def longestZeros (i now : Nat) (best : Nat × Nat) : List Nat → Nat × Nat
  | [] => best
  | g :: gs =>
    if g = 0 then
      let now := now + 1
      longestZeros (i + 1) now (if best.2 < now then (i + 1 - now, now) else best) gs
    else longestZeros (i + 1) 0 best gs

/-- The eight groups of an address of version 6. -/
def writeEightGroups (gs : List Nat) : String :=
  match gs with
  | [0, 0, 0, 0, 0, 65535, g, h] =>
    "::ffff:" ++ writeDotted [g / 256, g % 256, h / 256, h % 256]
  | _ =>
    let (start, length) := longestZeros 0 0 (0, 0) gs
    if 1 < length then
      writeGroups (gs.take start) ++ "::" ++ writeGroups (gs.drop (start + length))
    else writeGroups gs

/-- The text of an address. A scope of zero is left out. -/
def SocketAddress.toText : SocketAddress → String
  | .v4 octets p => writeDotted octets ++ ":" ++ decimal p
  | .v6 gs s p =>
    "[" ++ writeEightGroups gs ++ (if s = 0 then "" else "%" ++ decimal s) ++ "]:" ++ decimal p

end CommandConsole.Net
