import CommandConsole.Text.Split
import CommandConsole.Text.Utf8

/-!
# Percent-encoding and form fields

In the path and the query of an address a percent sign with two hexadecimal digits stands for a
byte. A percent sign without them stands for itself. A query is a sequence of fields with ampersands
between them; in it a plus sign stands for a space.
-/

namespace CommandConsole.Text

/-- The value of a byte that is a hexadecimal digit. -/
def hexByte? (b : UInt8) : Option UInt8 :=
  if 0x30 ≤ b && b ≤ 0x39 then some (b - 0x30)
  else if 0x41 ≤ b && b ≤ 0x46 then some (b - 0x37)
  else if 0x61 ≤ b && b ≤ 0x66 then some (b - 0x57)
  else none

/-- The bytes that an encoded text stands for. -/
def percentDecode : List UInt8 → List UInt8
  | 0x25 :: h :: l :: rest =>
    match hexByte? h, hexByte? l with
    | some a, some b => (16 * a + b) :: percentDecode rest
    | _, _ => 0x25 :: percentDecode (h :: l :: rest)
  | b :: rest => b :: percentDecode rest
  | [] => []

/-- A part of a query: plus signs are spaces, and damaged text is mended. -/
def formText (cs : List Char) : String :=
  let spaced := String.ofList (cs.map fun c => if c = '+' then ' ' else c)
  Utf8.lossy (percentDecode (Utf8.encode spaced))

/-- The name and the value of a field; a field without an equals sign has an empty value. -/
def formField (cs : List Char) : String × String :=
  (formText (cs.takeWhile (· != '=')), formText ((cs.dropWhile (· != '=')).drop 1))

/-- The fields of a query; empty ones are passed over. -/
def formFields (query : String) : List (String × String) :=
  ((splitAt '&' query.toList).filter (!·.isEmpty)).map formField

end CommandConsole.Text
