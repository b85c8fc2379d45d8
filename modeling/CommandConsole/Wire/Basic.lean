import CommandConsole.Json.Record
import CommandConsole.Json.Value

/-!
# Wire types

A wire type has a JSON form: a value to write and a reader that takes a value of the type from a
tree. The two written texts, compact and pretty, are read back by the same reader.
-/

namespace CommandConsole

/-- A type with a JSON form. -/
class Wire (α : Type) where
  toJson : α → Json
  reader : Json.Reader α

namespace Wire

variable {α : Type} [Wire α]

/-- The compact text of a value. -/
def compact (a : α) : String := (toJson a).compact

/-- The pretty text of a value. -/
def pretty (a : α) : String := (toJson a).pretty

/-- The value that makes up a whole text. -/
def ofText (s : String) : Except Json.Fault α := reader (Json.Tree.ofText s)

/-- The first value of a source; what follows it is not looked at. -/
def ofSource (s : Json.Source) : Except Json.Fault α := reader (Json.Tree.read s).1

/-- An optional value, null when it is absent. -/
def orNull : Option α → Json
  | some a => toJson a
  | none => .null

/-- The reader as a check of a record's field. -/
def check (α : Type) [Wire α] : Json.Tree → Except Json.Fault Unit :=
  Json.Reader.check (reader : Json.Reader α)

/-- The check of a record's field that may be null. -/
def checkOrNull (α : Type) [Wire α] : Json.Tree → Except Json.Fault Unit :=
  Json.Reader.check (Json.Reader.orNull (reader : Json.Reader α))

end Wire

instance : Wire String where
  toJson := .string
  reader := .text

instance : Wire Bool where
  toJson := .bool
  reader := .bool

instance {α : Type} [Wire α] : Wire (List α) where
  toJson as := .array (as.map Wire.toJson)
  reader := .list Wire.reader

/-- A number of 32 bits. -/
instance : Wire UInt32 where
  toJson n := .number n.toNat
  reader t := (Json.Reader.natural 4294967295 t).map UInt32.ofNat

/-- A number of 64 bits. -/
instance : Wire UInt64 where
  toJson n := .number n.toNat
  reader t := (Json.Reader.natural 18446744073709551615 t).map UInt64.ofNat

end CommandConsole
