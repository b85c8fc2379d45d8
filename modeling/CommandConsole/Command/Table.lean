import Std.Data.HashMap
import CommandConsole.Command.Spec

/-!
# The command table

A list of specifications in the order of their declaration, with an index from names to positions
beside it. The index is built once, from the front, and never overwritten: of two specifications
with one name the first is found. Names are compared exactly. Listing and counting go over the list
itself, so they show a repeated name as often as it was declared.
-/

namespace CommandConsole

/-- Adds position `i` of `s` to an index unless its name is there already. -/
def CommandTable.indexOne (index : Std.HashMap String Nat) (entry : CommandSpec × Nat) :
    Std.HashMap String Nat :=
  if index.contains entry.1.name then index else index.insert entry.1.name entry.2

/-- The index of a list of specifications. -/
def CommandTable.indexOf (specs : List CommandSpec) : Std.HashMap String Nat :=
  specs.zipIdx.foldl CommandTable.indexOne ∅

/-- A table of commands: the specifications and their index. -/
structure CommandTable where
  specs : List CommandSpec
  index : Std.HashMap String Nat
  /-- The index is the one of the list. -/
  index_eq : index = CommandTable.indexOf specs

namespace CommandTable

/-- The table over a list of specifications. -/
def ofList (specs : List CommandSpec) : CommandTable :=
  { specs := specs, index := indexOf specs, index_eq := rfl }

/-- The specification found under a name. -/
def find? (t : CommandTable) (name : String) : Option CommandSpec :=
  t.index[name]?.bind fun i => t.specs[i]?

/-- Whether the index has a name. -/
def contains (t : CommandTable) (name : String) : Bool := t.index.contains name

/-- How many specifications were declared, repeated names included. -/
def size (t : CommandTable) : Nat := t.specs.length

/-- No specification was declared. -/
def isEmpty (t : CommandTable) : Bool := t.specs.isEmpty

/-- The specifications that produce output, in order. -/
def implemented (t : CommandTable) : List CommandSpec := t.specs.filter CommandSpec.implemented

/-- The listing of a table, all of it or only what produces output. -/
def summaries (t : CommandTable) (implementedOnly : Bool) : List CommandSummary :=
  (t.specs.map CommandSpec.summary).filter fun s => !implementedOnly || s.implemented

end CommandTable

end CommandConsole
