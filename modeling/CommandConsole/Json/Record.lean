import CommandConsole.Json.Tree

/-!
# Reading values from a tree

What is read has a type; a tree that does not have it is refused, and the fault says whether the
text is no JSON (`malformed`) or is JSON of another shape (`mismatch`). Faults are found in the
order of the text.

* A record is an object with named fields or an array of its fields in order. Unknown fields are
  passed over, but their text has to be JSON. A known field given twice is a mismatch where the
  second one stands, before its value is looked at.
* A word of a fixed set is a string or an object with that word as its only field and null in it.
-/

namespace CommandConsole.Json

/-- Why a tree could not be read as a value. -/
inductive Fault where
  /-- The text is no JSON. -/
  | malformed
  /-- The text is JSON, but not of the shape that is wanted. -/
  | mismatch
  deriving DecidableEq, Repr

/-- Reads a value from a tree. -/
abbrev Reader (α : Type) := Tree → Except Fault α

/-! ## 1. Single values -/

/-- The fault of a tree that stands where a value of another type is wanted. A string or number
    that is not even a value is malformed. -/
def Tree.unwanted : Tree → Fault
  | .broken | .text none => .malformed
  | .number n => if n.overflows then .malformed else .mismatch
  | _ => .mismatch

/-- A string. -/
def Reader.text : Reader String
  | .text (some s) => .ok s
  | t => .error t.unwanted

/-- A truth value. -/
def Reader.bool : Reader Bool
  | .bool b => .ok b
  | t => .error t.unwanted

/-- A natural number of at most `max`. -/
def Reader.natural (max : Nat) : Reader Nat
  | .number n =>
    match n.natural? with
    | some v => if v ≤ max then .ok v else .error (Tree.number n).unwanted
    | none => .error (Tree.number n).unwanted
  | t => .error t.unwanted

/-- A value or null. -/
def Reader.orNull {α : Type} (r : Reader α) : Reader (Option α)
  | .null => .ok none
  | t => (r t).map some

/-- A list of values. -/
def Reader.list {α : Type} (r : Reader α) : Reader (List α)
  | .array ts => ts.mapM r
  | t => .error t.unwanted

/-- A word of a fixed set, or an object with the word as its only field and null in it. -/
def Reader.word {α : Type} (meaning : String → Option α) : Reader α
  | .text (some s) => ((meaning s).map Except.ok).getD (.error .mismatch)
  | .object ((some s, v) :: more) =>
    match meaning s, v, more with
    | none, _, _ => .error .mismatch
    | some a, .null, [] => .ok a
    | some _, .null, _ => .error .malformed
    | some _, t, _ => .error t.unwanted
  | _ => .error .malformed

/-! ## 2. Records -/

/-- The fields of a record: their names in order, each with a check of its value. -/
abbrev Fields := List (String × (Tree → Except Fault Unit))

/-- A check that a reader succeeds. -/
def Reader.check {α : Type} (r : Reader α) (t : Tree) : Except Fault Unit := (r t).map fun _ => ()

/-- The known fields found in a record. -/
structure Record where
  found : List (String × Tree)
  /-- The record was given as an array. -/
  positional : Bool

namespace Record

/-- The fields of an object one after the other; `found` are the known ones before. -/
def named (known : Fields) (found : List (String × Tree)) :
    List (Option String × Tree) → Except Fault (List (String × Tree))
  | [] => .ok found
  | (none, _) :: _ => .error .malformed
  | (some k, t) :: rest =>
    match known.lookup k with
    | none => if t.isWhole then named known found rest else .error .malformed
    | some check =>
      if (found.lookup k).isSome then .error .mismatch
      else
        match check t with
        | .error e => .error e
        | .ok () => named known (found ++ [(k, t)]) rest

/-- The items of an array as the fields in order. An item too many is malformed. -/
def ordered (found : List (String × Tree)) :
    Fields → List Tree → Except Fault (List (String × Tree))
  | _, [] => .ok found
  | [], _ :: _ => .error .malformed
  | (k, check) :: known, t :: ts =>
    match check t with
    | .error e => .error e
    | .ok () => ordered (found ++ [(k, t)]) known ts

/-- The known fields of a record. -/
def ofTree (known : Fields) : Tree → Except Fault Record
  | .object fs => (named known [] fs).map fun found => { found := found, positional := false }
  | .array ts => (ordered [] known ts).map fun found => { found := found, positional := true }
  | t => .error t.unwanted

/-- A field that has to be there. -/
def get {α : Type} (r : Record) (name : String) (read : Reader α) : Except Fault α :=
  match r.found.lookup name with
  | some t => read t
  | none => .error .mismatch

/-- A field whose value may be null and which an object may leave out. -/
def getOrNull {α : Type} (r : Record) (name : String) (read : Reader α) :
    Except Fault (Option α) :=
  match r.found.lookup name with
  | some t => Reader.orNull read t
  | none => if r.positional then .error .mismatch else .ok none

/-- A field that may be left out for a default. -/
def getOr {α : Type} (r : Record) (name : String) (read : Reader α) (default : α) :
    Except Fault α :=
  match r.found.lookup name with
  | some t => read t
  | none => .ok default

end Record

end CommandConsole.Json
