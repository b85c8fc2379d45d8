import CommandConsole.Toml.Scalars

/-!
# TOML documents

A document of TOML 1.0 read as a table of values, or refused. Refused are malformed texts and
tables that are defined twice: a key given twice, a header for a table that has one already, a key
or header that goes through something closed.

* `Node` is a table under construction. It remembers of each table whether only names below it have
  been given so far (`implied`) and whether it was opened by a dotted key (`dotted`); a table is
  closed against what its kind does not allow.
* Values in braces and brackets may be nested less than eighty deep.
* Values hold values, so their equality is decided by hand (`same`).
-/

namespace CommandConsole

/-- A value of a TOML document. -/
inductive Toml where
  | string (s : String)
  | integer (n : Int)
  /-- A number with a fraction or exponent, as written. -/
  | float (written : String)
  | boolean (b : Bool)
  /-- A date or time, as written. -/
  | moment (written : String)
  | array (items : List Toml)
  | table (entries : List (String × Toml))

namespace Toml

/-! ## 1. Tables under construction -/

/-- A part of a document under construction. -/
inductive Node where
  | value (v : Toml)
  | table (implied dotted : Bool) (entries : List (String × Node))
  /-- An array of tables, each opened by its own header. -/
  | tables (elements : List (List (String × Node)))

/-- The entries of a table under construction. -/
abbrev Entries := List (String × Node)

/-- Replaces the node under a key, or adds it at the end. -/
def put (k : String) (n : Node) : Entries → Entries
  | [] => [(k, n)]
  | (j, m) :: es => if j = k then (j, n) :: es else (j, m) :: put k n es

/-- Changes the table at the end of a path. Tables on the way that do not exist are implied, and
    `dotted` if a dotted key asks for them; an array of tables stands for its last element. A value
    on the way is in the way, and so is, for a dotted key, a table that has its own header. The
    change is told whether the table it gets was opened by dotted keys. -/
def alter (dotted : Bool) (change : Bool → Entries → Option Entries) (here : Bool) :
    List String → Entries → Option Entries
  | [], es => change here es
  | k :: path, es =>
    match es.lookup k with
    | none =>
      (alter dotted change dotted path []).map fun inner => put k (.table true dotted inner) es
    | some (.value _) => none
    | some (.table implied isDotted inner) =>
      if dotted && !implied then none
      else
        (alter dotted change isDotted path inner).map fun inner =>
          put k (.table implied isDotted inner) es
    | some (.tables elements) =>
      match elements.getLast? with
      | none => none
      | some last =>
        (alter dotted change false path last).map fun last =>
          put k (.tables (elements.dropLast ++ [last])) es

/-- Adds a value under a new key. A table reached by a path has to be one that dotted keys opened. -/
def addValue (path : List String) (k : String) (v : Toml) (es : Entries) : Option Entries :=
  alter true (fun isDotted inner =>
    if isDotted == path.isEmpty || (inner.lookup k).isSome then none
    else some (inner ++ [(k, .value v)])) false path es

/-- Adds the values of a table one after the other. -/
def addValues (es : Entries) (values : List (List String × String × Toml)) : Option Entries :=
  values.foldlM (fun es (path, k, v) => addValue path k v es) es

mutual

/-- The value that a finished node stands for. -/
def Node.finish : Node → Toml
  | .value v => v
  | .table _ _ es => .table (finishEntries es)
  | .tables ts => .array (finishTables ts)

/-- The entries of a finished table. -/
def finishEntries : List (String × Node) → List (String × Toml)
  | [] => []
  | (k, n) :: es => (k, n.finish) :: finishEntries es

/-- The elements of a finished array of tables. -/
def finishTables : List (List (String × Node)) → List Toml
  | [] => []
  | t :: ts => .table (finishEntries t) :: finishTables ts

end

/-! ## 2. Keys -/

/-- A character of a key without quotes. -/
def isBare (c : Char) : Bool :=
  ('a' ≤ c && c ≤ 'z') || ('A' ≤ c && c ≤ 'Z') || isDecimal c || c == '_' || c == '-'

/-- One part of a key. -/
def keyPart : Scan String
  | '"' :: cs => basic cs
  | '\'' :: cs => literal cs
  | cs =>
    match cs.takeWhile isBare with
    | [] => none
    | name => some (String.ofList name, cs.dropWhile isBare)

/-- How many parts a key may have, and how deep values may be nested: less than this. -/
def depthLimit : Nat := 80

/-- The parts of a key, blanks allowed around the dots; those read so far are `seen`, last first. -/
def keyFrom : Nat → List String → Scan (List String)
  | 0, _, _ => none
  | n + 1, seen, cs =>
    (keyPart (skipSpace cs)).bind fun (part, cs) =>
      match skipSpace cs with
      | '.' :: cs => keyFrom n (part :: seen) cs
      | cs => some ((part :: seen).reverse, cs)

/-- A key with at least one part: its path and its last part. -/
def key : Scan (List String × String) := fun cs =>
  (keyFrom (cs.length + 1) [] cs).bind fun (parts, cs) =>
    match parts.getLast? with
    | some last =>
      if parts.length < depthLimit then some ((parts.dropLast, last), cs) else none
    | none => none

/-! ## 3. Values -/

/-- A character of a word. -/
def isWordChar (c : Char) : Bool := isBare c || c == '+' || c == '.' || c == ':'

/-- A word as a value. -/
def scalar (word : List Char) : Option Toml :=
  if word = "true".toList then some (.boolean true)
  else if word = "false".toList then some (.boolean false)
  else
    match integer? word with
    | some n => some (.integer n)
    | none =>
      if isMoment word then some (.moment (String.ofList word))
      else if isFloat word then some (.float (String.ofList word))
      else none

/-- A value that is one word, or a date and a time with one space between them. -/
def wordValue : Scan Toml := fun cs =>
  let word := cs.takeWhile isWordChar
  let rest := cs.dropWhile isWordChar
  let alone := (scalar word).map fun v => (v, rest)
  match rest with
  | ' ' :: more =>
    let time := more.takeWhile isWordChar
    if isDate word && isTimeWithOffset time then
      some (.moment (String.ofList (word ++ ' ' :: time)), more.dropWhile isWordChar)
    else alone
  | _ => alone

/-- The text behind the blanks, comments and line ends that it starts with; none at a malformed
    comment. -/
def skipFiller : Nat → List Char → Option (List Char)
  | 0, cs => some cs
  | n + 1, cs =>
    match cs with
    | ' ' :: cs => skipFiller n cs
    | '\t' :: cs => skipFiller n cs
    | '\n' :: cs => skipFiller n cs
    | '\r' :: '\n' :: cs => skipFiller n cs
    | '#' :: cs =>
      match cs.dropWhile isVisible with
      | [] => some []
      | rest => (lineEnd? rest).bind (skipFiller n)
    | cs => some cs

/-- The items of an array, behind those read so far (last first). -/
def arrayFrom (item : Scan Toml) : Nat → List Toml → Scan Toml
  | 0, _, _ => none
  | n + 1, seen, cs =>
    (skipFiller cs.length cs).bind fun cs =>
      match cs with
      | ']' :: cs => some (.array seen.reverse, cs)
      | cs =>
        (item cs).bind fun (v, cs) =>
          (skipFiller cs.length cs).bind fun cs =>
            match cs with
            | ',' :: cs => arrayFrom item n (v :: seen) cs
            | ']' :: cs => some (.array (v :: seen).reverse, cs)
            | _ => none

/-- A key, the equals sign and a value. -/
def pair (item : Scan Toml) : Scan (List String × String × Toml) := fun cs =>
  (key cs).bind fun ((path, k), cs) =>
    match skipSpace cs with
    | '=' :: cs => (item (skipSpace cs)).map fun (v, cs) => ((path, k, v), cs)
    | _ => none

/-- The pairs of a table in braces, behind those read so far (last first). -/
def pairsFrom (item : Scan Toml) :
    Nat → List (List String × String × Toml) → Scan (List (List String × String × Toml))
  | 0, _, _ => none
  | n + 1, seen, cs =>
    (pair item cs).bind fun (p, cs) =>
      match skipSpace cs with
      | ',' :: cs => pairsFrom item n (p :: seen) cs
      | '\x7d' :: cs => some ((p :: seen).reverse, cs)
      | _ => none

/-- A table in braces, behind the opening one. -/
def braces (item : Scan Toml) : Scan Toml := fun cs =>
  match skipSpace cs with
  | '\x7d' :: cs => some (.table [], cs)
  | cs =>
    (pairsFrom item (cs.length + 1) [] cs).bind fun (pairs, cs) =>
      (addValues [] pairs).map fun es => (.table (finishEntries es), cs)

/-- A value; `depth` is how many arrays and tables may be opened inside each other. -/
def value : Nat → Scan Toml
  | _, '"' :: cs => (anyString ('"' :: cs)).map fun (s, cs) => (.string s, cs)
  | _, '\'' :: cs => (anyString ('\'' :: cs)).map fun (s, cs) => (.string s, cs)
  | depth + 1, '[' :: cs => arrayFrom (value depth) (cs.length + 1) [] cs
  | depth + 1, '\x7b' :: cs => braces (value depth) cs
  | _, cs => wordValue cs

/-! ## 4. Documents -/

/-- The end of an expression: blanks, a comment, and a line end or the end of the text. -/
def endOfLine (cs : List Char) : Option (List Char) :=
  let rest := match skipSpace cs with
    | '#' :: cs => cs.dropWhile isVisible
    | cs => cs
  match rest with
  | [] => some []
  | rest => lineEnd? rest

/-- A header: whether it opens an element of an array of tables, and its key. -/
inductive Header where
  | table (path : List String) (name : String)
  | element (path : List String) (name : String)

/-- A section of a document: its header, none for the beginning, and its values. -/
structure Section where
  header : Option Header
  values : List (List String × String × Toml)

/-- A header and its brackets, behind the first bracket. -/
def header : Scan Header
  | '[' :: cs =>
    (key cs).bind fun ((path, name), cs) =>
      match cs with
      | ']' :: ']' :: cs => some (.element path name, cs)
      | _ => none
  | cs =>
    (key cs).bind fun ((path, name), cs) =>
      match cs with
      | ']' :: cs => some (.table path name, cs)
      | _ => none

/-- The sections of a document from here on. The section begun is `now`, its values last first, and
    those before it are `before`, last first. -/
def sections : Nat → List Section → Section → List Char → Option (List Section)
  | 0, _, _, _ => none
  | n + 1, before, now, cs =>
    let closed := { now with values := now.values.reverse } :: before
    match skipSpace cs with
    | [] => some closed.reverse
    | '[' :: cs =>
      (header cs).bind fun (h, cs) =>
        (endOfLine cs).bind fun cs => sections n closed { header := some h, values := [] } cs
    | c :: cs =>
      if c = '#' || c = '\n' || c = '\r' then
        (endOfLine (c :: cs)).bind fun cs => sections n before now cs
      else
        (pair (value (depthLimit - 1)) (c :: cs)).bind fun (p, cs) =>
          (endOfLine cs).bind fun cs =>
            sections n before { now with values := p :: now.values } cs

/-- The entries of a document with one more section. A table gets one header at most, and only a
    table that is merely implied may get it later. -/
def addSection (es : Entries) (s : Section) : Option Entries :=
  match s.header with
  | none => addValues es s.values
  | some (.table path name) =>
    alter false (fun _ inner =>
      match inner.lookup name with
      | none => (addValues [] s.values).map fun t => put name (.table false false t) inner
      | some (.table true false t) =>
        (addValues t s.values).map fun t => put name (.table false false t) inner
      | some _ => none) false path es
  | some (.element path name) =>
    alter false (fun _ inner =>
      match inner.lookup name with
      | none => (addValues [] s.values).map fun t => put name (.tables [t]) inner
      | some (.tables ts) =>
        (addValues [] s.values).map fun t => put name (.tables (ts ++ [t])) inner
      | some _ => none) false path es

/-- A text without the byte order mark that it may start with. -/
def dropMark : List Char → List Char
  | '\ufeff' :: cs => cs
  | cs => cs

/-- The table that a document denotes. -/
def ofChars (cs : List Char) : Option (List (String × Toml)) :=
  let cs := dropMark cs
  (sections (cs.length + 1) [] { header := none, values := [] } cs).bind fun ss =>
    (ss.foldlM addSection []).map finishEntries

/-- The table that the text of a document denotes. -/
def ofString (s : String) : Option (List (String × Toml)) := ofChars s.toList

/-! ## 5. Equality -/

mutual

/-- Two values are the same. -/
def same : Toml → Toml → Bool
  | .string s, .string t => s == t
  | .integer m, .integer n => m == n
  | .float s, .float t => s == t
  | .boolean b, .boolean c => b == c
  | .moment s, .moment t => s == t
  | .array vs, .array ws => sameItems vs ws
  | .table es, .table fs => sameEntries es fs
  | _, _ => false

/-- `same` on the items of arrays. -/
def sameItems : List Toml → List Toml → Bool
  | [], [] => true
  | v :: vs, w :: ws => v.same w && sameItems vs ws
  | _, _ => false

/-- `same` on the entries of tables, in their order. -/
def sameEntries : List (String × Toml) → List (String × Toml) → Bool
  | [], [] => true
  | (k, v) :: es, (l, w) :: fs => k == l && v.same w && sameEntries es fs
  | _, _ => false

end

mutual

theorem eq_of_same : ∀ {v w : Toml}, v.same w = true → v = w
  | .string _, w, h => by cases w <;> simp_all [same]
  | .integer _, w, h => by cases w <;> simp_all [same]
  | .float _, w, h => by cases w <;> simp_all [same]
  | .boolean _, w, h => by cases w <;> simp_all [same]
  | .moment _, w, h => by cases w <;> simp_all [same]
  | .array _, w, h => by
    cases w <;> simp only [same, Bool.false_eq_true] at h
    rw [eq_of_sameItems h]
  | .table _, w, h => by
    cases w <;> simp only [same, Bool.false_eq_true] at h
    rw [eq_of_sameEntries h]

theorem eq_of_sameItems : ∀ {vs ws : List Toml}, sameItems vs ws = true → vs = ws
  | [], ws, h => by cases ws <;> simp_all [sameItems]
  | _ :: _, ws, h => by
    cases ws <;> simp only [sameItems, Bool.false_eq_true, Bool.and_eq_true] at h
    rw [eq_of_same h.1, eq_of_sameItems h.2]

theorem eq_of_sameEntries :
    ∀ {es fs : List (String × Toml)}, sameEntries es fs = true → es = fs
  | [], fs, h => by cases fs <;> simp_all [sameEntries]
  | (_, _) :: _, fs, h => by
    cases fs <;> simp only [sameEntries, Bool.false_eq_true, Bool.and_eq_true, beq_iff_eq] at h
    rw [h.1.1, eq_of_same h.1.2, eq_of_sameEntries h.2]

end

mutual

theorem same_self : ∀ v : Toml, v.same v = true
  | .string s => by simp [same]
  | .integer n => by simp [same]
  | .float s => by simp [same]
  | .boolean b => by simp [same]
  | .moment s => by simp [same]
  | .array vs => by rw [same, sameItems_self vs]
  | .table es => by rw [same, sameEntries_self es]

theorem sameItems_self : ∀ vs : List Toml, sameItems vs vs = true
  | [] => rfl
  | v :: vs => by rw [sameItems, same_self v, sameItems_self vs, Bool.and_self]

theorem sameEntries_self : ∀ es : List (String × Toml), sameEntries es es = true
  | [] => rfl
  | (k, v) :: es => by
    rw [sameEntries, same_self v, sameEntries_self es, beq_self_eq_true, Bool.and_self, Bool.and_self]

end

instance : DecidableEq Toml := fun v w =>
  decidable_of_iff (v.same w = true) ⟨eq_of_same, fun h => h ▸ same_self v⟩

end Toml

end CommandConsole
