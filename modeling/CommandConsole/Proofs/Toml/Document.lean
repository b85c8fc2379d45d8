import CommandConsole.Proofs.Toml.Values

/-!
# Written TOML documents are read back

A document of plain keys: lines that give values, and tables with a header each, behind an empty
line. All names are without quotes and differ where they stand side by side.

* `Reaches`: the reader comes from one place in a document to another. It comes past a line
  (`reaches_line`), an empty line and a header (`reaches_block`).
* `addSection_block`: a table is added to a document that has no such name yet.
* `ofChars_document`: such a document is read as the table it was written from.
-/

namespace CommandConsole.Toml

/-! ## 1. Documents -/

/-- A key, its value, and the text of the value. -/
structure Line where
  key : String
  text : List Char
  denoted : Toml

/-- A name that needs no quotes. -/
def BareName (name : String) : Prop := name.toList ≠ [] ∧ ∀ c ∈ name.toList, isBare c = true

instance (name : String) : Decidable (BareName name) :=
  decidable_of_iff ((!name.toList.isEmpty && name.toList.all isBare) = true) (by simp [BareName])

/-- A line that the reader understands. -/
structure Line.Plain (l : Line) : Prop where
  bare : BareName l.key
  denotes : Denotes l.text l.denoted

/-- How a line is written. -/
def Line.chars (l : Line) : List Char := l.key.toList ++ ' ' :: '=' :: ' ' :: (l.text ++ ['\n'])

/-- The pair that a line is read as. -/
def Line.pair (l : Line) : List String × String × Toml := ([], l.key, l.denoted)

/-- The entry that a line gives. -/
def Line.entry (l : Line) : String × Toml := (l.key, l.denoted)

/-- A table with its header. -/
structure Block where
  name : String
  lines : List Line

/-- A table that the reader understands. -/
structure Block.Plain (b : Block) : Prop where
  bare : BareName b.name
  lines : ∀ l ∈ b.lines, l.Plain
  nodup : (b.lines.map (·.key)).Nodup

/-- How a table is written. -/
def Block.chars (b : Block) : List Char :=
  '\n' :: '[' :: (b.name.toList ++ ']' :: '\n' :: b.lines.flatMap Line.chars)

/-- The section that a table is read as. -/
def Block.section (b : Block) : Section :=
  { header := some (.table [] b.name), values := b.lines.map Line.pair }

/-- The entry that a table gives. -/
def Block.entry (b : Block) : String × Toml := (b.name, .table (b.lines.map Line.entry))

/-- A document: lines, and tables behind them. -/
structure Document where
  lines : List Line
  blocks : List Block

namespace Document

/-- A document that the reader understands. -/
structure Plain (d : Document) : Prop where
  lines : ∀ l ∈ d.lines, l.Plain
  blocks : ∀ b ∈ d.blocks, b.Plain
  nodup : (d.lines.map (·.key) ++ d.blocks.map (·.name)).Nodup

/-- How a document is written. -/
def chars (d : Document) : List Char := d.lines.flatMap Line.chars ++ d.blocks.flatMap Block.chars

/-- The table that a document gives. -/
def entries (d : Document) : List (String × Toml) :=
  d.lines.map Line.entry ++ d.blocks.map Block.entry

end Document

variable {before : List Section} {now : Section} {name : String} {rest : List Char}

/-! ## 2. Keys and lines -/

/-- A name begins with a character of a name. -/
theorem BareName.eq_cons (h : BareName name) : ∃ c cs, name.toList = c :: cs ∧ isBare c = true := by
  obtain ⟨c, cs, hname⟩ := List.exists_cons_of_ne_nil h.1
  exact ⟨c, cs, hname, h.2 c (by simp [hname])⟩

theorem skipSpace_of_head {cs : List Char} (h : ∀ c ∈ cs.head?, isSpace c = false) :
    skipSpace cs = cs := by
  cases cs with
  | nil => rfl
  | cons c cs => simp [skipSpace, h c rfl]

theorem isSpace_of_isBare {c : Char} (h : isBare c = true) : isSpace c = false := by
  have hblank : c ≠ ' ' := ne_of_kind h (by decide)
  have htab : c ≠ '\t' := ne_of_kind h (by decide)
  simp [isSpace, hblank, htab]

/-- A name in front of something else is taken as a part of a key. -/
theorem keyPart_append (hname : BareName name) (hrest : ∀ c ∈ rest.head?, isBare c = false) :
    keyPart (name.toList ++ rest) = some (name, rest) := by
  have htake := Text.takeWhile_word hname.2 hrest
  have hdrop := Text.dropWhile_word hname.2 hrest
  obtain ⟨c, cs, hcs, hc⟩ := hname.eq_cons
  have hdouble : c ≠ '"' := ne_of_kind hc (by decide)
  have hsingle : c ≠ '\'' := ne_of_kind hc (by decide)
  have hlast : String.ofList (c :: cs) = name := by rw [← hcs, String.ofList_toList]
  rw [hcs, List.cons_append] at htake hdrop ⊢
  rw [keyPart]
  · simp only [htake, hdrop, hlast]
  · exact fun _ h => hdouble (List.cons.inj h).1
  · exact fun _ h => hsingle (List.cons.inj h).1

/-- A name is a key of one part. -/
theorem key_append (hname : BareName name) (hrest : ∀ c ∈ rest.head?, isBare c = false)
    (hdot : (skipSpace rest).head? ≠ some '.') :
    key (name.toList ++ rest) = some (([], name), skipSpace rest) := by
  have hskip : skipSpace (name.toList ++ rest) = name.toList ++ rest := by
    obtain ⟨c, cs, hcs, hc⟩ := hname.eq_cons
    refine skipSpace_of_head ?_
    rw [hcs]
    rintro d ⟨⟩
    exact isSpace_of_isBare hc
  have hparts : keyFrom ((name.toList ++ rest).length + 1) [] (name.toList ++ rest)
      = some ([name], skipSpace rest) := by
    rw [keyFrom, hskip, keyPart_append hname hrest, Option.bind_some]
    dsimp only
    split
    · rename_i heq
      rw [heq] at hdot
      exact absurd rfl hdot
    · rfl
  rw [key, hparts]
  rfl

/-- A line is read as its pair, up to its line end. -/
theorem pair_line {l : Line} (h : l.Plain) (depth : Nat) (rest : List Char) :
    pair (value depth) (l.chars ++ rest) = some (l.pair, '\n' :: rest) := by
  obtain ⟨hbare, hhead, hdenotes⟩ := h
  have hchars : l.chars ++ rest
      = l.key.toList ++ ' ' :: '=' :: ' ' :: (l.text ++ '\n' :: rest) := by
    simp [Line.chars]
  have hkey : key (l.chars ++ rest)
      = some (([], l.key), '=' :: ' ' :: (l.text ++ '\n' :: rest)) := by
    rw [hchars, key_append hbare]
    · rfl
    · rintro c ⟨⟩
      decide
    · exact fun h => absurd (Option.some.inj h) (by decide)
  have hskip : skipSpace (' ' :: (l.text ++ '\n' :: rest)) = l.text ++ '\n' :: rest := by
    have hends : ∀ c ∈ (l.text ++ '\n' :: rest).head?, isSpace c = false := by
      cases ht : l.text with
      | nil => rintro c ⟨⟩; rfl
      | cons d ds => exact fun c hc => hhead c (by rw [ht]; exact hc)
    exact skipSpace_of_head hends
  have hequals : skipSpace ('=' :: ' ' :: (l.text ++ '\n' :: rest))
      = '=' :: ' ' :: (l.text ++ '\n' :: rest) := rfl
  simp only [pair, hkey, Option.bind_some, hequals, hskip, hdenotes, Option.map_some, Line.pair]

/-- A name in brackets is the header of a table. -/
theorem header_append (hname : BareName name) (rest : List Char) :
    header (name.toList ++ ']' :: rest) = some (.table [] name, rest) := by
  have hkey : key (name.toList ++ ']' :: rest) = some (([], name), ']' :: rest) := by
    rw [key_append hname]
    · rfl
    · rintro c ⟨⟩
      decide
    · exact fun h => absurd (Option.some.inj h) (by decide)
  obtain ⟨c, cs, hcs, hc⟩ := hname.eq_cons
  have hbracket : c ≠ '[' := ne_of_kind hc (by decide)
  rw [hcs, List.cons_append] at hkey ⊢
  rw [header]
  · simp only [hkey, Option.bind_some]
  · exact fun _ h => hbracket (List.cons.inj h).1

/-! ## 3. From place to place -/

/-- Where the reader of a document stands: the sections behind it, last first, the one begun, and
    the text left. -/
structure Place where
  before : List Section
  now : Section
  left : List Char

/-- The reader comes from one place to another. A step takes at least one character, so steps that
    are more than the characters left stay more. -/
def Reaches (p p' : Place) : Prop :=
  ∀ n, p.left.length < n →
    ∃ m, p'.left.length < m ∧ sections n p.before p.now p.left = sections m p'.before p'.now p'.left

theorem Reaches.refl (p : Place) : Reaches p p := fun n hn => ⟨n, hn, rfl⟩

theorem Reaches.trans {p p' p'' : Place} (h : Reaches p p') (h' : Reaches p' p'') :
    Reaches p p'' := by
  intro n hn
  obtain ⟨m, hm, hsame⟩ := h n hn
  obtain ⟨k, hk, hsame'⟩ := h' m hm
  exact ⟨k, hk, hsame.trans hsame'⟩

/-- A section with its values in their order. -/
def Section.closed (s : Section) : Section := { s with values := s.values.reverse }

theorem endOfLine_cons (cs : List Char) : endOfLine ('\n' :: cs) = some cs := rfl

/-- Past a line, its pair is the last of the section. -/
theorem reaches_line {l : Line} (h : l.Plain) (before : List Section) (now : Section)
    (rest : List Char) :
    Reaches ⟨before, now, l.chars ++ rest⟩
      ⟨before, { now with values := l.pair :: now.values }, rest⟩ := by
  intro n hn
  obtain ⟨n, rfl⟩ : ∃ m, n = m + 1 := ⟨n - 1, by omega⟩
  have hpair := pair_line h (depthLimit - 1) rest
  obtain ⟨c, cs, hcs, hc⟩ := h.bare.eq_cons
  have hleft : ∃ t, l.chars ++ rest = c :: t := by
    refine ⟨cs ++ ' ' :: '=' :: ' ' :: (l.text ++ '\n' :: rest), ?_⟩
    simp [Line.chars, hcs]
  obtain ⟨t, ht⟩ := hleft
  have hskip : skipSpace (c :: t) = c :: t := by
    refine skipSpace_of_head ?_
    rintro d ⟨⟩
    exact isSpace_of_isBare hc
  have hbracket : c ≠ '[' := ne_of_kind hc (by decide)
  have hhash : c ≠ '#' := ne_of_kind hc (by decide)
  have hfeed : c ≠ '\n' := ne_of_kind hc (by decide)
  have hreturn : c ≠ '\r' := ne_of_kind hc (by decide)
  refine ⟨n, ?_, ?_⟩
  · simp only [Line.chars, List.length_append, List.length_cons] at hn
    dsimp only
    omega
  · dsimp only
    rw [ht] at hpair ⊢
    rw [sections, hskip]
    split
    · rename_i heq
      cases heq
    · rename_i heq
      exact absurd (List.cons.inj heq).1 hbracket
    · rename_i heq
      cases heq
      simp only [hhash, hfeed, hreturn, decide_false, Bool.or_self, Bool.false_eq_true, if_false,
        hpair, Option.bind_some, endOfLine_cons]

/-- Past an empty line and a header, a section is closed and the next begun. -/
theorem reaches_header (hname : BareName name) (before : List Section) (now : Section)
    (rest : List Char) :
    Reaches ⟨before, now, '\n' :: '[' :: (name.toList ++ ']' :: '\n' :: rest)⟩
      ⟨now.closed :: before, { header := some (.table [] name), values := [] }, rest⟩ := by
  intro n hn
  simp only [List.length_cons, List.length_append] at hn
  obtain ⟨n, rfl⟩ : ∃ m, n = m + 2 := ⟨n - 2, by omega⟩
  have hheader := header_append hname ('\n' :: rest)
  have hempty (t : List Char) : sections (n + 2) before now ('\n' :: '[' :: t)
      = sections (n + 1) before now ('[' :: t) := rfl
  have hopened (t : List Char) : skipSpace ('[' :: t) = '[' :: t := rfl
  refine ⟨n, by dsimp only; omega, ?_⟩
  dsimp only
  rw [hempty, sections, hopened]
  simp only [hheader, Option.bind_some, endOfLine_cons]
  rfl

/-- Past lines, their pairs are the last of the section. -/
theorem reaches_lines {ls : List Line} (h : ∀ l ∈ ls, l.Plain) (before : List Section)
    (now : Section) (rest : List Char) :
    Reaches ⟨before, now, ls.flatMap Line.chars ++ rest⟩
      ⟨before, { now with values := (ls.map Line.pair).reverse ++ now.values }, rest⟩ := by
  induction ls generalizing now with
  | nil => exact .refl _
  | cons l ls ih =>
    have hone := reaches_line (h l (.head ls)) before now (ls.flatMap Line.chars ++ rest)
    have hmore := ih (fun l' hl' => h l' (.tail l hl')) { now with values := l.pair :: now.values }
    simpa using hone.trans hmore

/-- Past a table, the section begun is the table's. -/
theorem reaches_block {b : Block} (h : b.Plain) (before : List Section) (now : Section)
    (rest : List Char) :
    Reaches ⟨before, now, b.chars ++ rest⟩
      ⟨now.closed :: before, { b.section with values := b.section.values.reverse }, rest⟩ := by
  have hheader := reaches_header h.bare before now (b.lines.flatMap Line.chars ++ rest)
  have hlines := reaches_lines h.lines (now.closed :: before)
    { header := some (.table [] b.name), values := [] } rest
  simpa [Block.chars, Block.section] using hheader.trans hlines

/-- Tables up to the end of a document are the sections that follow the one begun. -/
theorem sections_blocks {bs : List Block} (h : ∀ b ∈ bs, b.Plain) {n : Nat}
    (hn : (bs.flatMap Block.chars).length < n) :
    sections n before now (bs.flatMap Block.chars)
      = some (before.reverse ++ now.closed :: bs.map Block.section) := by
  induction bs generalizing before now n with
  | nil =>
    obtain ⟨n, rfl⟩ : ∃ m, n = m + 1 := ⟨n - 1, by omega⟩
    simp [sections, skipSpace, Section.closed]
  | cons b bs ih =>
    have hblock := reaches_block (h b (.head bs)) before now (bs.flatMap Block.chars)
    rw [List.flatMap_cons] at hn ⊢
    obtain ⟨m, hm, hsame⟩ := hblock n hn
    rw [hsame, ih (fun b' hb' => h b' (.tail b hb')) hm]
    simp [Section.closed]

/-- A document is read as its sections. -/
theorem sections_document {d : Document} (h : d.Plain) {n : Nat} (hn : d.chars.length < n) :
    sections n [] { header := none, values := [] } d.chars
      = some ({ header := none, values := d.lines.map Line.pair }
        :: d.blocks.map Block.section) := by
  have hlines := reaches_lines h.lines [] { header := none, values := [] }
    (d.blocks.flatMap Block.chars)
  obtain ⟨m, hm, hsame⟩ := hlines n hn
  rw [Document.chars, hsame, sections_blocks h.blocks hm]
  simp [Section.closed]

/-! ## 4. Tables -/

/-- A key that a table does not have is looked up in vain. -/
theorem lookup_eq_none {es : Entries} {k : String} (h : k ∉ es.map (·.1)) : es.lookup k = none := by
  rw [List.lookup_eq_none_iff]
  rintro ⟨j, n⟩ hmem
  have hne : k ≠ j := by
    rintro rfl
    exact h (List.mem_map_of_mem hmem)
  simpa using hne

/-- The node of a line. -/
def Line.node (l : Line) : String × Node := (l.key, .value l.denoted)

/-- The node of a table. -/
def Block.node (b : Block) : String × Node :=
  (b.name, .table false false (b.lines.map Line.node))

/-- Where each step adds a node under a new name, all of them are added in their order. -/
theorem foldlM_append {α : Type} {step : Entries → α → Option Entries} {node : α → String × Node}
    {items : List α} {es : Entries}
    (hstep : ∀ a ∈ items, ∀ es : Entries, (node a).1 ∉ es.map (·.1) →
      step es a = some (es ++ [node a]))
    (h : (es.map (·.1) ++ items.map fun a => (node a).1).Nodup) :
    items.foldlM step es = some (es ++ items.map node) := by
  induction items generalizing es with
  | nil => simp
  | cons a items ih =>
    have hnew : (node a).1 ∉ es.map (·.1) := fun hmem =>
      (List.nodup_append.1 h).2.2 _ hmem _ (.head _) rfl
    have hone := hstep a (.head items) es hnew
    have hmore : items.foldlM step (es ++ [node a]) = some (es ++ [node a] ++ items.map node) :=
      ih (fun b hb => hstep b (.tail a hb)) (by simpa using h)
    rw [List.foldlM_cons, hone]
    simpa using hmore

/-- Lines with different keys are the values of a table in their order. -/
theorem addValues_lines {ls : List Line} (h : (ls.map (·.key)).Nodup) :
    addValues [] (ls.map Line.pair) = some (ls.map Line.node) := by
  rw [addValues, List.foldlM_map]
  have hadded (l : Line) (es : Entries) (hnew : l.node.1 ∉ es.map (·.1)) :
      addValue l.pair.1 l.pair.2.1 l.pair.2.2 es = some (es ++ [l.node]) := by
    have hlookup : es.lookup l.key = none := lookup_eq_none hnew
    simp [Line.pair, addValue, alter, hlookup, Line.node]
  exact foldlM_append (fun l _ es hnew => hadded l es hnew) h

theorem put_eq_append {es : Entries} {k : String} (h : k ∉ es.map (·.1)) (n : Node) :
    put k n es = es ++ [(k, n)] := by
  induction es with
  | nil => rfl
  | cons e es ih =>
    rw [List.map_cons, List.mem_cons, not_or] at h
    rw [put, if_neg (Ne.symm h.1), ih h.2, List.cons_append]

/-- A table is added to a document that has no such name. -/
theorem addSection_block {b : Block} (hb : b.Plain) {es : Entries} (h : b.name ∉ es.map (·.1)) :
    addSection es b.section = some (es ++ [b.node]) := by
  have hlines := addValues_lines hb.nodup
  simp [addSection, Block.section, alter, lookup_eq_none h, hlines, put_eq_append h, Block.node]

theorem finishEntries_eq_map (es : Entries) :
    finishEntries es = es.map fun e => (e.1, e.2.finish) := by
  induction es with
  | nil => rfl
  | cons e es ih => rw [finishEntries, ih, List.map_cons]

/-- The finished nodes of a document are its entries. -/
theorem finishEntries_document (d : Document) :
    finishEntries (d.lines.map Line.node ++ d.blocks.map Block.node) = d.entries := by
  have hlines (ls : List Line) : finishEntries (ls.map Line.node) = ls.map Line.entry := by
    rw [finishEntries_eq_map, List.map_map]
    rfl
  have hblocks (bs : List Block) : finishEntries (bs.map Block.node) = bs.map Block.entry := by
    rw [finishEntries_eq_map, List.map_map]
    refine List.map_congr_left fun b _ => ?_
    simp [Block.node, Block.entry, Node.finish, hlines]
  rw [Document.entries, ← hlines, ← hblocks]
  simp only [finishEntries_eq_map, List.map_append]

/-! ## 5. Whole documents -/

/-- No byte order mark stands in front of a document. -/
theorem dropMark_document {d : Document} (h : d.Plain) : dropMark d.chars = d.chars := by
  have without {cs : List Char} (h : cs.head? ≠ some '\ufeff') : dropMark cs = cs := by
    rw [dropMark.eq_def]
    split
    · exact absurd rfl h
    · rfl
  refine without ?_
  obtain ⟨lines, blocks⟩ := d
  match lines, blocks, h with
  | l :: lines, blocks, h =>
    obtain ⟨c, cs, hcs, hc⟩ := (h.lines l (.head lines)).bare.eq_cons
    have hmark : c ≠ '\ufeff' := ne_of_kind hc (by decide)
    simpa [Document.chars, Line.chars, hcs] using hmark
  | [], b :: blocks, _ => simp [Document.chars, Block.chars]
  | [], [], _ => simp [Document.chars]

/-- **A document is read as the table it was written from.** -/
theorem ofChars_document {d : Document} (h : d.Plain) : ofChars d.chars = some d.entries := by
  have hmark := dropMark_document h
  have hsections := sections_document h (Nat.lt_succ_self d.chars.length)
  have hroot : addSection [] { header := none, values := d.lines.map Line.pair }
      = some (d.lines.map Line.node) :=
    addValues_lines (List.nodup_append.1 h.nodup).1
  have hblocks : (d.blocks.map Block.section).foldlM addSection (d.lines.map Line.node)
      = some (d.lines.map Line.node ++ d.blocks.map Block.node) := by
    rw [List.foldlM_map]
    refine foldlM_append (fun b hb es hnew => addSection_block (h.blocks b hb) hnew) ?_
    have hnames := h.nodup
    rw [List.map_map]
    exact hnames
  have hfinish := finishEntries_document d
  simp only [ofChars, hmark, hsections, Option.bind_some, List.foldlM_cons, hroot,
    Option.bind_eq_bind, hblocks, Option.map_some, hfinish]

end CommandConsole.Toml
