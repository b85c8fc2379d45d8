import CommandConsole.Proofs.Markup.Entities

/-!
# Fragments taken apart at their tags

A reader of HTML fragments that knows nothing of pieces and of how they are written. It goes through the
characters once. A tag begins at a `<`; its name and the names of its attributes are letters; every
value stands between double quotes; the tag ends at the first `>` outside a value. What stands between
two tags is one text, which may be empty. Whatever does not look like this is no fragment.

* `read_write`: written pieces are read as the tags they were, with the text between them; what texts
  and values carry is still escaped;
* `decoded_escaped`: undoing the entities gives the contents back.
-/

namespace CommandConsole.Markup

/-! ## 1. The reader -/

/-- Where the reader stands, with what it has read of the piece it is in. -/
inductive Place where
  | text (s : List Char)
  /-- Behind the `<` of a tag. -/
  | start
  | closing (name : List Char)
  | opening (name : List Char)
  | attribute (tag : String) (attributes : List (String × String)) (name : List Char)
  /-- Behind the equals sign of an attribute. -/
  | equals (tag : String) (attributes : List (String × String)) (name : String)
  | value (tag : String) (attributes : List (String × String)) (name : String) (v : List Char)
  /-- Behind the quote that ends a value. -/
  | ended (tag : String) (attributes : List (String × String))
  /-- What was read is no fragment. -/
  | broken
  deriving DecidableEq, Repr

/-- The reader: the pieces that are complete, and the place. -/
structure Reader where
  done : List Piece
  place : Place
  deriving DecidableEq, Repr

namespace Reader

/-- In front of a fragment. -/
def start : Reader := { done := [], place := .text [] }

/-- One character where an opening tag may end or another attribute may begin. -/
def stepBetween (done : List Piece) (tag : String) (attributes : List (String × String))
    (c : Char) : Reader :=
  if c = '>' then ⟨done ++ [.opening tag attributes], .text []⟩
  else if c = ' ' then ⟨done, .attribute tag attributes []⟩
  else ⟨done, .broken⟩

/-- One character. -/
def step : Reader → Char → Reader
  | ⟨done, .text s⟩, c =>
    if c = '<' then ⟨done ++ [.text (String.ofList s)], .start⟩ else ⟨done, .text (s ++ [c])⟩
  | ⟨done, .start⟩, c =>
    if c = '/' then ⟨done, .closing []⟩
    else if c.isAlpha then ⟨done, .opening [c]⟩
    else ⟨done, .broken⟩
  | ⟨done, .closing name⟩, c =>
    if c.isAlpha then ⟨done, .closing (name ++ [c])⟩
    else if c = '>' then ⟨done ++ [.closing (String.ofList name)], .text []⟩
    else ⟨done, .broken⟩
  | ⟨done, .opening name⟩, c =>
    if c.isAlpha then ⟨done, .opening (name ++ [c])⟩
    else stepBetween done (String.ofList name) [] c
  | ⟨done, .attribute tag as name⟩, c =>
    if c.isAlpha then ⟨done, .attribute tag as (name ++ [c])⟩
    else if c = '=' then ⟨done, .equals tag as (String.ofList name)⟩
    else ⟨done, .broken⟩
  | ⟨done, .equals tag as name⟩, c =>
    if c = '"' then ⟨done, .value tag as name []⟩ else ⟨done, .broken⟩
  | ⟨done, .value tag as name v⟩, c =>
    if c = '"' then ⟨done, .ended tag (as ++ [(name, String.ofList v)])⟩
    else ⟨done, .value tag as name (v ++ [c])⟩
  | ⟨done, .ended tag as⟩, c => stepBetween done tag as c
  | ⟨done, .broken⟩, _ => ⟨done, .broken⟩

/-- The characters of a text, one after the other. -/
def run (r : Reader) (cs : List Char) : Reader := cs.foldl step r

/-- What has been read, if the reader stands outside every tag. -/
def finish : Reader → Option (List Piece)
  | ⟨done, .text s⟩ => some (done ++ [.text (String.ofList s)])
  | _ => none

@[simp] theorem run_nil (r : Reader) : r.run [] = r := rfl

@[simp] theorem run_cons (r : Reader) (c : Char) (cs : List Char) :
    r.run (c :: cs) = (r.step c).run cs := rfl

theorem run_append (r : Reader) (cs ds : List Char) : r.run (cs ++ ds) = (r.run cs).run ds :=
  List.foldl_append

end Reader

/-- The pieces of a fragment: a text, then tags with one text behind each. Texts and values are given
    as they stand. -/
def read (html : String) : Option (List Piece) := (Reader.start.run html.toList).finish

/-! ## 2. Pieces before and after -/

/-- The piece with its contents escaped. -/
def Piece.escaped : Piece → Piece
  | .opening tag as => .opening tag (as.map fun a => (a.1, escape a.2))
  | .closing tag => .closing tag
  | .text s => .text (escape s)

/-- The piece with the entities in its contents undone. -/
def Piece.decoded : Piece → Piece
  | .opening tag as => .opening tag (as.map fun a => (a.1, unescape a.2))
  | .closing tag => .closing tag
  | .text s => .text (unescape s)

/-- **Undoing the entities gives the contents back.** -/
@[simp] theorem decoded_escaped (p : Piece) : p.escaped.decoded = p := by
  cases p with
  | opening tag as => simp [Piece.escaped, Piece.decoded, Function.comp_def]
  | closing tag => rfl
  | text s => simp [Piece.escaped, Piece.decoded]

/-- A word of letters. -/
def IsName (s : String) : Prop := s.toList ≠ [] ∧ s.toList.all Char.isAlpha = true

instance (s : String) : Decidable (IsName s) :=
  inferInstanceAs (Decidable (s.toList ≠ [] ∧ s.toList.all Char.isAlpha = true))

/-- The tag is a name, and so are its attributes. -/
def Piece.IsNamed : Piece → Prop
  | .opening tag as => IsName tag ∧ ∀ a ∈ as, IsName a.1
  | .closing tag => IsName tag
  | .text _ => True

/-- The pieces with exactly one text in front of, between and behind the tags; `s` is the text read
    before. -/
def spaced (s : String) : List Piece → List Piece
  | [] => [.text s]
  | .text t :: ps => spaced (s ++ t) ps
  | .opening tag as :: ps => .text s :: .opening tag as :: spaced "" ps
  | .closing tag :: ps => .text s :: .closing tag :: spaced "" ps

/-! ## 3. Reading what was written -/

theorem toList_writeAttribute (a : String × String) :
    (writeAttribute a).toList
      = ' ' :: (a.1.toList ++ '=' :: '"' :: ((escape a.2).toList ++ ['"'])) := by
  simp [writeAttribute]

namespace Reader

/-- Characters that stay in one place are gathered there. -/
theorem run_gather (done : List Piece) (place : List Char → Place) {cs : List Char}
    (stays : ∀ c ∈ cs, ∀ s, step ⟨done, place s⟩ c = ⟨done, place (s ++ [c])⟩) (s : List Char) :
    run ⟨done, place s⟩ cs = ⟨done, place (s ++ cs)⟩ := by
  induction cs generalizing s with
  | nil => rw [run_nil, List.append_nil]
  | cons c cs ih =>
    rw [run_cons, stays c List.mem_cons_self s, ih fun d hd => stays d (List.mem_cons_of_mem c hd),
      List.append_assoc, List.singleton_append]

theorem run_text (done : List Piece) (s t : List Char) (h : '<' ∉ t) :
    run ⟨done, .text s⟩ t = ⟨done, .text (s ++ t)⟩ := by
  have stays : ∀ c ∈ t, ∀ s, step ⟨done, .text s⟩ c = ⟨done, .text (s ++ [c])⟩ := fun c hc s => by
    have hne : c ≠ '<' := fun heq => h (heq ▸ hc)
    simp only [step, if_neg hne]
  exact run_gather done .text stays s

/-- An attribute is read behind the end of what came before it. -/
theorem run_attribute (done : List Piece) (tag : String) (as : List (String × String))
    (a : String × String) (named : IsName a.1) :
    run ⟨done, .ended tag as⟩ (writeAttribute a).toList
      = ⟨done, .ended tag (as ++ [(a.1, escape a.2)])⟩ := by
  have letters : ∀ c ∈ a.1.toList, c.isAlpha = true := List.all_eq_true.mp named.2
  have hname : ∀ rest, run ⟨done, .attribute tag as []⟩ (a.1.toList ++ '=' :: rest)
      = run ⟨done, .equals tag as a.1⟩ rest := fun rest => by
    rw [run_append, run_gather done (.attribute tag as) fun c hc s => by
      simp only [step, letters c hc, if_true]]
    simp [step]
  have stays : ∀ c ∈ (escape a.2).toList, ∀ s,
      step ⟨done, .value tag as a.1 s⟩ c = ⟨done, .value tag as a.1 (s ++ [c])⟩ := fun c hc s => by
    have hne : c ≠ '"' := (mem_escapeChars (by simpa [escape] using hc)).2.2.1
    simp only [step, if_neg hne]
  have hvalue : run ⟨done, .value tag as a.1 []⟩ (escape a.2).toList
      = ⟨done, .value tag as a.1 (escape a.2).toList⟩ := by
    rw [run_gather done (.value tag as a.1) stays, List.nil_append]
  have hstart : step ⟨done, .ended tag as⟩ ' ' = ⟨done, .attribute tag as []⟩ := rfl
  have hquote : step ⟨done, .equals tag as a.1⟩ '"' = ⟨done, .value tag as a.1 []⟩ := rfl
  rw [toList_writeAttribute, run_cons, hstart, hname, run_cons, hquote, run_append, hvalue]
  simp [step]

/-- Attributes are read one by one, up to the end of the tag. -/
theorem run_attributes (done : List Piece) (tag : String) (as bs : List (String × String))
    (named : ∀ b ∈ bs, IsName b.1) :
    run ⟨done, .ended tag as⟩ (bs.flatMap (fun b => (writeAttribute b).toList) ++ ['>'])
      = ⟨done ++ [.opening tag (as ++ bs.map fun b => (b.1, escape b.2))], .text []⟩ := by
  induction bs generalizing as with
  | nil =>
    rw [List.map_nil, List.append_nil]
    rfl
  | cons b bs ih =>
    rw [List.flatMap_cons, List.append_assoc, run_append,
      run_attribute done tag as b (named b List.mem_cons_self),
      ih _ fun b' hb' => named b' (List.mem_cons_of_mem b hb'), List.map_cons, List.append_assoc,
      List.singleton_append]

/-- Behind the name of a tag the reader goes on as behind a value. -/
theorem run_opening (done : List Piece) (name : List Char) {c : Char} (h : c.isAlpha = false)
    (cs : List Char) :
    run ⟨done, .opening name⟩ (c :: cs) = run ⟨done, .ended (String.ofList name) []⟩ (c :: cs) := by
  simp [step, h]

/-- The letters of a name, behind the `<`. -/
theorem run_name (done : List Piece) {name : String} (named : IsName name) (rest : List Char) :
    run ⟨done, .start⟩ (name.toList ++ rest) = run ⟨done, .opening name.toList⟩ rest := by
  obtain ⟨hne, hall⟩ := named
  have letters : ∀ c ∈ name.toList, c.isAlpha = true := List.all_eq_true.mp hall
  cases hname : name.toList with
  | nil => exact absurd hname hne
  | cons c cs =>
    rw [hname] at letters
    have hc : c.isAlpha = true := letters c List.mem_cons_self
    have hslash : c ≠ '/' := fun heq => by
      subst heq
      exact absurd hc (by decide)
    have hcs : run ⟨done, .opening [c]⟩ cs = ⟨done, .opening ([c] ++ cs)⟩ :=
      run_gather done .opening (fun d hd s => by
        simp only [step, letters d (List.mem_cons_of_mem c hd), if_true]) [c]
    rw [List.cons_append, run_cons, run_append]
    simp only [step, if_neg hslash, hc, if_true]
    rw [hcs, List.singleton_append]

/-- A tag ends the text in front of it. -/
theorem run_lt (done : List Piece) (s : String) (cs : List Char) :
    run ⟨done, .text s.toList⟩ ('<' :: cs) = run ⟨done ++ [.text s], .start⟩ cs := by
  simp [step]

theorem run_closing_tag (done : List Piece) (s : String) {tag : String} (named : IsName tag) :
    run ⟨done, .text s.toList⟩ (Piece.closing tag).write.toList
      = ⟨done ++ [.text s, .closing tag], .text []⟩ := by
  have letters : ∀ c ∈ tag.toList, c.isAlpha = true := List.all_eq_true.mp named.2
  have e : (Piece.closing tag).write.toList = '<' :: '/' :: (tag.toList ++ ['>']) := by
    simp [Piece.write]
  have hslash : step ⟨done ++ [.text s], .start⟩ '/' = ⟨done ++ [.text s], .closing []⟩ := rfl
  have hname : run ⟨done ++ [.text s], .closing []⟩ tag.toList
      = ⟨done ++ [.text s], .closing tag.toList⟩ :=
    run_gather _ .closing (fun c hc s => by simp only [step, letters c hc, if_true]) []
  rw [e, run_lt, run_cons, hslash, run_append, hname]
  simp [step]

theorem run_opening_tag (done : List Piece) (s : String) {tag : String} (named : IsName tag)
    {as : List (String × String)} (hnamed : ∀ a ∈ as, IsName a.1) :
    run ⟨done, .text s.toList⟩ (Piece.opening tag as).write.toList
      = ⟨done ++ [.text s, .opening tag (as.map fun a => (a.1, escape a.2))], .text []⟩ := by
  have e : (Piece.opening tag as).write.toList
      = '<' :: (tag.toList ++ (as.flatMap (fun a => (writeAttribute a).toList) ++ ['>'])) := by
    simp [Piece.write, String.toList_join, List.flatMap_map]
  -- what stands behind the name is a blank or the end of the tag, hence no letter
  obtain ⟨c, cs, hrest, hc⟩ : ∃ c cs,
      as.flatMap (fun a => (writeAttribute a).toList) ++ ['>'] = c :: cs ∧ c.isAlpha = false := by
    cases as with
    | nil => exact ⟨'>', [], rfl, by decide⟩
    | cons a as =>
      rw [List.flatMap_cons, toList_writeAttribute]
      exact ⟨' ', _, rfl, by decide⟩
  rw [e, run_lt, run_name _ named, hrest, run_opening _ _ hc, ← hrest, String.ofList_toList,
    run_attributes _ _ _ _ hnamed, List.nil_append, List.append_assoc]
  rfl

end Reader

theorem write_cons (p : Piece) (ps : List Piece) : write (p :: ps) = p.write ++ write ps := by
  simp [write, String.join_cons]

/-- The reader goes through written pieces from any text in front of them. -/
theorem run_write {ps : List Piece} (named : ∀ p ∈ ps, p.IsNamed) (done : List Piece) (s : String) :
    (Reader.run ⟨done, .text (escape s).toList⟩ (write ps).toList).finish
      = some (done ++ (spaced s ps).map Piece.escaped) := by
  induction ps generalizing done s with
  | nil => simp [write, Reader.finish, spaced, Piece.escaped]
  | cons p ps ih =>
    have hp := named p List.mem_cons_self
    have ih := ih fun p' hp' => named p' (List.mem_cons_of_mem p hp')
    have hempty : ([] : List Char) = (escape "").toList := rfl
    rw [write_cons, String.toList_append, Reader.run_append]
    cases p with
    | text t =>
      have hlt : '<' ∉ (escape t).toList := fun h =>
        (mem_escapeChars (by simpa [escape] using h)).1 rfl
      rw [Piece.write, Reader.run_text _ _ _ hlt, ← String.toList_append, ← escape_append, ih]
      rfl
    | opening tag as =>
      rw [Reader.run_opening_tag done _ hp.1 hp.2, hempty, ih]
      simp [spaced, Piece.escaped]
    | closing tag =>
      rw [Reader.run_closing_tag done _ hp, hempty, ih]
      simp [spaced, Piece.escaped]

/-- **Written pieces are read as the tags they were, with the text between them.** -/
theorem read_write {ps : List Piece} (named : ∀ p ∈ ps, p.IsNamed) :
    read (write ps) = some ((spaced "" ps).map Piece.escaped) := by
  have h := run_write named [] ""
  rw [List.nil_append] at h
  exact h

end CommandConsole.Markup
