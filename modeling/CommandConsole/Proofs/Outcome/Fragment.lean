import CommandConsole.Outcome
import CommandConsole.Proofs.Markup.Reading

/-!
# What the HTML of an outcome says

The HTML of an outcome, taken apart at its tags by a reader that does not know how it was written.

* `Outcome.spaced_markup`: the pieces that the fixed markup of an outcome lays out, field by field;
* `Outcome.pieces_injective`: the fields in them determine the outcome;
* `Outcome.html_delimits_fields`: whatever the fields contain, the tags depend on the category and the
  number of entries alone, each field stands in its own text or value, and no two outcomes have the
  same HTML.
-/

namespace CommandConsole

open Markup

/-! ## 1. The tags -/

/-- A tag with the names of its attributes. -/
inductive Tag where
  | opening (name : String) (attributes : List String)
  | closing (name : String)
  deriving DecidableEq, Repr

/-- The tag that a piece is; a text is none. -/
def Markup.Piece.tag? : Piece → Option Tag
  | .opening tag as => some (.opening tag (as.map Prod.fst))
  | .closing tag => some (.closing tag)
  | .text _ => none

/-- The tags around a message. -/
def Tag.ofMessage : List Tag :=
  [.opening "div" ["class"], .opening "strong" [], .closing "strong", .opening "pre" [],
    .closing "pre", .closing "div"]

/-- The tags around one entry of a catalog. -/
def Tag.ofEntry : List Tag :=
  [.opening "li" [], .opening "code" [], .closing "code", .closing "li"]

/-- The tags of a catalog with this many entries. -/
def Tag.ofCatalog (entries : Nat) : List Tag :=
  [.opening "div" ["class"], .opening "strong" [], .closing "strong", .opening "ul" []]
  ++ (List.replicate entries Tag.ofEntry).flatten
  ++ [.closing "ul", .opening "p" [], .opening "a" ["href", "target", "rel"], .closing "a",
    .closing "p", .closing "div"]

/-- The tags of an outcome of a category. The number of entries matters for help alone. -/
def Tag.ofCategory (c : Category) (entries : Nat) : List Tag :=
  match c with
  | .help => Tag.ofCatalog entries
  | _ => Tag.ofMessage

/-- How many entries the outcome lists. -/
def Outcome.entryCount : Outcome → Nat
  | .help h => h.entries.length
  | _ => 0

/-! ## 2. The fields -/

/-- A message between its tags, with one text in front of, between and behind them. -/
def messagePieces (name label message : String) : List Piece :=
  [.text "", .opening "div" [("class", name)], .text "", .opening "strong" [], .text label,
    .closing "strong", .text "", .opening "pre" [], .text message, .closing "pre", .text "",
    .closing "div", .text ""]

/-- An entry between its tags; the description stands behind a dash. -/
def entryPieces (e : HelpEntry) : List Piece :=
  [.text "", .opening "li" [], .text "", .opening "code" [], .text e.name, .closing "code",
    .text (" - " ++ e.description), .closing "li"]

/-- The closing sentence between its tags, and the end of a catalog. -/
def closingPieces (lead tail : String) (link : DocLink) : List Piece :=
  [.text "", .closing "ul", .text "", .opening "p" [], .text lead,
    .opening "a" [("href", link.href), ("target", link.target), ("rel", link.rel)], .text link.text,
    .closing "a", .text tail, .closing "p", .text "", .closing "div", .text ""]

/-- A catalog between its tags. -/
def catalogPieces (h : HelpCatalog) : List Piece :=
  [.text "", .opening "div" [("class", "help")], .text "", .opening "strong" [], .text h.heading,
    .closing "strong", .text "", .opening "ul" []]
  ++ h.entries.flatMap entryPieces
  ++ closingPieces h.closingLead h.closingTail h.link

/-- The fields of an outcome, each in its place between the tags. -/
def Outcome.pieces : Outcome → List Piece
  | .success m => messagePieces "success" "Success:" m
  | .error m => messagePieces "error" "Error:" m
  | .warning m => messagePieces "warning" "Warning:" m
  | .help h => catalogPieces h

/-! ## 3. The markup lays out the fields -/

theorem spaced_entries (es : List HelpEntry) (rest : List Piece) :
    spaced "" (es.flatMap HelpCatalog.entryMarkup ++ rest)
      = es.flatMap entryPieces ++ spaced "" rest := by
  induction es with
  | nil => rfl
  | cons e es ih =>
    rw [List.flatMap_cons, List.flatMap_cons, List.append_assoc, List.append_assoc, ← ih]
    simp [HelpCatalog.entryMarkup, entryPieces, spaced]

theorem spaced_message (c : Category) (message : String) :
    spaced "" (Outcome.messageMarkup c message)
      = messagePieces c.name (c.label.getD "") message := by
  simp [Outcome.messageMarkup, messagePieces, spaced]

/-- **The fixed markup lays out the fields of an outcome.** -/
theorem Outcome.spaced_markup (o : Outcome) : spaced "" o.markup = o.pieces := by
  cases o with
  | success m => exact spaced_message .success m
  | error m => exact spaced_message .error m
  | warning m => exact spaced_message .warning m
  | help h =>
    have hentries := spaced_entries h.entries
    simp [markup, HelpCatalog.markup, pieces, catalogPieces, closingPieces, spaced, hentries]

theorem messageMarkup_named (c : Category) (message : String) :
    ∀ p ∈ Outcome.messageMarkup c message, p.IsNamed := by
  simp +decide [Outcome.messageMarkup, Piece.IsNamed]

theorem entryMarkup_named (e : HelpEntry) : ∀ p ∈ HelpCatalog.entryMarkup e, p.IsNamed := by
  simp +decide [HelpCatalog.entryMarkup, Piece.IsNamed]

theorem Outcome.markup_named (o : Outcome) : ∀ p ∈ o.markup, p.IsNamed := by
  cases o with
  | success m => exact messageMarkup_named .success m
  | error m => exact messageMarkup_named .error m
  | warning m => exact messageMarkup_named .warning m
  | help h =>
    intro p hp
    rw [markup, HelpCatalog.markup, List.mem_append, List.mem_append, List.mem_flatMap] at hp
    rcases hp with (hopening | ⟨e, -, hentry⟩) | hclosing
    · revert p
      simp +decide [Piece.IsNamed]
    · exact entryMarkup_named e p hentry
    · revert p
      simp +decide only [List.forall_mem_cons, List.not_mem_nil, Piece.IsNamed, false_implies,
        implies_true, and_true]

/-! ## 4. The fields determine the outcome -/

/-- Entries and what closes the list behind them are told apart: an entry begins with a tag of its
    own. -/
theorem entries_inj {es es' : List HelpEntry} {lead tail lead' tail' : String} {link link' : DocLink}
    (h : es.flatMap entryPieces ++ closingPieces lead tail link
      = es'.flatMap entryPieces ++ closingPieces lead' tail' link') :
    es = es' ∧ closingPieces lead tail link = closingPieces lead' tail' link' := by
  induction es generalizing es' with
  | nil =>
    cases es' with
    | nil => exact ⟨rfl, h⟩
    | cons e' es' => simp [entryPieces, closingPieces] at h
  | cons e es ih =>
    cases es' with
    | nil => simp [entryPieces, closingPieces] at h
    | cons e' es' =>
      rw [List.flatMap_cons, List.flatMap_cons, List.append_assoc, List.append_assoc] at h
      obtain ⟨hentry, hrest⟩ := List.append_inj h rfl
      obtain ⟨rfl, hclosing⟩ := ih hrest
      have he : e = e' := by
        cases e
        cases e'
        simpa [entryPieces] using hentry
      exact ⟨by rw [he], hclosing⟩

theorem catalogPieces_injective : Function.Injective catalogPieces := by
  intro h h' heq
  rw [catalogPieces, catalogPieces, List.append_assoc, List.append_assoc] at heq
  obtain ⟨hheading, hrest⟩ := List.append_inj heq rfl
  obtain ⟨hentries, hclosing⟩ := entries_inj hrest
  obtain ⟨heading, entries, lead, ⟨text, href, target, rel⟩, tail⟩ := h
  obtain ⟨heading', entries', lead', ⟨text', href', target', rel'⟩, tail'⟩ := h'
  simp only [closingPieces, List.cons.injEq, Piece.text.injEq, Piece.opening.injEq, Prod.mk.injEq,
    true_and, and_true] at hheading hclosing
  obtain ⟨hlead, ⟨hhref, htarget, hrel⟩, htext, htail⟩ := hclosing
  simp only [hheading, hlead, hhref, htarget, hrel, htext, htail, HelpCatalog.mk.injEq, true_and,
    and_true]
  exact hentries

theorem category_of_pieces {o o' : Outcome} (h : o.pieces = o'.pieces) :
    o.category = o'.category := by
  have class_of : ∀ o : Outcome, o.pieces[1]? = some (.opening "div" [("class", o.category.name)]) :=
    fun o => by cases o <;> rfl
  have hname : o.category.name = o'.category.name := by
    have hclass := class_of o
    rw [h, class_of o'] at hclass
    simpa using hclass.symm
  revert hname
  cases o.category <;> cases o'.category <;> decide

/-- **The fields determine the outcome.** -/
theorem Outcome.pieces_injective : Function.Injective Outcome.pieces := by
  intro o o' h
  have hcategory := category_of_pieces h
  -- one case is left for each category
  rcases o with m | m | m | c <;> rcases o' with m' | m' | m' | c' <;>
    simp only [category, reduceCtorEq] at hcategory
  · simpa [pieces, messagePieces] using h
  · simpa [pieces, messagePieces] using h
  · simpa [pieces, messagePieces] using h
  · rw [catalogPieces_injective h]

/-! ## 5. Every outcome -/

/-- The tags of a piece do not depend on its contents. -/
theorem filterMap_escaped (ps : List Piece) :
    (ps.map Piece.escaped).filterMap Piece.tag? = ps.filterMap Piece.tag? := by
  have h : Piece.tag? ∘ Piece.escaped = Piece.tag? := by
    funext p
    cases p <;> simp [Piece.tag?, Piece.escaped, Function.comp_def]
  rw [List.filterMap_map, h]

theorem tags_of_entries (es : List HelpEntry) :
    (es.flatMap entryPieces).filterMap Piece.tag?
      = (List.replicate es.length Tag.ofEntry).flatten := by
  induction es with
  | nil => rfl
  | cons e es ih =>
    rw [List.flatMap_cons, List.filterMap_append, ih, List.length_cons, List.replicate_succ,
      List.flatten_cons]
    rfl

theorem Outcome.tags_of_pieces (o : Outcome) :
    o.pieces.filterMap Piece.tag? = Tag.ofCategory o.category o.entryCount := by
  cases o with
  | success m => rfl
  | error m => rfl
  | warning m => rfl
  | help h =>
    rw [pieces, catalogPieces, List.filterMap_append, List.filterMap_append, tags_of_entries]
    rfl

/-- **The HTML of an outcome keeps its fields apart, whatever they contain.** It is read as tags that
    depend on the category alone, and for help on the number of entries, with a text around each of
    them. Undoing the entities in the texts and values gives the fields of the outcome, each in its
    place. Two outcomes with the same HTML are the same. -/
theorem Outcome.html_delimits_fields (o : Outcome) :
    (∃ ps, read o.html = some ps ∧
      ps.filterMap Piece.tag? = Tag.ofCategory o.category o.entryCount ∧
      ps.map Piece.decoded = o.pieces) ∧
    ∀ o' : Outcome, o'.html = o.html → o' = o := by
  have fields : ∀ o : Outcome, read o.html = some (o.pieces.map Piece.escaped) := fun o => by
    rw [html, read_write o.markup_named, o.spaced_markup]
  have undo : ∀ o : Outcome, (o.pieces.map Piece.escaped).map Piece.decoded = o.pieces := fun o => by
    simp [Function.comp_def]
  refine ⟨⟨_, fields o, ?_, undo o⟩, fun o' heq => pieces_injective ?_⟩
  · rw [filterMap_escaped, o.tags_of_pieces]
  · have hread := fields o'
    rw [heq, fields o, Option.some.injEq] at hread
    rw [← undo o', ← hread, undo o]

end CommandConsole
