import CommandConsole.Proofs.Interpreter.Precedence

/-!
# The first specification of a name wins

A table is built over any list of specifications, whatever names occur in it and however often. What it
finds, and so what it makes of a line, depends on the first specification of each name alone.

* `CommandSpec.firsts`: the list without the specifications whose name stands in it already;
* `CommandTable.find?_eq_some_iff`: a specification is found if and only if it is the first of its name;
* `CommandTable.evaluate_congr`: tables that find the same come to the same outcomes, except for help;
* `CommandTable.first_wins`: the index, the look-ups, and the outcomes of lines over a list from which
  repetitions were removed or whose order was changed.
-/

namespace CommandConsole

/-! ## 1. Lists without repetitions -/

namespace CommandSpec

/-- The list without the specifications whose name stands in it already. -/
def firsts : List CommandSpec → List CommandSpec
  | [] => []
  | s :: later => s :: (firsts later).filter fun s' => s'.name != s.name

theorem firsts_sublist (specs : List CommandSpec) : (firsts specs).Sublist specs := by
  induction specs with
  | nil => exact List.Sublist.refl []
  | cons s later ih => exact (List.filter_sublist.trans ih).cons_cons s

/-- No name is left twice. -/
theorem names_firsts_nodup (specs : List CommandSpec) : ((firsts specs).map name).Nodup := by
  induction specs with
  | nil => exact List.nodup_nil
  | cons s later ih =>
    rw [firsts, List.map_cons, List.nodup_cons]
    refine ⟨?_, ih.sublist (List.filter_sublist.map name)⟩
    simp

/-- Removing repetitions does not change which specification is the first of a name. -/
theorem find?_firsts (specs : List CommandSpec) (n : String) :
    ((firsts specs).find? fun s => s.name == n) = specs.find? fun s => s.name == n := by
  induction specs with
  | nil => rfl
  | cons s later ih =>
    rw [firsts]
    by_cases hs : s.name = n
    · rw [List.find?_cons_of_pos (by simpa using hs), List.find?_cons_of_pos (by simpa using hs)]
    · rw [List.find?_cons_of_neg (by simpa using hs), List.find?_cons_of_neg (by simpa using hs),
        List.find?_filter, ← ih]
      -- the specifications that were removed have another name than the one looked for
      congr 1
      funext s'
      by_cases hs' : s'.name = n
      · simp [hs', Ne.symm hs]
      · simp [hs']

/-- Where no name occurs twice, each specification is the first of its name. -/
theorem find?_eq_some_iff_mem {specs : List CommandSpec} (distinct : (specs.map name).Nodup)
    {n : String} {s : CommandSpec} :
    (specs.find? fun s => s.name == n) = some s ↔ s ∈ specs ∧ s.name = n := by
  refine ⟨fun h => ⟨List.mem_of_find?_eq_some h, by simpa using List.find?_some h⟩, ?_⟩
  rintro ⟨hmem, rfl⟩
  induction specs with
  | nil => cases hmem
  | cons s' later ih =>
    rw [List.map_cons, List.nodup_cons] at distinct
    rcases List.mem_cons.mp hmem with rfl | hmem
    · exact List.find?_cons_of_pos (by simp)
    · have hne : s'.name ≠ s.name := fun h => distinct.1 (h ▸ List.mem_map_of_mem hmem)
      rw [List.find?_cons_of_neg (by simpa using hne)]
      exact ih distinct.2 hmem

/-- The specification is the first of the list that has this name. -/
def IsFirst (specs : List CommandSpec) (n : String) (s : CommandSpec) : Prop :=
  ∃ earlier later, specs = earlier ++ s :: later ∧ s.name = n ∧ ∀ s' ∈ earlier, s'.name ≠ n

end CommandSpec

namespace CommandTable

open CommandSpec

variable {specs specs' : List CommandSpec} {n : String} {t t' : CommandTable}

/-! ## 2. The index and the look-ups -/

/-- The position is the least at which a specification of this name stands. -/
def IsFirstAt (specs : List CommandSpec) (n : String) (i : Nat) : Prop :=
  (∃ s, specs[i]? = some s ∧ s.name = n) ∧ ∀ j < i, ∀ s, specs[j]? = some s → s.name ≠ n

theorem index_eq_some_iff {i : Nat} : (ofList specs).index[n]? = some i ↔ IsFirstAt specs n i := by
  rw [ofList, getElem?_indexOf, List.findIdx?_eq_some_iff_getElem, IsFirstAt]
  constructor
  · rintro ⟨hi, hname, hleast⟩
    refine ⟨⟨specs[i], List.getElem?_eq_getElem hi, by simpa using hname⟩, fun j hj s hs => ?_⟩
    obtain ⟨_, rfl⟩ := List.getElem?_eq_some_iff.mp hs
    simpa using hleast j hj
  · rintro ⟨⟨s, hs, hname⟩, hleast⟩
    obtain ⟨hi, rfl⟩ := List.getElem?_eq_some_iff.mp hs
    refine ⟨hi, by simpa using hname, fun j hj => ?_⟩
    simpa using hleast j hj _ (List.getElem?_eq_getElem (Nat.lt_trans hj hi))

/-- The keys of the index are the names that occur. -/
theorem mem_index_iff : n ∈ (ofList specs).index ↔ ∃ s ∈ specs, s.name = n := by
  rw [Std.HashMap.mem_iff_isSome_getElem?, ofList, getElem?_indexOf, List.findIdx?_isSome,
    List.any_eq_true]
  simp

/-- **A specification is found if and only if it is the first of its name.** -/
theorem find?_eq_some_iff {s : CommandSpec} : (ofList specs).find? n = some s ↔ IsFirst specs n s := by
  rw [find?_eq, List.find?_eq_some_iff_append, IsFirst]
  constructor
  · rintro ⟨hname, earlier, later, hspecs, hother⟩
    exact ⟨earlier, later, hspecs, by simpa using hname, fun s' hs' => by simpa using hother s' hs'⟩
  · rintro ⟨earlier, later, hspecs, hname, hother⟩
    exact ⟨by simpa using hname, earlier, later, hspecs, fun s' hs' => by simpa using hother s' hs'⟩

theorem find?_eq_none_iff : (ofList specs).find? n = none ↔ ∀ s ∈ specs, s.name ≠ n := by
  rw [find?_eq, List.find?_eq_none]
  simp [ofList]

theorem contains_eq_isSome_find? (t : CommandTable) (n : String) :
    t.contains n = (t.find? n).isSome := by
  rw [contains, Std.HashMap.contains_eq_isSome_getElem?, find?_eq, t.index_eq, getElem?_indexOf,
    List.findIdx?_isSome, Bool.eq_iff_iff, List.any_eq_true, List.find?_isSome]

/-! ## 3. Outcomes -/

/-- **Tables that find the same come to the same outcomes**, except for help. -/
theorem evaluate_congr (hfind : ∀ n, t.find? n = t'.find? n) {input : String} (h : input ≠ "help") :
    t.evaluate input = t'.evaluate input := by
  rw [t.evaluate_of_call h, t'.evaluate_of_call h, classifyCall, classifyCall, commandOf?, commandOf?,
    hfind]

theorem find?_ofList_firsts (specs : List CommandSpec) (n : String) :
    (ofList (firsts specs)).find? n = (ofList specs).find? n := by
  rw [find?_eq, find?_eq]
  exact find?_firsts specs n

/-- Where no name occurs twice, the order does not matter to what is found. -/
theorem find?_of_perm (distinct : (specs.map name).Nodup) (h : specs.Perm specs') (n : String) :
    (ofList specs').find? n = (ofList specs).find? n := by
  have distinct' : (specs'.map name).Nodup := (h.map name).nodup_iff.mp distinct
  rw [find?_eq, find?_eq]
  refine Option.ext fun s => ?_
  simp only [ofList]
  rw [find?_eq_some_iff_mem distinct', find?_eq_some_iff_mem distinct, h.mem_iff]

/-- What the table over a list finds, and what it makes of lines. -/
structure FirstWins (specs : List CommandSpec) : Prop where
  /-- The index has the least position of a name. -/
  index : ∀ (n : String) (i : Nat), (ofList specs).index[n]? = some i ↔ IsFirstAt specs n i
  /-- It has no other names than those that occur. -/
  keys : ∀ n, n ∈ (ofList specs).index ↔ ∃ s ∈ specs, s.name = n
  /-- Every position in it is a position of the list. -/
  inRange : ∀ (n : String) (i : Nat), (ofList specs).index[n]? = some i → i < specs.length
  /-- The first specification of a name is found, and no other. -/
  found : ∀ n s, (ofList specs).find? n = some s ↔ IsFirst specs n s
  /-- Nothing is found under a name that does not occur. -/
  notFound : ∀ n, (ofList specs).find? n = none ↔ ∀ s ∈ specs, s.name ≠ n
  contains : ∀ n, (ofList specs).contains n = true ↔ ((ofList specs).find? n).isSome = true
  /-- Repetitions make no difference to the outcome of a line. -/
  repeated : ∀ input, input ≠ "help" →
    (ofList (firsts specs)).evaluate input = (ofList specs).evaluate input
  /-- Where no name occurs twice, neither does the order. -/
  reordered : ∀ specs', specs.Perm specs' → (specs.map name).Nodup → ∀ input, input ≠ "help" →
    (ofList specs').evaluate input = (ofList specs).evaluate input

/-- **Of the specifications of one name the first wins**: the index has its position, the look-up finds
    it and no other, and the outcome of a line depends on it alone. -/
theorem first_wins (specs : List CommandSpec) : FirstWins specs where
  index _ _ := index_eq_some_iff
  keys _ := mem_index_iff
  inRange n i h := by
    obtain ⟨⟨s, hs, -⟩, -⟩ := index_eq_some_iff.mp h
    exact (List.getElem?_eq_some_iff.mp hs).1
  found _ _ := find?_eq_some_iff
  notFound _ := find?_eq_none_iff
  contains n := by rw [contains_eq_isSome_find?]
  repeated _ h := evaluate_congr (find?_ofList_firsts specs) h
  reordered _ hperm distinct _ h := evaluate_congr (find?_of_perm distinct hperm) h

end CommandTable

end CommandConsole
