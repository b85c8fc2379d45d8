import CommandConsole.Proofs.Command.FirstWins

/-!
# Repeated names in listings

A look-up finds the first specification of a name and passes over its repetitions. The views of a table
go over the list as it was declared: a repetition that passes the test of a view is shown by it, though
no look-up finds it.

* `CommandSpec.NoneRepeated`: no specification that passes a test repeats the name of an earlier one;
* `CommandSpec.filter_firsts_eq_iff`: this is when removing repetitions leaves the same to be shown;
* `CommandTable.noneRepeated_of_showsFound`: and when all that is shown is found, each name once;
* `CommandTable.repetitions_shown_iff`: the look-ups and outcomes, which no repetition changes, and for
  every view the lists on which it shows what is found.
-/

namespace CommandConsole

/-! ## 1. Repetitions that pass a test -/

namespace CommandSpec

variable {p : CommandSpec → Bool} {s : CommandSpec} {later specs : List CommandSpec}

/-- No specification that passes the test repeats the name of an earlier one. -/
def NoneRepeated (p : CommandSpec → Bool) (specs : List CommandSpec) : Prop :=
  specs.Pairwise fun earlier later => later.name = earlier.name → p later = false

theorem noneRepeated_cons :
    NoneRepeated p (s :: later) ↔
      (∀ s' ∈ later, s'.name = s.name → p s' = false) ∧ NoneRepeated p later :=
  List.pairwise_cons

/-- Without a test, this is to say that no name occurs twice. -/
theorem noneRepeated_true_iff : NoneRepeated (fun _ => true) specs ↔ (specs.map name).Nodup := by
  rw [NoneRepeated, List.Nodup, List.pairwise_map]
  simp [eq_comm]

/-- **Removing repetitions leaves the same to be shown** if and only if no specification that passes the
    test of the view is a repetition. -/
theorem filter_firsts_eq_iff (p : CommandSpec → Bool) (specs : List CommandSpec) :
    (firsts specs).filter p = specs.filter p ↔ NoneRepeated p specs := by
  induction specs with
  | nil => exact iff_of_true rfl List.Pairwise.nil
  | cons s later ih =>
    have hcons : ∀ xs ys : List CommandSpec,
        (s :: xs).filter p = (s :: ys).filter p ↔ xs.filter p = ys.filter p := fun xs ys => by
      by_cases hs : p s = true <;> simp [hs]
    rw [firsts, hcons, noneRepeated_cons]
    constructor
    · intro h
      -- the first ones among the later lie between the two lists, so they are the same too
      have hall : (firsts later).filter p = later.filter p :=
        ((firsts_sublist later).filter p).eq_of_length_le
          (h ▸ (List.filter_sublist.filter p).length_le)
      refine ⟨fun s' hs' hname => ?_, ih.mp hall⟩
      rw [← Bool.not_eq_true]
      intro hp
      have hmem := List.mem_filter.mpr ⟨hs', hp⟩
      rw [← h, List.mem_filter, List.mem_filter] at hmem
      exact absurd hname (by simpa using hmem.1.2)
    · rintro ⟨hs, hlater⟩
      rw [← ih.mpr hlater, List.filter_filter]
      refine List.filter_congr fun s' hs' => ?_
      have hname := hs s' ((firsts_sublist later).subset hs')
      by_cases hn : s'.name = s.name
      · simp [hname hn]
      · simp [hn]

/-- The same for what a view makes of the specifications that it shows. -/
theorem map_filter_firsts_eq_iff {β : Type} (f : CommandSpec → β) (p : CommandSpec → Bool)
    (specs : List CommandSpec) :
    ((firsts specs).filter p).map f = (specs.filter p).map f ↔ NoneRepeated p specs := by
  rw [← filter_firsts_eq_iff]
  refine ⟨fun h => ?_, congrArg _⟩
  exact ((firsts_sublist specs).filter p).eq_of_length (by simpa using congrArg List.length h)

end CommandSpec

/-! ## 2. Views -/

namespace CommandTable

open CommandSpec

variable {β : Type} {specs : List CommandSpec}

/-- Everything that is shown is what the table finds under its name, and each name is shown once. A view
    shows `f` of specifications, and `key` reads the name from what it shows. -/
structure ShowsFound (t : CommandTable) (f : CommandSpec → β) (key : β → String)
    (shown : List β) : Prop where
  found : ∀ e ∈ shown, (t.find? (key e)).map f = some e
  once : (shown.map key).Nodup

/-- A list of which a view shows only what is found has no repetition that passes the test of the
    view. -/
theorem noneRepeated_of_showsFound {f : CommandSpec → β} {key : β → String}
    (hkey : ∀ s, key (f s) = s.name) {q : β → Bool}
    (h : ShowsFound (ofList specs) f key ((specs.map f).filter q)) :
    NoneRepeated (q ∘ f) specs := by
  induction specs with
  | nil => exact List.Pairwise.nil
  | cons s later ih =>
    have hfound : ∀ s' ∈ later, q (f s') = true →
        ((s :: later).find? fun x => x.name == s'.name).map f = some (f s') := fun s' hs' hq => by
      have := h.found (f s') (List.mem_filter.mpr
        ⟨List.mem_map_of_mem (List.mem_cons_of_mem s hs'), hq⟩)
      rwa [hkey, find?_eq] at this
    have hs : ∀ s' ∈ later, s'.name = s.name → q (f s') = false := fun s' hs' hname => by
      rw [← Bool.not_eq_true]
      intro hq
      -- the first of the name is found, so it shows the same; then the name is shown twice
      have heq := hfound s' hs' hq
      rw [List.find?_cons_of_pos (by simpa using hname.symm), Option.map_some,
        Option.some_inj] at heq
      have honce := h.once
      rw [List.map_cons, List.filter_cons_of_pos (heq ▸ hq), List.map_cons, List.nodup_cons] at honce
      refine honce.1 ?_
      rw [heq]
      exact List.mem_map_of_mem (List.mem_filter.mpr ⟨List.mem_map_of_mem hs', hq⟩)
    refine noneRepeated_cons.mpr ⟨hs, ih ⟨?_, h.once.sublist ?_⟩⟩
    · intro e he
      obtain ⟨hmem, hq⟩ := List.mem_filter.mp he
      obtain ⟨s', hs', rfl⟩ := List.mem_map.mp hmem
      have hne : s.name ≠ s'.name := fun hname => by
        have := hs s' hs' hname.symm
        rw [hq] at this
        cases this
      rw [hkey, find?_eq, ← hfound s' hs' hq, List.find?_cons_of_neg (by simpa using hne)]
      rfl
    · exact (((List.sublist_cons_self s later).map f).filter q).map key

/-- The view shows what is found, each name once, exactly under the condition; and exactly then it shows
    the same of the list without repetitions. -/
def FaithfulIff (specs : List CommandSpec) (view : CommandTable → List β) (f : CommandSpec → β)
    (key : β → String) (condition : Prop) : Prop :=
  (ShowsFound (ofList specs) f key (view (ofList specs)) ↔ condition) ∧
    (view (ofList (firsts specs)) = view (ofList specs) ↔ condition)

/-- **A view is faithful exactly where no specification that passes its test is a repetition.** -/
theorem faithfulIff_noneRepeated {view : CommandTable → List β} (f : CommandSpec → β)
    (key : β → String) (q : β → Bool) (hkey : ∀ s, key (f s) = s.name)
    (hview : ∀ specs, view (ofList specs) = (specs.map f).filter q) (specs : List CommandSpec) :
    FaithfulIff specs view f key (NoneRepeated (q ∘ f) specs) := by
  rw [FaithfulIff, hview, hview]
  refine ⟨⟨noneRepeated_of_showsFound hkey, fun h => ?_⟩, ?_⟩
  · have hfirsts := (map_filter_firsts_eq_iff f (q ∘ f) specs).mpr h
    rw [List.filter_map, ← hfirsts]
    have hkeys : ((((firsts specs).filter (q ∘ f)).map f).map key)
        = ((firsts specs).filter (q ∘ f)).map name := by
      rw [List.map_map]
      exact List.map_congr_left fun s _ => hkey s
    refine ⟨fun e he => ?_, hkeys ▸ (names_firsts_nodup specs).sublist (List.filter_sublist.map name)⟩
    obtain ⟨s, hs, rfl⟩ := List.mem_map.mp he
    have hfind : (ofList specs).find? s.name = some s := by
      rw [← find?_ofList_firsts, find?_eq]
      exact (find?_eq_some_iff_mem (names_firsts_nodup specs)).mpr ⟨(List.mem_filter.mp hs).1, rfl⟩
    rw [hkey, hfind, Option.map_some]
  · rw [List.filter_map, List.filter_map]
    exact map_filter_firsts_eq_iff f (q ∘ f) specs

theorem size_firsts_eq_iff :
    (ofList (firsts specs)).size = (ofList specs).size ↔ (specs.map name).Nodup := by
  rw [← noneRepeated_true_iff, ← filter_firsts_eq_iff, List.filter_eq_self.mpr fun _ _ => rfl,
    List.filter_eq_self.mpr fun _ _ => rfl]
  exact ⟨(firsts_sublist specs).eq_of_length, congrArg List.length⟩

theorem catalog_firsts_eq_iff :
    HelpCatalog.ofTable (ofList (firsts specs)) = HelpCatalog.ofTable (ofList specs) ↔
      NoneRepeated inHelp specs := by
  rw [← map_filter_firsts_eq_iff HelpCatalog.entryOf]
  exact ⟨congrArg HelpCatalog.entries, fun h => congrArg
    (fun entries => { HelpCatalog.ofTable (ofList specs) with entries := entries }) h⟩

/-! ## 3. Where repetitions show -/

/-- What a repeated name changes in a table over a list of specifications. -/
structure RepetitionsShown (specs : List CommandSpec) : Prop where
  /-- Look-ups pass over repetitions. -/
  found : ∀ n, (ofList (firsts specs)).find? n = (ofList specs).find? n
  /-- So do the outcomes of all lines but the word for help. -/
  evaluated : ∀ input, input ≠ "help" →
    (ofList (firsts specs)).evaluate input = (ofList specs).evaluate input
  /-- Counting and going over the table notice every repetition. -/
  size : (ofList (firsts specs)).size = (ofList specs).size ↔ (specs.map name).Nodup
  all : FaithfulIff specs CommandTable.specs id name (specs.map name).Nodup
  /-- The other views notice the repetitions that pass their test. -/
  implemented : FaithfulIff specs CommandTable.implemented id name
    (NoneRepeated CommandSpec.implemented specs)
  summaries : ∀ implementedOnly, FaithfulIff specs (fun t => t.summaries implementedOnly) summary
    CommandSummary.name (NoneRepeated (fun s => !implementedOnly || s.implemented) specs)
  inHelp : FaithfulIff specs (fun t => t.specs.filter CommandSpec.inHelp) id name
    (NoneRepeated CommandSpec.inHelp specs)
  /-- The help catalog, which is the outcome of the word for help, notices what it lists. -/
  catalog : HelpCatalog.ofTable (ofList (firsts specs)) = HelpCatalog.ofTable (ofList specs) ↔
    NoneRepeated CommandSpec.inHelp specs
  help : (ofList (firsts specs)).evaluate "help" = (ofList specs).evaluate "help" ↔
    NoneRepeated CommandSpec.inHelp specs

/-- **A view shows what the table finds exactly where no repetition passes its test.** Look-ups and the
    outcomes of lines do not depend on repetitions; every view does, unless none of the specifications
    that it shows repeats the name of an earlier one. -/
theorem repetitions_shown_iff (specs : List CommandSpec) : RepetitionsShown specs where
  found := find?_ofList_firsts specs
  evaluated _ h := evaluate_congr (find?_ofList_firsts specs) h
  size := size_firsts_eq_iff
  all := by
    rw [← noneRepeated_true_iff]
    exact faithfulIff_noneRepeated id name (fun _ => true) (fun _ => rfl)
      (fun specs => by rw [List.map_id, List.filter_eq_self.mpr fun _ _ => rfl, ofList]) specs
  implemented := faithfulIff_noneRepeated id name CommandSpec.implemented (fun _ => rfl)
    (fun specs => by simp [ofList, CommandTable.implemented]) specs
  summaries implementedOnly := faithfulIff_noneRepeated summary CommandSummary.name
    (fun s => !implementedOnly || s.implemented) (fun _ => rfl) (fun _ => rfl) specs
  inHelp := faithfulIff_noneRepeated id name CommandSpec.inHelp (fun _ => rfl)
    (fun specs => by simp [ofList]) specs
  catalog := catalog_firsts_eq_iff
  help := by
    rw [evaluate_of_help, evaluate_of_help, Outcome.help.injEq]
    exact catalog_firsts_eq_iff

/-- The first of two specifications of one name has no template, the second has one: among what is
    implemented the second is shown, but a look-up does not find it and its call comes to a warning; the
    name is shown twice and counted twice. -/
theorem repetition_shown_not_found :
    ∃ specs : List CommandSpec,
      (∃ s ∈ (ofList specs).implemented, (ofList specs).find? s.name ≠ some s) ∧
      (ofList specs).evaluate "cy.a()" = .warning (notImplementedMessage "cy.a") ∧
      ¬ ((ofList specs).specs.map name).Nodup ∧
      (ofList (firsts specs)).size ≠ (ofList specs).size := by
  refine ⟨[⟨"cy.a", "cy.a()", "", true, none⟩, ⟨"cy.a", "cy.a()", "", true, some fun _ => "pong"⟩],
    ⟨_, List.mem_cons_self, fun h => ?_⟩, ?_, by decide, by decide⟩
  · rw [find?_eq] at h
    cases h
  · have hcut : Call.CutAt "cy.a()" ['c', 'y', '.', 'a'] ([] ++ [')']) :=
      .of_split (by decide) (by decide)
    have hb : Call.IsBalanced "cy.a()".toList ([] ++ [')']) := (isBalanced_iff _ _).mp (by decide)
    rw [evaluate_of_balanced hcut hb rfl (.nil 1)]
    rfl

end CommandTable

end CommandConsole
