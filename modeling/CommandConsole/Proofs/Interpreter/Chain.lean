import CommandConsole.Proofs.Interpreter.Canonical
import CommandConsole.Proofs.Interpreter.Logged

/-!
# Chains of calls

A command may be followed by further calls, as in `cy.get("a").click()`. Such a line is read as its
first call: the scan behind a balanced call stands outside of everything, and each further call that is
balanced leads it back there.

* `Call.Follows`: a call that may stand behind another one;
* `Call.ofString_append`: a balanced call is read as before when a text follows that leads the count of
  open parentheses from zero back to zero and ends in a closing one;
* `chain_keeps_first_call`: what comes of a chain of any length.
-/

namespace CommandConsole

open Call

namespace Call

variable {c : Call} {s t : String} {pre args rest : List Char} {ts : List String}

/-! ## 1. A call that follows -/

/-- A balanced call in front of whose first parenthesis there is neither a quote character nor a closing
    parenthesis. -/
structure Follows (t : String) : Prop where
  balanced : ∃ c, Line.ofString t = .call c ∧ c.parens = .balanced
  plain : ∀ x ∈ t.toList.takeWhile (· != '('), isQuote x = false ∧ x ≠ ')'

/-- Read where nothing is open, a call that follows closes all it opens, and it ends in a closing
    parenthesis. -/
theorem Follows.counted (h : Follows t) : Counted 0 0 t.toList 0 ∧ EndsInParen t.toList := by
  obtain ⟨c, hread, hb⟩ := h.balanced
  obtain ⟨pre, args, tail, hcut, ⟨hrest, hend⟩, -, -⟩ := CutAt.exists_of_balanced hread hb
  have hplain := h.plain
  rw [hcut.takeWhile_eq] at hplain
  have hpre : Counted 0 0 pre 0 := Counted.of_plain (fun x hx =>
    ⟨(hplain x hx).1, ne_of_mem_of_not_mem hx hcut.first, (hplain x hx).2⟩) 0
  refine ⟨?_, hend⟩
  rw [hcut.split]
  exact hpre.append (.opening hrest)

/-! ## 2. What stands behind a call -/

/-- What is appended to a line comes behind its first parenthesis. -/
theorem CutAt.append (h : CutAt s pre rest) (t : String) : CutAt (s ++ t) pre (rest ++ t.toList) :=
  .of_split (by rw [String.toList_append, h.split, List.append_assoc, List.cons_append]) h.first

/-- **A balanced call is read as before when a text follows** that closes all it opens and ends in a
    closing parenthesis. -/
theorem ofString_append (hs : Line.ofString s = .call c) (hb : c.parens = .balanced)
    (hcounted : Counted 0 0 t.toList 0) (hend : EndsInParen t.toList) :
    Line.ofString (s ++ t) = .call c := by
  obtain ⟨pre, args, tail, hcut, ⟨hrest, -⟩, hargs, rfl⟩ := CutAt.exists_of_balanced hs hb
  have hcut' : CutAt (s ++ t) pre (args ++ ')' :: (tail ++ t.toList)) := by
    have h := hcut.append t
    rwa [List.append_assoc, List.cons_append] at h
  have hbalanced : IsBalanced (s ++ t).toList (args ++ ')' :: (tail ++ t.toList)) := by
    have hlonger := hrest.append hcounted
    rw [List.append_assoc, List.cons_append] at hlonger
    rw [String.toList_append]
    exact ⟨hlonger, hend.append s.toList⟩
  rw [hcut'.ofString hargs, if_pos ((isBalanced_iff _ _).mpr hbalanced)]

/-- Any number of calls may follow. -/
theorem ofString_append_join (hs : Line.ofString s = .call c) (hb : c.parens = .balanced)
    (hts : ∀ t ∈ ts, Follows t) : Line.ofString (s ++ String.join ts) = .call c := by
  induction ts generalizing s with
  | nil =>
    rw [String.join_nil, String.append_empty]
    exact hs
  | cons t ts ih =>
    obtain ⟨hcounted, hend⟩ := (hts t List.mem_cons_self).counted
    have hfirst := ofString_append hs hb hcounted hend
    rw [String.join_cons, ← String.append_assoc]
    exact ih hfirst fun t' ht' => hts t' (List.mem_cons_of_mem _ ht')

end Call

/-! ## 3. What comes of a chain -/

/-- A balanced call is logged when it names the command that logs, with what its arguments log. -/
theorem isLogged_iff {input out : String} {c : Call} (h : Line.ofString input = .call c)
    (hb : c.parens = .balanced) :
    IsLogged input out ↔ c.name = "cy.log" ∧ ∃ logged, CommandSpec.Logs c.args.toList logged ∧
      out = input ++ " // Logged message \"" ++ String.ofList logged ++ "\"" := by
  constructor
  · rintro ⟨pre, args, tail, logged, hcut, -, hname, henclosed, hlogs, hout⟩
    have hread := hcut.ofString henclosed
    rw [h] at hread
    obtain rfl := Line.call.inj hread
    exact ⟨hname, logged, by rwa [String.toList_ofList], hout⟩
  · rintro ⟨hname, logged, hlogs, hout⟩
    obtain ⟨pre, args, tail, hcut, hbalanced, henclosed, rfl⟩ := CutAt.exists_of_balanced h hb
    rw [String.toList_ofList] at hlogs
    exact ⟨pre, args, tail, logged, hcut, hbalanced, hname, henclosed, hlogs, hout⟩

/-- **A chain keeps its first call.** Behind a balanced call may stand any number of balanced calls, each
    with neither a quote character nor a closing parenthesis in front of its first parenthesis. The
    whole line is read as the first call alone, name and arguments and all, and is balanced with it.
    Over every table it comes to the same category as the first call alone. Over the built-in commands
    it comes to a success exactly if the first call alone does, and both say that the same text was
    logged. -/
theorem chain_keeps_first_call {s : String} {ts : List String} {c : Call}
    (hs : Line.ofString s = .call c) (hb : c.parens = .balanced) (hts : ∀ t ∈ ts, Follows t) :
    Line.ofString (s ++ String.join ts) = .call c ∧
    (∀ table : CommandTable,
      (table.evaluate (s ++ String.join ts)).category = (table.evaluate s).category) ∧
    ∀ out, evaluate (s ++ String.join ts) = .success out ↔
      ∃ logged, evaluate s = .success (s ++ " // Logged message \"" ++ logged ++ "\"") ∧
        out = s ++ String.join ts ++ " // Logged message \"" ++ logged ++ "\"" := by
  have hchain := ofString_append_join hs hb hts
  refine ⟨hchain, fun table => ?_, fun out => ?_⟩
  · rw [table.evaluate_of_ofString hchain, table.evaluate_of_ofString hs]
    exact table.category_classifyCall c c.args _ _
  · rw [evaluate_eq_success_iff, isLogged_iff hchain hb]
    constructor
    · rintro ⟨hname, logged, hlogs, hout⟩
      refine ⟨String.ofList logged, ?_, hout⟩
      exact (evaluate_eq_success_iff _ _).mpr ((isLogged_iff hs hb).mpr ⟨hname, logged, hlogs, rfl⟩)
    · rintro ⟨logged, hsuccess, hout⟩
      obtain ⟨hname, logged', hlogs, hsame⟩ :=
        (isLogged_iff hs hb).mp ((evaluate_eq_success_iff _ _).mp hsuccess)
      have hlogged : logged = String.ofList logged' := by simpa using hsame
      exact ⟨hname, logged', hlogs, hlogged ▸ hout⟩

/-- The first call logs a literal with a parenthesis in it; a call with a parenthesis in a literal and
    one behind a semicolon follow. -/
theorem chain_keeps_first_call_logged :
    Line.ofString "cy.log('a)')" = .call ⟨"cy.log", "'a)'", .balanced, true⟩ ∧
      (∀ t ∈ [".then(f(\"(\"))", " ; .end() ;"], Follows t) ∧
      evaluate "cy.log('a)').then(f(\"(\")) ; .end() ;"
        = .success "cy.log('a)').then(f(\"(\")) ; .end() ; // Logged message \"a)\"" := by
  have hread : Line.ofString "cy.log('a)')" = .call ⟨"cy.log", "'a)'", .balanced, true⟩ := by
    decide +kernel
  have hthen : Follows ".then(f(\"(\"))" :=
    ⟨⟨⟨".then", "f(\"(\")", .balanced, true⟩, by decide +kernel, rfl⟩, by simp [isQuote]⟩
  have hend : Follows " ; .end() ;" :=
    ⟨⟨⟨"; .end", "", .balanced, true⟩, by decide +kernel, rfl⟩, by simp [isQuote]⟩
  have hts : ∀ t ∈ [".then(f(\"(\"))", " ; .end() ;"], Follows t := by simpa using ⟨hthen, hend⟩
  have hbody : LiteralBody '\'' "a)".toList :=
    .plain (by decide) (by decide) (.plain (by decide) (by decide) .nil)
  have hlogs : CommandSpec.Logs "'a)'".toList "a)".toList :=
    ⟨fun _ => ⟨[], '\'', [], rfl, by simp, rfl, hbody⟩,
      fun hplain => absurd (hplain '\'' (by decide)) (by decide)⟩
  have hfirst : evaluate "cy.log('a)')" = .success "cy.log('a)') // Logged message \"a)\"" :=
    (evaluate_eq_success_iff _ _).mpr ((isLogged_iff hread rfl).mpr ⟨rfl, _, hlogs, rfl⟩)
  exact ⟨hread, hts, ((chain_keeps_first_call hread rfl hts).2.2 _).mpr ⟨"a)", hfirst, rfl⟩⟩

end CommandConsole
