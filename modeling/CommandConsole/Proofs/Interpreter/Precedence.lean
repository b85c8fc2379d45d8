import CommandConsole.Interpreter
import CommandConsole.Proofs.Call.Reading
import CommandConsole.Proofs.Command.Lookup

/-!
# Which rule decides a line

The rules for a line, over any table: help, no parenthesis, no balanced call, no command of that name, no
template, and the template. Whether a call is balanced, and where its arguments end, is said of the count
of open parentheses, a signed 32-bit word that wraps around, and so of every line; of a line with fewer
than 2^31 - 1 opening parentheses the nested grammar says the same.

* `isCommandName_iff`: which names have the shape of a command;
* `Call.CutAt.exists_args`: in a balanced call the first parenthesis is closed;
* `CommandTable.evaluate_of_named`: a balanced call is simulated by the first specification that has
  its name, if the name has the shape of a command;
* `CommandTable.evaluate_of_cut`: what every call comes to;
* `CommandTable.evaluate_precedence`: each rule decides exactly the lines that no rule before it has
  decided.
-/

namespace CommandConsole

open Call

/-! ## 1. Names and calls -/

/-- The name is, in full, `cy.` and one or more word characters. -/
def Call.IsCommandName (name : String) : Prop :=
  ∃ word, name.toList = 'c' :: 'y' :: '.' :: word ∧ word ≠ [] ∧ ∀ c ∈ word, Text.isWord c = true

theorem isCommandName_iff (name : String) : isCommandName name = true ↔ IsCommandName name := by
  rw [isCommandName]
  split
  · rename_i word hname
    rw [Bool.and_eq_true, List.all_eq_true, Bool.not_eq_true', List.isEmpty_eq_false_iff]
    refine ⟨fun h => ⟨word, hname, h⟩, fun hcase => ?_⟩
    obtain ⟨word', hname', h⟩ := hcase
    rw [hname] at hname'
    cases hname'
    exact h
  · rename_i hother
    refine ⟨fun h => Bool.noConfusion h, fun hcase => ?_⟩
    obtain ⟨word, hname, -⟩ := hcase
    exact absurd hname (hother word)

/-- The line is a balanced call: behind its first parenthesis the count of open parentheses goes from one
    to zero and never below, and the line ends in a closing parenthesis. -/
def Call.IsBalanced (line rest : List Char) : Prop :=
  Counted 0 1 rest 0 ∧ EndsInParen line

theorem isBalanced_iff (line rest : List Char) :
    (balances rest && endsClosed line) = true ↔ IsBalanced line rest := by
  rw [Bool.and_eq_true, balances_iff, endsClosed_iff, IsBalanced]

/-- The line is a call: it is not the word for help, and this is what stands in front of its first
    parenthesis and behind it. -/
structure Call.CutAt (input : String) (pre rest : List Char) : Prop where
  notHelp : input ≠ "help"
  split : input.toList = pre ++ '(' :: rest
  first : '(' ∉ pre

/-- The candidate name of a call. -/
def Call.nameOf (pre : List Char) : String := String.ofList (Text.trim pre)

/-- A line with a parenthesis in it is not the word for help. -/
theorem Call.CutAt.of_split {input : String} {pre rest : List Char}
    (split : input.toList = pre ++ '(' :: rest) (first : '(' ∉ pre) : CutAt input pre rest where
  notHelp := by
    rintro rfl
    have hmem : '(' ∈ "help".toList := split ▸ List.mem_append_right _ List.mem_cons_self
    exact absurd hmem (by decide)
  split := split
  first := first

theorem Call.CutAt.exists_of_mem {input : String} (h : input ≠ "help") (hmem : '(' ∈ input.toList) :
    ∃ pre rest, CutAt input pre rest := by
  obtain ⟨pre, rest, split, first⟩ := List.eq_append_cons_of_mem hmem
  exact ⟨pre, rest, h, split, first⟩

/-- A line is cut at its first parenthesis in one way only. -/
theorem Call.CutAt.takeWhile_eq {input : String} {pre rest : List Char} (h : CutAt input pre rest) :
    input.toList.takeWhile (· != '(') = pre := by
  have hpre : ∀ x ∈ pre, (x != '(') = true := fun x hx => by
    simpa using ne_of_mem_of_not_mem hx h.first
  rw [h.split, List.takeWhile_append_of_pos hpre, List.takeWhile_cons_of_neg (by simp),
    List.append_nil]

/-- **In a balanced call the first parenthesis is closed.** -/
theorem Call.CutAt.exists_args {input : String} {pre rest : List Char} (h : CutAt input pre rest)
    (hb : IsBalanced input.toList rest) : ∃ args tail, rest = args ++ ')' :: tail ∧ Enclosed args := by
  obtain ⟨hcounted, hend⟩ := hb
  obtain ⟨body, u, hline, hu⟩ := hend.exists_plain
  have hno : '(' ∉ ')' :: u := fun hmem => by
    rcases List.mem_cons.mp hmem with hparen | hmem
    · exact absurd hparen (by decide)
    · exact (hu _ hmem).2.1 rfl
  obtain ⟨m, -, rfl⟩ := Text.exists_of_eq_append hno (h.split.symm.trans hline)
  exact hcounted.exists_enclosed hu

/-- A line with fewer than 2^31 - 1 opening parentheses is read by their nesting. -/
theorem Call.CutAt.readsAsNested {input : String} {pre rest : List Char} (h : CutAt input pre rest)
    (few : input.toList.count '(' < 2147483647) : ReadsAsNested rest := by
  rw [h.split, List.count_append, List.count_cons_self] at few
  exact Call.readsAsNested (by omega)

/-- How a call is read. -/
theorem Call.CutAt.ofString_eq {input : String} {pre rest : List Char} (h : CutAt input pre rest) :
    Line.ofString input = .call
      { name := nameOf pre
        args := String.ofList (argumentText rest)
        parens := if balances rest && endsClosed input.toList then .balanced else .unbalanced
        hasParens := true } := by
  have hne : input ≠ helpKeyword := h.notHelp
  rw [Line.ofString, if_neg hne, h.split, ofChars_of_split h.first, nameOf]

/-- How a call is read whose first parenthesis has a matching one. -/
theorem Call.CutAt.ofString {input : String} {pre args tail : List Char}
    (h : CutAt input pre (args ++ ')' :: tail)) (henclosed : Enclosed args) :
    Line.ofString input = .call
      { name := nameOf pre
        args := String.ofList args
        parens := if balances (args ++ ')' :: tail) && endsClosed input.toList then .balanced
          else .unbalanced
        hasParens := true } := by
  rw [h.ofString_eq, argumentText_of_enclosed henclosed]

/-- A line that is read as a balanced call, in its pieces. -/
theorem Call.CutAt.exists_of_balanced {input : String} {c : Call}
    (h : Line.ofString input = .call c) (hb : c.parens = .balanced) :
    ∃ pre args tail, CutAt input pre (args ++ ')' :: tail) ∧
      IsBalanced input.toList (args ++ ')' :: tail) ∧ Enclosed args ∧
      c = { name := nameOf pre, args := String.ofList args, parens := .balanced, hasParens := true } := by
  rw [Line.ofString] at h
  split at h
  · cases h
  · rename_i hne
    obtain rfl := Line.call.inj h
    have hmem : '(' ∈ input.toList := by
      by_contra hno
      rw [ofChars_of_not_mem hno] at hb
      cases hb
    obtain ⟨pre, rest, split, first⟩ := List.eq_append_cons_of_mem hmem
    have hcut : CutAt input pre rest := ⟨hne, split, first⟩
    rw [split, ofChars_of_split first] at hb ⊢
    by_cases hclosed : (balances rest && endsClosed (pre ++ '(' :: rest)) = true
    · have hbalanced := (isBalanced_iff _ _).mp hclosed
      obtain ⟨args, tail, rfl, henclosed⟩ := hcut.exists_args (split ▸ hbalanced)
      refine ⟨pre, args, tail, hcut, hbalanced, henclosed, ?_⟩
      rw [if_pos hclosed, argumentText_of_enclosed henclosed, nameOf]
    · rw [if_neg hclosed] at hb
      cases hb

/-- The first specification of this name, provided the name has the shape of a command. -/
def CommandSpec.Names (specs : List CommandSpec) (name : String) (s : CommandSpec) : Prop :=
  IsCommandName name ∧ specs.find? (fun s => s.name == name) = some s

theorem CommandSpec.Names.name_eq {specs : List CommandSpec} {name : String} {s : CommandSpec}
    (h : Names specs name s) : s.name = name := by
  simpa using List.find?_some h.2

namespace CommandTable

variable {specs : List CommandSpec} {input : String} {pre rest args tail : List Char}
  {s : CommandSpec}

theorem evaluate_of_help (t : CommandTable) :
    t.evaluate "help" = .help (HelpCatalog.ofTable t) := rfl

theorem evaluate_of_call (t : CommandTable) (h : input ≠ "help") :
    t.evaluate input = t.classifyCall (.ofChars input.toList) input := by
  have hne : input ≠ helpKeyword := h
  rw [evaluate, Line.ofString, if_neg hne, classify]

theorem evaluate_of_missing (t : CommandTable) (h : input ≠ "help") (hno : '(' ∉ input.toList) :
    t.evaluate input = .error (missingMessage (Text.trimmed input)) := by
  rw [t.evaluate_of_call h, ofChars_of_not_mem hno]
  rfl

theorem evaluate_of_unbalanced (t : CommandTable) (h : CutAt input pre rest)
    (hb : ¬ IsBalanced input.toList rest) :
    t.evaluate input = .error (unbalancedMessage (nameOf pre)) := by
  rw [← isBalanced_iff, Bool.not_eq_true] at hb
  rw [t.evaluate_of_call h.notHelp]
  rw [h.split] at hb ⊢
  rw [ofChars_of_split h.first, hb]
  rfl

/-- What a balanced call comes to, once its name has been looked up. -/
theorem evaluate_of_balanced (h : CutAt input pre rest) (hb : IsBalanced input.toList rest)
    (hargs : rest = args ++ ')' :: tail) (henclosed : Enclosed args) :
    (ofList specs).evaluate input =
      ((specs.find? fun s => s.name == nameOf pre).filter fun s => isCommandName s.name).elim
        (.error (invalidMessage input)) fun s => s.simulate input (String.ofList args) := by
  rw [← isBalanced_iff] at hb
  rw [(ofList specs).evaluate_of_call h.notHelp]
  rw [h.split] at hb ⊢
  rw [ofChars_of_split h.first, hb, hargs, argumentText_of_enclosed henclosed, classifyCall]
  simp only [if_true, commandOf?, isCommandShaped, find?_eq, ofList]
  cases hfind : specs.find? fun s => s.name == nameOf pre with
  | none =>
    rw [nameOf] at hfind
    simp [hfind]
  | some s =>
    have hname : s.name = nameOf pre := by simpa using List.find?_some hfind
    rw [nameOf] at hfind hname
    rw [hfind, ← hname]
    cases hshape : isCommandName s.name with
    | false => simp [Option.filter, hshape]
    | true =>
      simp only [if_true, Option.filter, hshape, Option.elim, CommandSpec.simulate]
      cases s.template <;> rfl

/-- A balanced call that names no command is an error that repeats the line. -/
theorem evaluate_of_unnamed (h : CutAt input pre rest) (hb : IsBalanced input.toList rest)
    (hno : ∀ s, ¬ CommandSpec.Names specs (nameOf pre) s) :
    (ofList specs).evaluate input = .error (invalidMessage input) := by
  obtain ⟨args, tail, hargs, henclosed⟩ := h.exists_args hb
  rw [evaluate_of_balanced h hb hargs henclosed]
  cases hfind : specs.find? fun s => s.name == nameOf pre with
  | none => rfl
  | some s =>
    have hname : s.name = nameOf pre := by simpa using List.find?_some hfind
    have hshape : isCommandName s.name = false := by
      rw [hname, ← Bool.not_eq_true, isCommandName_iff]
      exact fun hn => hno s ⟨hn, hfind⟩
    simp [Option.filter, hshape]

/-- **A balanced call is simulated by the first specification that has its name**, if the name has the
    shape of a command. -/
theorem evaluate_of_named (h : CutAt input pre rest) (hb : IsBalanced input.toList rest)
    (hs : CommandSpec.Names specs (nameOf pre) s) (hargs : rest = args ++ ')' :: tail)
    (henclosed : Enclosed args) :
    (ofList specs).evaluate input = s.simulate input (String.ofList args) := by
  have hshape : isCommandName s.name = true := by
    rw [hs.name_eq, isCommandName_iff]
    exact hs.1
  rw [evaluate_of_balanced h hb hargs henclosed, hs.2]
  simp [Option.filter, hshape]

end CommandTable

/-! ## 3. No two rules answer alike -/

/-- A simulated command comes to what its template says, when it has one. -/
theorem CommandSpec.simulate_eq_success_iff (s : CommandSpec) (input args out : String) :
    s.simulate input args = .success out ↔
      ∃ template, s.template = some template ∧ template ⟨input, args⟩ = out := by
  unfold simulate
  cases s.template with
  | none => simp
  | some template => simp

namespace CommandTable

variable {specs : List CommandSpec} {input : String} {pre rest : List Char}

/-- What a call comes to, by the state of its parentheses and its name. -/
theorem evaluate_of_cut (specs : List CommandSpec) (h : CutAt input pre rest) :
    (¬ IsBalanced input.toList rest ∧
      (ofList specs).evaluate input = .error (unbalancedMessage (nameOf pre))) ∨
    (IsBalanced input.toList rest ∧ (∀ s, ¬ CommandSpec.Names specs (nameOf pre) s) ∧
      (ofList specs).evaluate input = .error (invalidMessage input)) ∨
    (IsBalanced input.toList rest ∧ ∃ s args tail, CommandSpec.Names specs (nameOf pre) s ∧
      rest = args ++ ')' :: tail ∧ Enclosed args ∧
      (ofList specs).evaluate input = s.simulate input (String.ofList args)) := by
  by_cases hb : IsBalanced input.toList rest
  · by_cases hs : ∃ s, CommandSpec.Names specs (nameOf pre) s
    · obtain ⟨s, hs⟩ := hs
      obtain ⟨args, tail, hargs, henclosed⟩ := h.exists_args hb
      exact .inr (.inr ⟨hb, s, args, tail, hs, hargs, henclosed,
        evaluate_of_named h hb hs hargs henclosed⟩)
    · have hno := not_exists.mp hs
      exact .inr (.inl ⟨hb, hno, evaluate_of_unnamed h hb hno⟩)
  · exact .inl ⟨hb, (ofList specs).evaluate_of_unbalanced h hb⟩

/-- A success or a warning is said by a specification that has the name of the call. -/
theorem named_of_said {m : String}
    (h : (ofList specs).evaluate input = .success m ∨ (ofList specs).evaluate input = .warning m) :
    ∃ pre rest args tail s, CutAt input pre rest ∧ IsBalanced input.toList rest ∧
      rest = args ++ ')' :: tail ∧ Enclosed args ∧ s ∈ specs ∧ s.name = nameOf pre ∧
      (ofList specs).evaluate input = s.simulate input (String.ofList args) := by
  have hother : ∀ {o}, (ofList specs).evaluate input = o → o ≠ .success m → o ≠ .warning m → False :=
    fun ho hs hw => h.elim (fun h => hs (ho.symm.trans h)) fun h => hw (ho.symm.trans h)
  by_cases hne : input = "help"
  · exact (hother (by rw [hne, evaluate_of_help]) (by simp) (by simp)).elim
  · by_cases hmem : '(' ∈ input.toList
    · obtain ⟨pre, rest, hcut⟩ := CutAt.exists_of_mem hne hmem
      rcases evaluate_of_cut specs hcut with
        ⟨-, e⟩ | ⟨-, -, e⟩ | ⟨hb, s, args, tail, hs, hargs, henclosed, e⟩
      · exact (hother e (by simp) (by simp)).elim
      · exact (hother e (by simp) (by simp)).elim
      · exact ⟨pre, rest, args, tail, s, hcut, hb, hargs, henclosed,
          List.mem_of_find?_eq_some hs.2, hs.name_eq, e⟩
    · exact (hother ((ofList specs).evaluate_of_missing hne hmem) (by simp) (by simp)).elim

end CommandTable

end CommandConsole
