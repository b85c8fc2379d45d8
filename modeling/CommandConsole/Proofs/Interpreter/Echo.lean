import CommandConsole.Proofs.Interpreter.Chain

/-!
# A success tells which line it answers

The message of a success is the line itself and a remark on what was logged, and nothing stands between
the two. A line may hold the text of a remark, so where the line ends cannot be seen in the message. But
of two lines that a message may begin with, the longer one goes on behind the first call of the shorter
one, so both log the same text and the remarks are of the same length.

* `LogsText.append`, `LogsText.unique`: what a line logs does not change when the line goes on;
* `success_names_line`: two successes say the same exactly if their lines are the same.
-/

namespace CommandConsole

open Call

variable {s s' out out' : String} {t t' : List Char}

/-! ## 1. What a line logs -/

/-- The first parenthesis of the line encloses arguments, and they log this text. -/
def LogsText (s : String) (t : List Char) : Prop :=
  ∃ pre args tail, CutAt s pre (args ++ ')' :: tail) ∧ Enclosed args ∧ CommandSpec.Logs args t

/-- What comes behind the first call does not change what is logged. -/
theorem LogsText.append (h : LogsText s t) (r : String) : LogsText (s ++ r) t := by
  obtain ⟨pre, args, tail, hcut, henclosed, hlogs⟩ := h
  have hlonger := hcut.append r
  rw [List.append_assoc, List.cons_append] at hlonger
  exact ⟨pre, args, tail ++ r.toList, hlonger, henclosed, hlogs⟩

/-- **A line logs one text.** -/
theorem LogsText.unique (h : LogsText s t) (h' : LogsText s t') : t = t' := by
  obtain ⟨pre, args, tail, hcut, henclosed, hlogs⟩ := h
  obtain ⟨pre', args', tail', hcut', henclosed', hlogs'⟩ := h'
  have hread := (hcut.ofString henclosed).symm.trans (hcut'.ofString henclosed')
  have hargs : String.ofList args = String.ofList args' := (Call.mk.inj (Line.call.inj hread)).2.1
  have hlogged := (CommandSpec.logs_iff henclosed t).mp hlogs
  have hlogged' := (CommandSpec.logs_iff henclosed' t').mp hlogs'
  rw [← hargs, hlogged] at hlogged'
  exact String.ofList_inj.mp hlogged'

/-! ## 2. Lines and their messages -/

/-- The message of a success is the line and a remark on the text that it logs. -/
theorem exists_logsText (h : evaluate s = .success out) :
    ∃ t, LogsText s t ∧ out = s ++ " // Logged message \"" ++ String.ofList t ++ "\"" := by
  obtain ⟨pre, args, tail, t, hcut, -, -, henclosed, hlogs, hout⟩ := (evaluate_eq_success_iff s out).mp h
  exact ⟨t, ⟨pre, args, tail, hcut, henclosed, hlogs⟩, hout⟩

/-- **A longer line does not say the same**: it logs the text that the shorter one logs, so its message
    is longer too. -/
theorem eq_empty_of_success_append {r : String} (h : evaluate s = .success out)
    (h' : evaluate (s ++ r) = .success out) : r = "" := by
  obtain ⟨t, hlogs, hout⟩ := exists_logsText h
  obtain ⟨t', hlogs', hout'⟩ := exists_logsText h'
  obtain rfl : t = t' := (hlogs.append r).unique hlogs'
  rw [hout] at hout'
  simpa using congrArg String.toList hout'

/-- Of two texts that one text begins with, one goes on behind the other. -/
theorem exists_eq_append {x y : String} (h : s ++ x = s' ++ y) :
    (∃ r, s' = s ++ r) ∨ ∃ r, s = s' ++ r := by
  have hlists := congrArg String.toList h
  rw [String.toList_append, String.toList_append, List.append_eq_append_iff] at hlists
  rcases hlists with ⟨r, hr, -⟩ | ⟨r, hr, -⟩
  · exact .inl ⟨String.ofList r, String.toList_inj.mp (by simpa using hr)⟩
  · exact .inr ⟨String.ofList r, String.toList_inj.mp (by simpa using hr)⟩

/-- **A success tells which line it answers.** Over the built-in commands no two lines come to successes
    with the same message, whatever the lines contain. -/
theorem success_names_line (h : evaluate s = .success out) (h' : evaluate s' = .success out') :
    out = out' ↔ s = s' := by
  constructor
  · intro hsame
    rw [← hsame] at h'
    obtain ⟨t, -, hout⟩ := exists_logsText h
    obtain ⟨t', -, hout'⟩ := exists_logsText h'
    rw [hout, String.append_assoc, String.append_assoc, String.append_assoc, String.append_assoc] at hout'
    rcases exists_eq_append hout' with ⟨r, rfl⟩ | ⟨r, rfl⟩
    · rw [eq_empty_of_success_append h h', String.append_empty]
    · rw [eq_empty_of_success_append h' h, String.append_empty]
  · intro hline
    rw [hline] at h
    exact Outcome.success.inj (h.symm.trans h')

/-- A line goes on behind another one with the text of its remark, and still says something else. -/
theorem success_names_line_remark :
    evaluate "cy.log('a')" = .success "cy.log('a') // Logged message \"a\"" ∧
      evaluate "cy.log('a') // Logged message \"a\";()"
        = .success "cy.log('a') // Logged message \"a\";() // Logged message \"a\"" ∧
      "cy.log('a') // Logged message \"a\""
        ≠ "cy.log('a') // Logged message \"a\";() // Logged message \"a\"" := by
  have hbody : LiteralBody '\'' "a".toList := .plain (by decide) (by decide) .nil
  have hlogs : CommandSpec.Logs "'a'".toList "a".toList :=
    ⟨fun _ => ⟨[], '\'', [], rfl, by simp, rfl, hbody⟩,
      fun hplain => absurd (hplain '\'' (by decide)) (by decide)⟩
  have succeeds : ∀ {line : String}, Line.ofString line = .call ⟨"cy.log", "'a'", .balanced, true⟩ →
      evaluate line = .success (line ++ " // Logged message \"" ++ String.ofList "a".toList ++ "\"") :=
    fun hread => (evaluate_eq_success_iff _ _).mpr ((isLogged_iff hread rfl).mpr ⟨rfl, _, hlogs, rfl⟩)
  have hshort : evaluate "cy.log('a')" = .success "cy.log('a') // Logged message \"a\"" :=
    succeeds (by decide +kernel)
  have hlong : evaluate "cy.log('a') // Logged message \"a\";()"
      = .success "cy.log('a') // Logged message \"a\";() // Logged message \"a\"" :=
    succeeds (by decide +kernel)
  exact ⟨hshort, hlong, fun hsame =>
    absurd ((success_names_line hshort hlong).mp hsame) (by decide)⟩

end CommandConsole
