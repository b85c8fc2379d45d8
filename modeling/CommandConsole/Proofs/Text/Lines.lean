import CommandConsole.Text.Lines
import Mathlib.Tactic.Common

/-!
# What the lines of a text are

The reader of lines goes over a text once and keeps the line begun so far. Here its result is said
without a machine: the text is split at its line feeds, and each part is a line.

* `linesFrom_eq`: the parts in front of a line feed lose one carriage return at their end, the part
  behind the last one is taken as it is and is a line only if there is something in it.
* `linesFrom_append_feed`: what stands behind a line feed does not change the lines before it.
-/

namespace CommandConsole.Text

section
variable {α : Type} [BEq α]

/-- A part in front of a line feed as a line: one `cr` at its end belongs to the line end. -/
def unreturned (cr : α) (part : List α) : List α :=
  if part.getLast?.any (· == cr) then part.dropLast else part

/-- The lines that the parts between line feeds stand for. -/
def linesOfParts (cr : α) : List (List α) → List (List α)
  | [] => []
  | [last] => if last.isEmpty then [] else [last]
  | part :: more => unreturned cr part :: linesOfParts cr more

/-- The lines of a text, split at `lf`. -/
def linesBetween (lf cr : α) (cs : List α) : List (List α) := linesOfParts cr (cs.splitOn lf)

theorem linesOfParts_cons {cr : α} {part : List α} {more : List (List α)} (h : more ≠ []) :
    linesOfParts cr (part :: more) = unreturned cr part :: linesOfParts cr more := by
  cases more with
  | nil => exact absurd rfl h
  | cons => rfl

/-- Dropping the return from the reversed line is dropping it from the line. -/
theorem reverse_dropReturn (cr : α) (line : List α) :
    (dropReturn cr line).reverse = unreturned cr line.reverse := by
  cases line with
  | nil => rfl
  | cons c line =>
    simp only [dropReturn, unreturned, List.reverse_cons, List.getLast?_concat, Option.any_some,
      List.dropLast_concat]
    split_ifs
    · rfl
    · rw [List.reverse_cons]

/-- The lines that were done stand in front. -/
theorem linesFrom_eq_append (lf cr : α) (done : List (List α)) (line cs : List α) :
    linesFrom lf cr done line cs = done.reverse ++ linesFrom lf cr [] line cs := by
  induction cs generalizing done line with
  | nil => cases h : line.isEmpty <;> simp [linesFrom, h]
  | cons c cs ih =>
    simp only [linesFrom]
    split_ifs
    · rw [ih, ih [_]]
      simp
    · exact ih done (c :: line)

/-- With a line begun, the lines are those of the text that begins with it. -/
theorem linesFrom_eq_linesOfParts (lf cr : α) (line cs : List α) :
    linesFrom lf cr [] line cs
      = linesOfParts cr ((cs.splitOn lf).modifyHead (line.reverse ++ ·)) := by
  induction cs generalizing line with
  | nil =>
    cases line with
    | nil => rfl
    | cons c line => simp [linesFrom, linesOfParts]
  | cons c cs ih =>
    rw [linesFrom, List.splitOn_cons_eq_if_modifyHead]
    split_ifs with h
    · rw [linesFrom_eq_append, ih, List.modifyHead_cons, List.append_nil,
        linesOfParts_cons (List.splitOn_ne_nil lf cs), reverse_dropReturn]
      have same : ((cs.splitOn lf).modifyHead (([] : List α).reverse ++ ·)) = cs.splitOn lf := by
        cases cs.splitOn lf <;> rfl
      rw [same]
      rfl
    · rw [ih, List.modifyHead_modifyHead]
      congr 2
      funext part
      simp

/-- **The lines of a text are the parts between its line feeds**, each without the carriage return
    of its end, and the last one only if there is something in it. -/
theorem linesFrom_eq (lf cr : α) (cs : List α) :
    linesFrom lf cr [] [] cs = linesBetween lf cr cs := by
  rw [linesFrom_eq_linesOfParts, linesBetween]
  congr 1
  cases cs.splitOn lf <;> rfl

/-- **What stands behind a line feed does not change the lines before it.** -/
theorem linesFrom_append_feed [ReflBEq α] (lf cr : α) (line front more : List α) :
    linesFrom lf cr [] line (front ++ lf :: more)
      = linesFrom lf cr [] line (front ++ [lf]) ++ linesFrom lf cr [] [] more := by
  induction front generalizing line with
  | nil =>
    simp only [List.nil_append, linesFrom, beq_self_eq_true, if_true]
    rw [linesFrom_eq_append]
    rfl
  | cons c front ih =>
    simp only [List.cons_append, linesFrom]
    split_ifs
    · rw [linesFrom_eq_append, ih, linesFrom_eq_append _ _ [_] [] (front ++ [lf]),
        List.append_assoc]
    · exact ih (c :: line)

end

theorem byteLines_eq (bs : List UInt8) : byteLines bs = linesBetween 10 13 bs := linesFrom_eq 10 13 bs

end CommandConsole.Text
