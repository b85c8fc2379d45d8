import CommandConsole.Call.Scan

/-!
# The grammar of literals

What a literal is, said without a machine: two equal quote characters and between them units that
are a character other than the quote and the backslash, or a backslash together with the character
behind it.

* `run_quoted_body`: inside a literal the scanner reads a body to its end and then stands behind the
  closing quote, at the depth it came with;
* `body_of_run_quoted`: when the scanner gets out of a literal at all, a body and a closing quote are
  what it has read first.
-/

namespace CommandConsole.Call

/-- The body of a literal between two `q`. -/
inductive LiteralBody (q : Char) : List Char → Prop where
  | nil : LiteralBody q []
  | plain {c : Char} {cs : List Char} (hq : c ≠ q) (hb : c ≠ '\\') (h : LiteralBody q cs) :
      LiteralBody q (c :: cs)
  | escaped {cs : List Char} (c : Char) (h : LiteralBody q cs) : LiteralBody q ('\\' :: c :: cs)

/-- A quote character is not the backslash. -/
theorem ne_backslash_of_isQuote {q : Char} (h : isQuote q = true) : q ≠ '\\' := by
  intro heq
  subst heq
  exact absurd h (by decide)

/-! ## 1. Reading a literal -/

/-- **A body and its closing quote lead back outside**, at the same depth. -/
theorem run_quoted_body {q : Char} (hq : q ≠ '\\') {b : List Char} (hb : LiteralBody q b)
    (d : Int32) (rest : List Char) :
    (Scan.reading d (.quoted q)).run (b ++ q :: rest) = (Scan.reading d .code).run rest := by
  induction hb with
  | nil => simp [Scan.step, hq]
  | plain hcq hcb _ ih =>
    rw [List.cons_append, Scan.run_cons]
    simp only [Scan.step, if_neg hcb, if_neg hcq]
    exact ih
  | escaped c _ ih =>
    rw [List.cons_append, List.cons_append, Scan.run_cons, Scan.run_cons]
    simp only [Scan.step, if_true]
    exact ih

/-- **A scan that gets out of a literal has read a body and the closing quote.** The second half is
    the same from behind a backslash that counts: there one more character goes first. -/
theorem body_of_run_quoted (q : Char) (d e : Int32) (cs : List Char) :
    ((Scan.reading d (.quoted q)).run cs = .reading e .code →
        ∃ b rest, cs = b ++ q :: rest ∧ LiteralBody q b) ∧
      ((Scan.reading d (.escaped q)).run cs = .reading e .code →
        ∃ c b rest, cs = c :: (b ++ q :: rest) ∧ LiteralBody q b) := by
  induction cs with
  | nil => exact ⟨fun h => by simp at h, fun h => by simp at h⟩
  | cons c cs ih =>
    constructor
    · intro h
      rw [Scan.run_cons] at h
      by_cases hb : c = '\\'
      · subst hb
        simp only [Scan.step, if_true] at h
        obtain ⟨c', b, rest, rfl, hbody⟩ := ih.2 h
        exact ⟨'\\' :: c' :: b, rest, rfl, .escaped c' hbody⟩
      · by_cases hq : c = q
        · subst hq
          exact ⟨[], cs, rfl, .nil⟩
        · simp only [Scan.step, if_neg hb, if_neg hq] at h
          obtain ⟨b, rest, rfl, hbody⟩ := ih.1 h
          exact ⟨c :: b, rest, rfl, .plain hq hb hbody⟩
    · intro h
      obtain ⟨b, rest, rfl, hbody⟩ := ih.1 h
      exact ⟨c, b, rest, rfl, hbody⟩

end CommandConsole.Call
