import Mathlib.Data.List.TakeWhile
import CommandConsole.Proofs.Call.Counting
import CommandConsole.Proofs.Text.Digits

/-!
# The first literal of an argument text

Two readers know about literals. The scanner of parentheses skips over them on its way through a line;
the extractor looks for the first quote character of a text and reads on to the quote that closes it,
and knows nothing of parentheses. Here they are held against each other on the texts whose parentheses
are counted: wherever the scanner gets through, the literal that the first quote character opens is
closed.

* `firstLiteral_of_split`: what the extractor finds, given a text cut at its first literal;
* `Counted.exists_body`: a quote character that no other one precedes opens a literal;
* `Counted.firstLiteral_eq_none_iff`: the extractor finds nothing exactly when there is no quote
  character in the text.
-/

namespace CommandConsole.Call

variable {low d e : Int32} {q : Char} {b p rest cs : List Char}

/-! ## 1. The extractor -/

theorem closeLiteralFrom_body (hq : q ≠ '\\') (hb : LiteralBody q b) (seen rest : List Char) :
    closeLiteralFrom q false seen (b ++ q :: rest) = some (seen.reverse ++ b, rest) := by
  induction hb generalizing seen with
  | nil =>
    rw [List.nil_append, closeLiteralFrom, if_neg Bool.false_ne_true, if_neg hq, if_pos rfl,
      List.append_nil]
  | plain hcq hcb _ ih =>
    rw [List.cons_append, closeLiteralFrom, if_neg Bool.false_ne_true, if_neg hcb, if_neg hcq, ih]
    simp
  | escaped c _ ih =>
    rw [List.cons_append, List.cons_append, closeLiteralFrom, if_neg Bool.false_ne_true, if_pos rfl,
      closeLiteralFrom, if_pos rfl, ih]
    simp

/-- **A body in front of its closing quote is read in full**, whatever follows. -/
theorem closeLiteral_body (hq : q ≠ '\\') (hb : LiteralBody q b) (rest : List Char) :
    closeLiteral q (b ++ q :: rest) = some (b, rest) :=
  closeLiteralFrom_body hq hb [] rest

theorem firstLiteral_of_no_quote (h : ∀ c ∈ cs, isQuote c = false) : firstLiteral cs = none := by
  have hnone : cs.dropWhile (fun c => !isQuote c) = [] :=
    List.dropWhile_eq_nil_iff.mpr fun c hc => by rw [h c hc, Bool.not_false]
  rw [firstLiteral, hnone]

/-- The first quote character decides which literal is read. -/
theorem firstLiteral_of_first_quote (hp : ∀ c ∈ p, isQuote c = false) (hq : isQuote q = true)
    (rest : List Char) : firstLiteral (p ++ q :: rest) = (closeLiteral q rest).map (·.1) := by
  have hcut : (p ++ q :: rest).dropWhile (fun c => !isQuote c) = q :: rest :=
    Text.dropWhile_word (fun c hc => by rw [hp c hc, Bool.not_false]) (by simp [hq])
  rw [firstLiteral, hcut]

/-- **The first literal of a text that is cut at it.** -/
theorem firstLiteral_of_split (hp : ∀ c ∈ p, isQuote c = false) (hq : isQuote q = true)
    (hb : LiteralBody q b) (rest : List Char) :
    firstLiteral (p ++ q :: (b ++ q :: rest)) = some b := by
  rw [firstLiteral_of_first_quote hp hq, closeLiteral_body (ne_backslash_of_isQuote hq) hb,
    Option.map_some]

/-! ## 2. Texts that the scanner gets through -/

/-- A text whose first quote character is further back than its first character. -/
theorem exists_of_not_quote {c : Char} (hc : isQuote c = false) (hq : isQuote q = true)
    (h : p ++ q :: rest = c :: cs) : ∃ p', p = c :: p' ∧ p' ++ q :: rest = cs := by
  rcases List.append_eq_cons_iff.mp h with ⟨rfl, hcons⟩ | ⟨p', rfl, htail⟩
  · obtain ⟨rfl, -⟩ := List.cons.inj hcons
    rw [hc] at hq
    cases hq
  · exact ⟨p', rfl, htail.symm⟩

/-- **In a text that is counted a quote character that no other one precedes opens a literal.** The
    induction is on the counting: what is not a quote is left behind, and the first one is. -/
theorem Counted.exists_body (h : Counted low d (p ++ q :: rest) e) (hp : ∀ c ∈ p, isQuote c = false)
    (hq : isQuote q = true) : ∃ b s, rest = b ++ q :: s ∧ LiteralBody q b := by
  generalize hcs : p ++ q :: rest = cs at h
  induction h generalizing p with
  | nil => simp at hcs
  | plain hplain _ _ _ ih =>
    obtain ⟨p, rfl, htail⟩ := exists_of_not_quote hplain hq hcs
    exact ih (List.forall_mem_cons.mp hp).2 htail
  | @literal _ _ q' b s hq' hb _ _ =>
    rcases List.append_eq_cons_iff.mp hcs with ⟨rfl, hcons⟩ | ⟨p, rfl, -⟩
    · obtain ⟨rfl, rfl⟩ := List.cons.inj hcons
      exact ⟨b, s, rfl, hb⟩
    · rw [hp q' List.mem_cons_self] at hq'
      cases hq'
  | opening _ ih =>
    obtain ⟨p, rfl, htail⟩ := exists_of_not_quote (by decide) hq hcs
    exact ih (List.forall_mem_cons.mp hp).2 htail
  | closing _ _ ih =>
    obtain ⟨p, rfl, htail⟩ := exists_of_not_quote (by decide) hq hcs
    exact ih (List.forall_mem_cons.mp hp).2 htail

/-- A text with a quote character in it, cut at the first one. -/
theorem exists_first_quote (h : ∃ c ∈ cs, isQuote c = true) :
    ∃ p q rest, cs = p ++ q :: rest ∧ (∀ c ∈ p, isQuote c = false) ∧ isQuote q = true := by
  obtain ⟨q, hfind⟩ := Option.isSome_iff_exists.mp (List.find?_isSome.mpr h)
  obtain ⟨hq, p, rest, hcut, hp⟩ := List.find?_eq_some_iff_append.mp hfind
  exact ⟨p, q, rest, hcut, fun c hc => by simpa using hp c hc, hq⟩

/-- A text that is counted, with a quote character in it, cut at its first literal. -/
theorem Counted.exists_literal (h : Counted low d cs e) (hquote : ∃ c ∈ cs, isQuote c = true) :
    ∃ p q b s, cs = p ++ q :: (b ++ q :: s) ∧ (∀ c ∈ p, isQuote c = false) ∧ isQuote q = true ∧
      LiteralBody q b := by
  obtain ⟨p, q, rest, rfl, hp, hq⟩ := exists_first_quote hquote
  obtain ⟨b, s, rfl, hb⟩ := h.exists_body hp hq
  exact ⟨p, q, b, s, rfl, hp, hq, hb⟩

/-- **The extractor finds nothing in a text that is counted exactly when there is no quote character in
    it**: it never meets a literal that is not closed. -/
theorem Counted.firstLiteral_eq_none_iff (h : Counted low d cs e) :
    firstLiteral cs = none ↔ ∀ c ∈ cs, isQuote c = false := by
  refine ⟨fun hnone => ?_, firstLiteral_of_no_quote⟩
  by_contra hquote
  obtain ⟨p, q, b, s, rfl, hp, hq, hb⟩ := h.exists_literal (by simpa using hquote)
  rw [firstLiteral_of_split hp hq hb] at hnone
  cases hnone

end CommandConsole.Call
