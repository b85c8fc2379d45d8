import CommandConsole.Toml.Strings
import Mathlib.Data.List.Infix
import Mathlib.Tactic.Common

/-!
# Written TOML strings are read back

The writer picks among four kinds of string by what a text holds; the reader finds the kind by the
opening quotes and undoes it, whatever stands behind the string, provided that no further quote
does.

* In a string of several lines the first three quotes in a row end the string, but for up to two
  more behind them. So the reader takes the closing quotes to begin where the last quotes of the
  text do, and gives these back (`ends_early`, `closing_append`).
* `anyString_writeString`: every text is written as a string that is read as this text.
-/

namespace CommandConsole.Toml

variable {c q : Char} {cs rest seen : List Char}

/-! ## 1. Characters and escapes -/

/-- What is neither a control character nor a line end may stand in a string as it is. -/
theorem isVisible_of_not_isControl (hc : isControl c = false) (hn : c ≠ '\n') :
    isVisible c = true := by
  simp only [isControl, isVisible, Bool.and_eq_false_iff, Bool.or_eq_true, Bool.or_eq_false_iff,
    bne_eq_false_iff_eq, beq_iff_eq, decide_eq_true_eq, decide_eq_false_iff_not,
    Bool.and_eq_true, bne_iff_ne, beq_eq_false_iff_ne] at hc ⊢
  rcases hc with (hc | hc) | ⟨low, del⟩
  · exact .inl hc
  · exact absurd hc hn
  · exact .inr ⟨by omega, del⟩

theorem hexValue_hexDigit {n : Nat} (h : n < 16) : hexValue (hexDigit n) = some n := by
  have all : ∀ m < 16, hexValue (hexDigit m) = some m := by decide
  exact all n h

/-- An escape is read as the character it was written for. -/
theorem escape_writeEscape (h : c.toNat < 0x100) :
    ∃ e, writeEscape c = '\\' :: e ∧ ∀ rest, escape (e ++ rest) = some (c, rest) := by
  unfold writeEscape
  split_ifs with h₁ h₂ h₃ h₄ h₅ h₆ h₇
  iterate 7
    · subst c
      exact ⟨_, rfl, fun _ => rfl⟩
  · refine ⟨_, rfl, fun rest => ?_⟩
    have high : hexValue (hexDigit (c.toNat / 16)) = some (c.toNat / 16) :=
      hexValue_hexDigit (by omega)
    have low : hexValue (hexDigit (c.toNat % 16)) = some (c.toNat % 16) :=
      hexValue_hexDigit (by omega)
    have zero : hexValue '0' = some 0 := by decide
    have whole : 16 * (c.toNat / 16) + c.toNat % 16 = c.toNat := by omega
    have valid : c.toNat.isValidChar := c.valid
    simp only [List.cons_append, List.nil_append, escape, codePoint, zero, high, low,
      Option.bind_some, Nat.mul_zero, Nat.zero_add, whole, valid, if_true, Char.ofNat_toNat]

/-! ## 2. The inside of a basic string -/

/-- The character stands for itself, `run` quotes having just been written. -/
def StandsAsIs (lines : Bool) (allowed run : Nat) (c : Char) : Prop :=
  if c = '"' then run < allowed
  else if c = '\n' then lines = true
  else c ≠ '\\' ∧ c ≠ '\t' ∧ isControl c = false

instance (lines : Bool) (allowed run : Nat) (c : Char) :
    Decidable (StandsAsIs lines allowed run c) := by
  unfold StandsAsIs
  infer_instance

/-- What stands for itself is no backslash, and the reader lets it pass. -/
theorem StandsAsIs.isVisible {lines : Bool} {allowed run : Nat}
    (h : StandsAsIs lines allowed run c) (hn : c ≠ '\n') :
    c ≠ '\\' ∧ Toml.isVisible c = true := by
  by_cases hq : c = '"'
  · subst hq
    decide
  · obtain ⟨hb, -, hcontrol⟩ : c ≠ '\\' ∧ c ≠ '\t' ∧ isControl c = false := by
      simpa [StandsAsIs, hq, hn] using h
    exact ⟨hb, isVisible_of_not_isControl hcontrol hn⟩

/-- How many quotes have been written in a row, behind one more character. -/
def runAfter (allowed run : Nat) (c : Char) : Nat :=
  if c = '"' ∧ run < allowed then run + 1 else 0

/-- The inside of a basic string is written character by character, as it is or as an escape. -/
theorem writeBasic_cons (lines : Bool) (allowed run : Nat) (c : Char) (cs : List Char) :
    writeBasic lines allowed run (c :: cs)
      = (if StandsAsIs lines allowed run c then [c] else writeEscape c)
        ++ writeBasic lines allowed (runAfter allowed run c) cs := by
  by_cases hq : c = '"'
  · by_cases hr : run < allowed <;> simp [writeBasic, StandsAsIs, runAfter, hq, hr]
  · by_cases hn : c = '\n'
    · subst hn
      cases lines <;> simp [writeBasic, StandsAsIs, runAfter]
    · by_cases hplain : c ≠ '\\' ∧ c ≠ '\t' ∧ isControl c = false
      · obtain ⟨hb, ht, hc⟩ := hplain
        simp [writeBasic, StandsAsIs, runAfter, hq, hn, hb, ht, hc]
      · have hescaped : c = '\\' ∨ c = '\t' ∨ isControl c = true := by
          by_contra hnot
          simp_all
        rcases hescaped with rfl | rfl | hc <;> simp_all [writeBasic, StandsAsIs, runAfter]

/-- What does not stand for itself has an escape. -/
theorem escape_of_not_standsAsIs {lines : Bool} {allowed run : Nat}
    (h : ¬ StandsAsIs lines allowed run c) :
    ∃ e, writeEscape c = '\\' :: e ∧ ∀ rest, escape (e ++ rest) = some (c, rest) := by
  refine escape_writeEscape ?_
  unfold StandsAsIs at h
  split_ifs at h with hq hn
  · subst hq; decide
  · subst hn; decide
  · by_cases hb : c = '\\'
    · subst hb; decide
    · by_cases ht : c = '\t'
      · subst ht; decide
      · have hc : isControl c = true := by simpa [hb, ht] using h
        simp only [isControl, Bool.and_eq_true, Bool.or_eq_true, decide_eq_true_eq,
          beq_iff_eq] at hc
        omega

/-- A text is no longer than what is written for it. -/
theorem length_le_writeBasic (lines : Bool) (allowed run : Nat) (cs : List Char) :
    cs.length ≤ (writeBasic lines allowed run cs).length := by
  induction cs generalizing run with
  | nil => simp
  | cons c cs ih =>
    have hone : 1 ≤ (if StandsAsIs lines allowed run c then [c] else writeEscape c).length := by
      split_ifs with h
      · simp
      · obtain ⟨e, he, -⟩ := escape_of_not_standsAsIs h
        simp [he]
    have hcs := ih (runAfter allowed run c)
    rw [writeBasic_cons, List.length_append, List.length_cons]
    omega

/-- What is written begins with a backslash, or with the first character of the text. -/
theorem head_writeBasic {lines : Bool} {allowed run : Nat} {d : Char}
    (h : (writeBasic lines allowed run cs).head? = some d) :
    d = '\\' ∨ (cs.head? = some d ∧ StandsAsIs lines allowed run d) := by
  cases cs with
  | nil => simp [writeBasic] at h
  | cons c cs =>
    rw [writeBasic_cons] at h
    split_ifs at h with hc
    · have hd : c = d := by simpa using h
      subst hd
      exact .inr ⟨rfl, hc⟩
    · obtain ⟨e, he, -⟩ := escape_of_not_standsAsIs hc
      have hd : '\\' = d := by simpa [he] using h
      exact .inl hd.symm

/-! ## 3. Strings on one line -/

/-- The reader undoes a basic string on one line. -/
theorem basicFrom_writeBasic (seen : List Char) (run : Nat) {n : Nat} (hn : cs.length < n) :
    basicFrom n seen (writeBasic false 0 run cs ++ '"' :: rest)
      = some (String.ofList (seen.reverse ++ cs), rest) := by
  induction cs generalizing run n seen with
  | nil =>
    obtain ⟨n, rfl⟩ := Nat.exists_eq_add_of_lt hn
    simp [writeBasic, basicFrom]
  | cons c cs ih =>
    obtain ⟨n, rfl⟩ : ∃ m, n = m + 1 := ⟨n - 1, by omega⟩
    have hn' : cs.length < n := by simpa using hn
    have hrest := ih (c :: seen) (runAfter 0 run c) hn'
    rw [writeBasic_cons, List.append_assoc]
    split_ifs with hc
    · -- no quote and no line feed stands for itself on one line
      have hq : c ≠ '"' := by rintro rfl; simp [StandsAsIs] at hc
      have hl : c ≠ '\n' := by rintro rfl; simp [StandsAsIs] at hc
      obtain ⟨hb, hvisible⟩ := hc.isVisible hl
      rw [List.singleton_append, basicFrom, if_pos hvisible, hrest]
      · simp
      · exact hq
      · exact hb
    · obtain ⟨e, he, hread⟩ := escape_of_not_standsAsIs hc
      rw [he, List.cons_append, basicFrom, hread, Option.bind_some]
      simp [hrest]

/-- The reader undoes a literal string on one line. -/
theorem literalFrom_append (seen : List Char) (hq : '\'' ∉ cs) (hv : ∀ c ∈ cs, isVisible c = true) :
    literalFrom seen (cs ++ '\'' :: rest) = some (String.ofList (seen.reverse ++ cs), rest) := by
  induction cs generalizing seen with
  | nil => simp [literalFrom]
  | cons c cs ih =>
    rw [List.mem_cons, not_or] at hq
    have hrest := ih (c :: seen) hq.2 fun d hd => hv d (.tail c hd)
    have hvisible := hv c (.head cs)
    rw [List.cons_append, literalFrom, if_pos hvisible, hrest]
    · simp
    · exact Ne.symm hq.1

/-! ## 4. Strings on several lines -/

/-- The quotes that a text in a string of several lines may end with. -/
def FewQuotes (q : Char) (cs : List Char) : Prop := cs = [] ∨ cs = [q] ∨ cs = [q, q]

/-- In front of the closing quotes the reader finds three quotes in a row only where the text has
    them, or where nothing but quotes is left of it. -/
theorem ends_early (h : [q, q, q] <+: cs ++ q :: q :: q :: rest) :
    [q, q, q] <+: cs ∨ FewQuotes q cs := by
  match cs with
  | [] => exact .inr (.inl rfl)
  | [a] =>
    have ha : a = q := by simpa [List.cons_prefix_cons, eq_comm] using h
    exact .inr (.inr (.inl (by rw [ha])))
  | [a, b] =>
    obtain ⟨ha, hb⟩ : a = q ∧ b = q := by simpa [List.cons_prefix_cons, eq_comm] using h
    exact .inr (.inr (.inr (by rw [ha, hb])))
  | a :: b :: c :: cs =>
    obtain ⟨ha, hb, hc⟩ : a = q ∧ b = q ∧ c = q := by
      simpa [List.cons_prefix_cons, eq_comm] using h
    subst ha hb hc
    exact .inl ⟨cs, rfl⟩

/-- Quotes in front of the closing ones change places with them. -/
theorem FewQuotes.append_quotes (h : FewQuotes q cs) :
    cs ++ q :: q :: q :: rest = q :: q :: q :: (cs ++ rest) := by
  rcases h with rfl | rfl | rfl <;> rfl

/-- The quotes found behind the closing ones belong to the text. -/
theorem closing_append (h : FewQuotes q cs) (hrest : rest.head? ≠ some q) :
    closing q seen (cs ++ rest) = (String.ofList (seen.reverse ++ cs), rest) := by
  have hne : ∀ d rest', rest = d :: rest' → d ≠ q := by
    rintro d rest' rfl rfl
    exact hrest rfl
  rcases h with rfl | rfl | rfl
  · match rest with
    | [] => simp [closing]
    | [d] => simp [closing, hne d [] rfl]
    | d :: e :: rest => simp [closing, hne d (e :: rest) rfl]
  · match rest with
    | [] => simp [closing]
    | d :: rest => simp [closing, hne d rest rfl]
  · simp [closing]

/-- A quote that begins what is written begins the text, and is one of those allowed. -/
theorem writeBasic_eq_quote_cons {lines : Bool} {allowed run : Nat} {w : List Char}
    (h : writeBasic lines allowed run cs = '"' :: w) :
    ∃ ds, cs = '"' :: ds ∧ run < allowed ∧ writeBasic lines allowed (run + 1) ds = w := by
  have hhead : (writeBasic lines allowed run cs).head? = some '"' := by rw [h]; rfl
  obtain hb | ⟨hcs, hstands⟩ := head_writeBasic hhead
  · exact absurd hb (by decide)
  · obtain ⟨ds, rfl⟩ := List.head?_eq_some_iff.1 hcs
    have hrun : run < allowed := by simpa [StandsAsIs] using hstands
    have hw : writeBasic lines allowed (run + 1) ds = w := by simpa [writeBasic, hrun] using h
    exact ⟨ds, rfl, hrun, hw⟩

/-- Nothing is written only for the empty text. -/
theorem eq_nil_of_writeBasic {lines : Bool} {allowed run : Nat}
    (h : writeBasic lines allowed run cs = []) : cs = [] := by
  have hlength := length_le_writeBasic lines allowed run cs
  rw [h, List.length_nil] at hlength
  exact List.length_eq_zero_iff.1 (Nat.le_zero.1 hlength)

/-- In front of the closing quotes of a basic string, three quotes in a row mean that only quotes
    are left of the text, written as they are. -/
theorem fewQuotes_writeBasic {run : Nat}
    (h : ['"', '"', '"'] <+: writeBasic true 2 run cs ++ '"' :: '"' :: '"' :: rest) :
    FewQuotes '"' cs ∧ writeBasic true 2 run cs = cs := by
  obtain ⟨w, hthree⟩ | hnone | hone | htwo := ends_early h
  · -- the third quote would have been escaped
    obtain ⟨ds₁, rfl, -, h₁⟩ := writeBasic_eq_quote_cons hthree.symm
    obtain ⟨ds₂, rfl, -, h₂⟩ := writeBasic_eq_quote_cons h₁
    obtain ⟨ds₃, rfl, hrun, -⟩ := writeBasic_eq_quote_cons h₂
    omega
  · have hcs := eq_nil_of_writeBasic hnone
    exact ⟨.inl hcs, by rw [hnone, hcs]⟩
  · obtain ⟨ds, rfl, -, hds⟩ := writeBasic_eq_quote_cons hone
    have hnil := eq_nil_of_writeBasic hds
    subst hnil
    exact ⟨.inr (.inl rfl), hone⟩
  · obtain ⟨ds₁, rfl, -, h₁⟩ := writeBasic_eq_quote_cons htwo
    obtain ⟨ds₂, rfl, -, h₂⟩ := writeBasic_eq_quote_cons h₁
    have hnil := eq_nil_of_writeBasic h₂
    subst hnil
    exact ⟨.inr (.inr rfl), htwo⟩

/-- A character that stands for itself is taken over, a quote where it does not end the string. -/
theorem basicLinesFrom_cons {n run : Nat} {text : List Char} (hc : StandsAsIs true 2 run c)
    (hquotes : ¬ ['"', '"', '"'] <+: c :: text) :
    basicLinesFrom (n + 1) seen (c :: text) = basicLinesFrom n (c :: seen) text := by
  by_cases hn : c = '\n'
  · subst hn
    rw [basicLinesFrom]
  · obtain ⟨hb, hvisible⟩ := hc.isVisible hn
    have hr : c ≠ '\r' := by
      rintro rfl
      exact absurd hvisible (by decide)
    rw [basicLinesFrom, if_pos hvisible]
    · rintro cs rfl rfl
      exact hquotes ⟨cs, rfl⟩
    · exact hb
    · exact hn
    · rintro cs rfl
      exact absurd rfl hr

/-- The quotes that a basic string of several lines ends with are taken over. -/
theorem basicLinesFrom_fewQuotes (h : FewQuotes '"' cs) (hrest : rest.head? ≠ some '"')
    (n : Nat) :
    basicLinesFrom (n + 1) seen (cs ++ '"' :: '"' :: '"' :: rest)
      = some (String.ofList (seen.reverse ++ cs), rest) := by
  rw [h.append_quotes, basicLinesFrom, closing_append h hrest]

/-- The reader undoes a basic string on several lines. The induction goes over the text: where three
    quotes in a row are met, the string ends with the quotes that are left of the text; anywhere
    else one character is taken over. -/
theorem basicLinesFrom_writeBasic (hrest : rest.head? ≠ some '"') (seen : List Char) (run : Nat)
    {n : Nat} (hn : cs.length < n) :
    basicLinesFrom n seen (writeBasic true 2 run cs ++ '"' :: '"' :: '"' :: rest)
      = some (String.ofList (seen.reverse ++ cs), rest) := by
  obtain ⟨n, rfl⟩ : ∃ m, n = m + 1 := ⟨n - 1, by omega⟩
  induction cs generalizing run n seen with
  | nil => exact basicLinesFrom_fewQuotes (.inl rfl) hrest n
  | cons c cs ih =>
    by_cases hquotes :
        ['"', '"', '"'] <+: writeBasic true 2 run (c :: cs) ++ '"' :: '"' :: '"' :: rest
    · obtain ⟨hfew, hsame⟩ := fewQuotes_writeBasic hquotes
      rw [hsame]
      exact basicLinesFrom_fewQuotes hfew hrest n
    · obtain ⟨n, rfl⟩ : ∃ m, n = m + 1 := ⟨n - 1, by simp at hn; omega⟩
      have htail := ih (c :: seen) (runAfter 2 run c) n (by simpa using hn)
      rw [writeBasic_cons, List.append_assoc] at hquotes ⊢
      split_ifs at hquotes ⊢ with hc
      · rw [List.singleton_append] at hquotes ⊢
        rw [basicLinesFrom_cons hc hquotes, htail]
        simp
      · obtain ⟨e, he, hread⟩ := escape_of_not_standsAsIs hc
        rw [he, List.cons_append, basicLinesFrom, hread]
        simp [htail]

/-- The best run known is not forgotten. -/
theorem le_longestRun (q : Char) (now best : Nat) (cs : List Char) :
    best ≤ longestRun q now best cs := by
  induction cs generalizing now best with
  | nil => exact Nat.le_refl best
  | cons c cs ih =>
    rw [longestRun]
    split_ifs
    · exact (Nat.le_max_left ..).trans (ih (now + 1) _)
    · exact ih 0 best

/-- A text without a run of quotes has no quote. -/
theorem not_mem_of_longestRun {now best : Nat} (h : longestRun q now best cs = 0) : q ∉ cs := by
  induction cs generalizing now best with
  | nil => exact List.not_mem_nil
  | cons c cs ih =>
    rw [longestRun] at h
    split_ifs at h with hc
    · have hbest := le_longestRun q (now + 1) (max best (now + 1)) cs
      omega
    · rw [List.mem_cons, not_or]
      exact ⟨Ne.symm hc, ih h⟩

/-- Three quotes in a row are a run of three. -/
theorem three_le_longestRun (now best : Nat) (h : [q, q, q] <+: cs) :
    3 ≤ longestRun q now best cs := by
  obtain ⟨cs, rfl⟩ := h
  have hbest := le_longestRun q (now + 1 + 1 + 1)
    (max (max (max best (now + 1)) (now + 1 + 1)) (now + 1 + 1 + 1)) cs
  simp only [List.cons_append, List.nil_append, longestRun, if_true]
  omega

/-- A character that is no control character is taken over, a quote where it does not end the
    string. -/
theorem literalLinesFrom_cons {text : List Char} (hc : isControl c = false)
    (hquotes : ¬ ['\'', '\'', '\''] <+: c :: text) :
    literalLinesFrom seen (c :: text) = literalLinesFrom (c :: seen) text := by
  by_cases hn : c = '\n'
  · subst hn
    rw [literalLinesFrom]
  · have hvisible := isVisible_of_not_isControl hc hn
    have hr : c ≠ '\r' := by
      rintro rfl
      exact absurd hc (by decide)
    rw [literalLinesFrom, if_pos hvisible]
    · rintro cs rfl rfl
      exact hquotes ⟨cs, rfl⟩
    · exact hn
    · rintro cs rfl
      exact absurd rfl hr

/-- The reader undoes a literal string on several lines. -/
theorem literalLinesFrom_append {now best : Nat} (hrest : rest.head? ≠ some '\'')
    (hruns : longestRun '\'' now best cs ≤ 2) (hv : ∀ c ∈ cs, isControl c = false) :
    literalLinesFrom seen (cs ++ '\'' :: '\'' :: '\'' :: rest)
      = some (String.ofList (seen.reverse ++ cs), rest) := by
  have ending {seen cs : List Char} (h : FewQuotes '\'' cs) :
      literalLinesFrom seen (cs ++ '\'' :: '\'' :: '\'' :: rest)
        = some (String.ofList (seen.reverse ++ cs), rest) := by
    rw [h.append_quotes, literalLinesFrom, closing_append h hrest]
  induction cs generalizing seen now best with
  | nil => exact ending (.inl rfl)
  | cons c cs ih =>
    by_cases hquotes : ['\'', '\'', '\''] <+: c :: cs ++ '\'' :: '\'' :: '\'' :: rest
    · obtain hthree | hfew := ends_early hquotes
      · have hlong := three_le_longestRun now best hthree
        omega
      · exact ending hfew
    · have hcs : ∀ d ∈ cs, isControl d = false := fun d hd => hv d (.tail c hd)
      have htail : literalLinesFrom (c :: seen) (cs ++ '\'' :: '\'' :: '\'' :: rest)
          = some (String.ofList ((c :: seen).reverse ++ cs), rest) := by
        rw [longestRun] at hruns
        split_ifs at hruns with hc
        · exact ih hruns hcs
        · exact ih hruns hcs
      rw [List.cons_append] at hquotes ⊢
      rw [literalLinesFrom_cons (hv c (.head cs)) hquotes, htail]
      simp

/-! ## 5. Strings of any kind -/

/-- What does not begin with a line end is read from its first character. -/
theorem dropFirstLineEnd_of_head (h : ∀ c ∈ cs.head?, c ≠ '\n' ∧ c ≠ '\r') :
    dropFirstLineEnd cs = cs := by
  cases cs with
  | nil => rfl
  | cons c cs =>
    obtain ⟨hn, hr⟩ := h c rfl
    simp [dropFirstLineEnd, lineEnd?, hn, hr]

/-- A string of several lines is read from the first character of its inside. -/
theorem dropFirstLineEnd_inside {onNewLine : Bool} (hq : q ≠ '\n' ∧ q ≠ '\r')
    (h : onNewLine = false → ∀ c ∈ cs.head?, c ≠ '\n' ∧ c ≠ '\r') :
    dropFirstLineEnd ((if onNewLine then ['\n'] else []) ++ (cs ++ q :: rest))
      = cs ++ q :: rest := by
  cases onNewLine with
  | true => rfl
  | false =>
    refine dropFirstLineEnd_of_head fun d hd => ?_
    cases cs with
    | nil =>
      cases hd
      exact hq
    | cons c cs => exact h rfl d hd

theorem enclose_append (quotes : String) (onNewLine : Bool) (cs rest : List Char) :
    enclose quotes onNewLine cs ++ rest
      = quotes.toList
        ++ ((if onNewLine then ['\n'] else []) ++ (cs ++ (quotes.toList ++ rest))) := by
  simp [enclose]

/-- The quotes of a string on one line do not look like those of a string on several lines. -/
theorem one_line_opens (hcs : cs.head? ≠ some q) (hrest : rest.head? ≠ some q) (t : List Char) :
    cs ++ q :: rest ≠ q :: q :: t := by
  rintro ht
  cases cs with
  | nil =>
    obtain ⟨-, rfl⟩ := List.cons.inj ht
    exact hrest rfl
  | cons c cs =>
    obtain ⟨rfl, -⟩ := List.cons.inj ht
    exact hcs rfl

/-- A basic string on one line is read as its text. -/
theorem anyString_basic (cs : List Char) (hrest : rest.head? ≠ some '"') :
    anyString (enclose "\"" false (writeBasic false 0 0 cs) ++ rest)
      = some (String.ofList cs, rest) := by
  have hread : basic (writeBasic false 0 0 cs ++ '"' :: rest) = some (String.ofList cs, rest) := by
    refine basicFrom_writeBasic [] 0 ?_
    have hlength := length_le_writeBasic false 0 0 cs
    simp
    omega
  rw [enclose_append]
  change anyString ('"' :: (writeBasic false 0 0 cs ++ '"' :: rest)) = _
  have hhead : (writeBasic false 0 0 cs).head? ≠ some '"' := by
    intro h
    obtain hb | ⟨-, hstands⟩ := head_writeBasic h
    · exact absurd hb (by decide)
    · exact absurd hstands (by decide)
  rw [anyString, hread]
  exact one_line_opens hhead hrest

/-- A literal string on one line is read as its text. -/
theorem anyString_literal (hq : '\'' ∉ cs) (hv : ∀ c ∈ cs, isVisible c = true)
    (hrest : rest.head? ≠ some '\'') :
    anyString (enclose "'" false cs ++ rest) = some (String.ofList cs, rest) := by
  rw [enclose_append]
  change anyString ('\'' :: (cs ++ '\'' :: rest)) = _
  have hread : literal (cs ++ '\'' :: rest) = some (String.ofList cs, rest) :=
    literalFrom_append [] hq hv
  have hhead : cs.head? ≠ some '\'' := fun h => hq (List.mem_of_mem_head? h)
  rw [anyString, hread]
  exact one_line_opens hhead hrest

/-- A basic string on several lines is read as its text. -/
theorem anyString_basicLines {onNewLine : Bool} (hn : '\n' ∈ cs → onNewLine = true)
    (hrest : rest.head? ≠ some '"') :
    anyString (enclose "\"\"\"" onNewLine (writeBasic true 2 0 cs) ++ rest)
      = some (String.ofList cs, rest) := by
  rw [enclose_append]
  change anyString ('"' :: '"' :: '"' :: ((if onNewLine then ['\n'] else [])
    ++ (writeBasic true 2 0 cs ++ '"' :: '"' :: '"' :: rest))) = _
  rw [anyString, dropFirstLineEnd_inside]
  · refine basicLinesFrom_writeBasic hrest [] 0 ?_
    have hlength := length_le_writeBasic true 2 0 cs
    simp
    omega
  · decide
  · intro honLine d hd
    obtain rfl | ⟨hhead, hstands⟩ := head_writeBasic hd
    · decide
    · constructor
      · rintro rfl
        have hmem := hn (List.mem_of_mem_head? hhead)
        rw [honLine] at hmem
        cases hmem
      · rintro rfl
        exact absurd hstands (by decide)

/-- A literal string on several lines is read as its text. -/
theorem anyString_literalLines {onNewLine : Bool} (hn : '\n' ∈ cs → onNewLine = true)
    (hruns : longestRun '\'' 0 0 cs ≤ 2) (hv : ∀ c ∈ cs, isControl c = false)
    (hrest : rest.head? ≠ some '\'') :
    anyString (enclose "'''" onNewLine cs ++ rest) = some (String.ofList cs, rest) := by
  rw [enclose_append]
  change anyString ('\'' :: '\'' :: '\'' :: ((if onNewLine then ['\n'] else [])
    ++ (cs ++ '\'' :: '\'' :: '\'' :: rest))) = _
  rw [anyString, dropFirstLineEnd_inside]
  · exact literalLinesFrom_append hrest hruns hv
  · decide
  · intro honLine d hd
    have hmem := List.mem_of_mem_head? hd
    constructor
    · rintro rfl
      rw [honLine] at hn
      cases hn hmem
    · rintro rfl
      exact absurd (hv _ hmem) (by decide)

/-- **Every text is read back from how it is written**, whatever stands behind it but a quote. -/
theorem anyString_writeString (cs : List Char) (hd : rest.head? ≠ some '"')
    (hs : rest.head? ≠ some '\'') :
    anyString (writeString cs ++ rest) = some (String.ofList cs, rest) := by
  have hlines : '\n' ∈ cs → cs.contains '\n' = true := fun h => by simpa using h
  simp only [writeString]
  split_ifs with h₁ h₂ h₃ h₄ h₅
  · exact anyString_basic cs hd
  · simp only [Bool.and_eq_true, Bool.not_eq_true', List.any_eq_false, beq_iff_eq,
      Bool.not_eq_true] at h₂
    obtain ⟨⟨hcontrol, hsingles⟩, hline⟩ := h₂
    have hvisible : ∀ c ∈ cs, isVisible c = true := by
      intro c hc
      refine isVisible_of_not_isControl (hcontrol c hc) ?_
      rintro rfl
      rw [hlines hc] at hline
      cases hline
    exact anyString_literal (not_mem_of_longestRun hsingles) hvisible hs
  · exact anyString_basicLines hlines hd
  · simp only [Bool.and_eq_true, Bool.not_eq_true', List.any_eq_false, decide_eq_true_eq,
      Bool.not_eq_true] at h₄
    exact anyString_literalLines hlines h₄.2 h₄.1 hs
  · exact anyString_basicLines (fun _ => rfl) hd
  · exact anyString_basic cs hd

end CommandConsole.Toml
