import Mathlib.Data.List.TakeWhile
import CommandConsole.Call
import CommandConsole.Proofs.Call.Grammar

/-!
# How every line is read

The reader of lines against the grammar of argument texts.

* `endsClosed_iff`: what the end of a line has to look like;
* `ofChars_of_split`: how a line with a parenthesis is read, piece by piece;
* `ofString_grammar`: every line but `help` of fewer than 2^31 - 1 opening parentheses is read as the
  grammar says, and each piece is cut out of the line at bytes where a character begins.
-/

namespace CommandConsole.Call

/-! ## 1. The end of the line -/

/-- The line ends in a closing parenthesis, behind which there may be blanks, one semicolon and
    blanks again. -/
def EndsInParen (line : List Char) : Prop :=
  ∃ body w semi w', line = body ++ ')' :: (w ++ semi ++ w') ∧ w.all Text.isBlank = true ∧
    w'.all Text.isBlank = true ∧ (semi = [] ∨ semi = [';'])

theorem EndsInParen.append {line : List Char} (h : EndsInParen line) (front : List Char) :
    EndsInParen (front ++ line) := by
  obtain ⟨body, w, semi, w', rfl, hw, hw', hsemi⟩ := h
  exact ⟨front ++ body, w, semi, w', (List.append_assoc front body _).symm, hw, hw', hsemi⟩

/-- A blank is neither a quote character nor a parenthesis. -/
theorem plain_of_isBlank {c : Char} (h : Text.isBlank c = true) :
    isQuote c = false ∧ c ≠ '(' ∧ c ≠ ')' := by
  have hne {x : Char} (hx : Text.isBlank x = false) : c ≠ x :=
    ne_of_apply_ne Text.isBlank (by simp [h, hx])
  have hdouble : c ≠ '"' := hne (by decide)
  have hsingle : c ≠ '\'' := hne (by decide)
  have hback : c ≠ '\x60' := hne (by decide)
  exact ⟨by simp [isQuote, hdouble, hsingle, hback], hne (by decide), hne (by decide)⟩

/-- Nothing that is counted stands behind the closing parenthesis at the end of a line. -/
theorem EndsInParen.exists_plain {line : List Char} (h : EndsInParen line) :
    ∃ body u, line = body ++ ')' :: u ∧ ∀ c ∈ u, isQuote c = false ∧ c ≠ '(' ∧ c ≠ ')' := by
  obtain ⟨body, w, semi, w', rfl, hw, hw', hsemi⟩ := h
  have hblank : ∀ {v : List Char}, v.all Text.isBlank = true → ∀ c ∈ v,
      isQuote c = false ∧ c ≠ '(' ∧ c ≠ ')' :=
    fun hv c hc => plain_of_isBlank (List.all_eq_true.mp hv c hc)
  have hsemi : ∀ c ∈ semi, isQuote c = false ∧ c ≠ '(' ∧ c ≠ ')' := by
    rcases hsemi with rfl | rfl
    · exact fun c hc => absurd hc List.not_mem_nil
    · exact List.forall_mem_singleton.mpr (by decide)
  refine ⟨body, w ++ semi ++ w', rfl, fun c hc => ?_⟩
  rcases List.mem_append.mp hc with hc | hc
  · rcases List.mem_append.mp hc with hc | hc
    · exact hblank hw c hc
    · exact hsemi c hc
  · exact hblank hw' c hc

theorem isBlank_paren : Text.isBlank ')' = false := by decide

theorem isBlank_semicolon : Text.isBlank ';' = false := by decide

/-- Blanks in front of a text that does not start with one are what is dropped from it. -/
theorem dropWhile_blanks {w : List Char} (hw : w.all Text.isBlank = true) {c : Char}
    (hc : Text.isBlank c = false) (cs : List Char) :
    (w ++ c :: cs).dropWhile Text.isBlank = c :: cs := by
  rw [List.dropWhile_append_of_pos (List.all_eq_true.mp hw), List.dropWhile_cons_of_neg (by simp [hc])]

/-- A text that starts with a closing parenthesis once its blanks are dropped. -/
theorem head_dropWhile_iff (cs : List Char) :
    (cs.dropWhile Text.isBlank).head? = some ')' ↔
      ∃ w rest, cs = w ++ ')' :: rest ∧ w.all Text.isBlank = true := by
  constructor
  · intro h
    obtain ⟨rest, hrest⟩ := List.head?_eq_some_iff.mp h
    refine ⟨cs.takeWhile Text.isBlank, rest, ?_, List.all_takeWhile⟩
    rw [← hrest, List.takeWhile_append_dropWhile]
  · intro hcase
    obtain ⟨w, rest, rfl, hw⟩ := hcase
    rw [dropWhile_blanks hw isBlank_paren]
    rfl

theorem endsClosed_of_endsInParen {line : List Char} (h : EndsInParen line) :
    endsClosed line = true := by
  obtain ⟨body, w, semi, w', rfl, hw, hw', hsemi⟩ := h
  have hr : w.reverse.all Text.isBlank = true := by rw [List.all_reverse]; exact hw
  have hr' : w'.reverse.all Text.isBlank = true := by rw [List.all_reverse]; exact hw'
  rcases hsemi with rfl | rfl
  · have e : (body ++ ')' :: (w ++ [] ++ w')).reverse
        = (w'.reverse ++ w.reverse) ++ ')' :: body.reverse := by simp
    have hall : (w'.reverse ++ w.reverse).all Text.isBlank = true := by
      rw [List.all_append, hr, hr', Bool.and_self]
    rw [endsClosed, e, dropWhile_blanks hall isBlank_paren]
    rfl
  · have e : (body ++ ')' :: (w ++ [';'] ++ w')).reverse
        = w'.reverse ++ ';' :: (w.reverse ++ ')' :: body.reverse) := by simp
    rw [endsClosed, e, dropWhile_blanks hr' isBlank_semicolon]
    simp only
    rw [dropWhile_blanks hr isBlank_paren]
    rfl

theorem endsInParen_of_endsClosed {line : List Char} (h : endsClosed line = true) :
    EndsInParen line := by
  obtain ⟨w', hw', hsplit⟩ : ∃ w' : List Char, w'.all Text.isBlank = true ∧
      line.reverse = w' ++ line.reverse.dropWhile Text.isBlank :=
    ⟨_, List.all_takeWhile, List.takeWhile_append_dropWhile.symm⟩
  rw [endsClosed] at h
  split at h
  · rename_i before hbefore
    obtain ⟨w, rest, rfl, hw⟩ := (head_dropWhile_iff before).mp (by simpa using h)
    rw [hbefore] at hsplit
    refine ⟨rest.reverse, w.reverse, [';'], w'.reverse, ?_, ?_, ?_, Or.inr rfl⟩
    · rw [← List.reverse_reverse line, hsplit]
      simp
    · rw [List.all_reverse]; exact hw
    · rw [List.all_reverse]; exact hw'
  · obtain ⟨w, rest, hline, hw⟩ := (head_dropWhile_iff line.reverse).mp (by simpa using h)
    refine ⟨rest.reverse, w.reverse, [], [], ?_, ?_, rfl, Or.inl rfl⟩
    · rw [← List.reverse_reverse line, hline]
      simp
    · rw [List.all_reverse]; exact hw

/-- **The end of a line that may be a balanced call.** -/
theorem endsClosed_iff (line : List Char) : endsClosed line = true ↔ EndsInParen line :=
  ⟨endsInParen_of_endsClosed, endsClosed_of_endsInParen⟩

/-! ## 2. The pieces of a line -/

theorem ofChars_of_not_mem {line : List Char} (h : '(' ∉ line) :
    ofChars line =
      { name := String.ofList (Text.trim line), args := "", parens := .missing, hasParens := false } := by
  have hd : line.dropWhile (· != '(') = [] :=
    List.dropWhile_eq_nil_iff.mpr fun c hc => by
      simp only [bne_iff_ne, ne_eq]
      intro heq
      subst heq
      exact h hc
  rw [ofChars, hd]

theorem ofChars_of_split {pre : List Char} (h : '(' ∉ pre) (rest : List Char) :
    ofChars (pre ++ '(' :: rest) =
      { name := String.ofList (Text.trim pre)
        args := String.ofList (argumentText rest)
        parens := if balances rest && endsClosed (pre ++ '(' :: rest) then .balanced
          else .unbalanced
        hasParens := true } := by
  have hpre : ∀ c ∈ pre, (c != '(') = true := fun c hc => by
    simp only [bne_iff_ne, ne_eq]
    intro heq
    subst heq
    exact h hc
  have hd : (pre ++ '(' :: rest).dropWhile (· != '(') = '(' :: rest := by
    rw [List.dropWhile_append_of_pos hpre, List.dropWhile_cons_of_neg (by simp)]
  have ht : (pre ++ '(' :: rest).takeWhile (· != '(') = pre := by
    rw [List.takeWhile_append_of_pos hpre, List.takeWhile_cons_of_neg (by simp), List.append_nil]
  rw [ofChars, hd, ht]

theorem argumentText_of_enclosed {a : List Char} (ha : Enclosed a) (tail : List Char) :
    argumentText (a ++ ')' :: tail) = a := by
  rw [argumentText, cut_of_enclosed ha tail]

theorem argumentText_of_none {rest : List Char}
    (h : ∀ a tail, Enclosed a → rest ≠ a ++ ')' :: tail) : argumentText rest = rest := by
  rw [argumentText]
  split
  · rename_i a tail hcut
    obtain ⟨ha, e⟩ := (cut_eq_some_iff rest a tail).mp hcut
    exact absurd e (h a tail ha)
  · rfl

/-- The argument text is the front of what stands behind the first parenthesis. -/
theorem argumentText_append (rest : List Char) : ∃ tail, rest = argumentText rest ++ tail := by
  rw [argumentText]
  split
  · rename_i a tail hcut
    exact ⟨')' :: tail, ((cut_eq_some_iff rest a tail).mp hcut).2⟩
  · exact ⟨[], (List.append_nil rest).symm⟩

/-- A front of a text ends at a byte of the text where a character begins, or at its end. -/
theorem isValid_front (a b : List Char) :
    (String.ofList a).rawEndPos.IsValid (String.ofList (a ++ b)) :=
  String.Pos.Raw.isValid_iff_exists_append.mpr ⟨_, _, String.ofList_append, rfl⟩

theorem endPos_snoc_paren (pre : List Char) :
    (String.ofList (pre ++ ['('])).rawEndPos.byteIdx = (String.ofList pre).rawEndPos.byteIdx + 1 := by
  rw [String.ofList_append, String.byteIdx_rawEndPos, String.utf8ByteSize_append]
  rfl

/-! ## 3. Every line -/

/-- **Every line but `help` is read as the grammar says**, if its opening parentheses are too few for
    the scanner's count to wrap around. Without an opening parenthesis the whole line, trimmed, is the
    name. Else the line is cut at its first one: the text before it, trimmed, is
    the name; the arguments are the items before a closing parenthesis, if there are such items, and
    all that follows otherwise; the call is balanced exactly when items, a closing parenthesis and
    items follow and the line ends in a closing parenthesis. The cuts before and behind the first
    parenthesis, and the one behind the arguments, are at bytes of the line where a character begins
    or the text ends. -/
theorem ofString_grammar {input : String} (h : input ≠ helpKeyword)
    (few : input.toList.count '(' < 2147483647) :
    ∃ c : Call, Line.ofString input = .call c ∧
      ('(' ∉ input.toList → c.hasParens = false ∧ c.parens = .missing ∧
        c.name = Text.trimmed input ∧ c.args = "") ∧
      ∀ pre rest : List Char, input.toList = pre ++ '(' :: rest → '(' ∉ pre →
        c.hasParens = true ∧ c.name = String.ofList (Text.trim pre) ∧
        (c.parens = .balanced ↔
          (∃ a b, rest = a ++ ')' :: b ∧ Items a ∧ Items b) ∧ EndsInParen input.toList) ∧
        (c.parens ≠ .balanced → c.parens = .unbalanced) ∧
        (∀ a tail, Items a → rest = a ++ ')' :: tail → c.args.toList = a) ∧
        ((∀ a tail, Items a → rest ≠ a ++ ')' :: tail) → c.args.toList = rest) ∧
        (String.ofList pre).rawEndPos.IsValid input ∧
        (⟨(String.ofList pre).rawEndPos.byteIdx + 1⟩ : String.Pos.Raw).IsValid input ∧
        c.args.rawEndPos.IsValid (String.ofList rest) := by
  refine ⟨ofChars input.toList, by rw [Line.ofString, if_neg h], fun hno => ?_, ?_⟩
  · rw [ofChars_of_not_mem hno]
    exact ⟨rfl, rfl, rfl, rfl⟩
  · intro pre rest hinput hpre
    have hs : input = String.ofList (pre ++ '(' :: rest) := by rw [← hinput, String.ofList_toList]
    have fewRest : rest.count '(' < 2147483647 := by
      rw [hinput, List.count_append, List.count_cons_self] at few
      omega
    have hnested := readsAsNested fewRest
    rw [hinput, ofChars_of_split hpre rest]
    refine ⟨rfl, rfl, ?_, ?_, ?_, ?_, ?_, ?_, ?_⟩
    · rw [← hnested.balanced, ← balances_iff, ← endsClosed_iff, ← Bool.and_eq_true_iff]
      split <;> simp_all
    · intro hne
      split
      · rename_i hb
        exact absurd (by rw [if_pos hb]) hne
      · rfl
    · intro a tail ha heq
      have ha := (hnested.enclosed heq).mpr ha
      subst heq
      rw [argumentText_of_enclosed ha, String.toList_ofList]
    · intro hnone
      have hnone' : ∀ a tail, Enclosed a → rest ≠ a ++ ')' :: tail := fun a tail ha heq =>
        hnone a tail ((hnested.enclosed heq).mp ha) heq
      rw [argumentText_of_none hnone', String.toList_ofList]
    · rw [hs]
      exact isValid_front pre ('(' :: rest)
    · rw [← endPos_snoc_paren, hs, List.append_cons pre '(' rest]
      exact isValid_front (pre ++ ['(']) rest
    · obtain ⟨tail, htail⟩ := argumentText_append rest
      have := isValid_front (argumentText rest) tail
      rw [← htail] at this
      exact this

/-- A chain of two calls with a parenthesis inside a literal and a semicolon at the end. -/
theorem ofString_chain :
    "cy.get('a)').click() ;" ≠ helpKeyword ∧
      "cy.get('a)').click() ;".toList.count '(' < 2147483647 ∧ ∃ c : Call,
      Line.ofString "cy.get('a)').click() ;" = .call c ∧ c.name = "cy.get" ∧
        c.args.toList = "'a)'".toList ∧ c.parens = .balanced := by
  have hne : "cy.get('a)').click() ;" ≠ helpKeyword := by decide
  have few : "cy.get('a)').click() ;".toList.count '(' < 2147483647 := by decide
  obtain ⟨c, hc, -, hsplit⟩ := ofString_grammar hne few
  obtain ⟨-, hname, hbal, -, hargs, -⟩ :=
    hsplit "cy.get".toList "'a)').click() ;".toList rfl (by decide)
  have hlit : Items "'a)'".toList :=
    Items.nil.cons (.literal (b := "a)".toList) rfl
      (.plain (by decide) (by decide) (.plain (by decide) (by decide) .nil)))
  have hname' : Items ".click".toList := Items.of_plain (by simp [isQuote])
  have hend : Items " ;".toList := Items.of_plain (by simp [isQuote])
  have htail : Items ".click() ;".toList := hname'.append (hend.cons Items.nil.group)
  refine ⟨hne, few, c, hc, hname, hargs _ ").click() ;".toList.tail hlit rfl, hbal.mpr ⟨?_, ?_⟩⟩
  · exact ⟨"'a)'".toList, ".click() ;".toList, rfl, hlit, htail⟩
  · exact ⟨"cy.get('a)').click(".toList, [' '], [';'], [], rfl, rfl, rfl, Or.inr rfl⟩

end CommandConsole.Call
