import CommandConsole.Proofs.Call.FirstLiteral

/-!
# What the extractor takes out of a text

The extractor of the first literal, on every text and in the words of the grammar of literals. It goes
through a body with one flag, that the character before was a backslash that counts; the grammar has
units of one or two characters instead.

* `body_of_closeLiteralFrom`: the flag read as units;
* `LiteralAt.unique`: a text has its first literal in one place only;
* `firstLiteral_eq_some_iff`, `firstLiteral_eq_none_iff`: when the extractor finds a body and when not;
* `firstLiteral_exact`: all of it on strings, with the positions between which the body is taken out.
-/

namespace CommandConsole.Call

variable {q : Char} {b p s rest cs : List Char}

/-! ## 1. Bodies -/

/-- A character that was read before the rest is the first one of the body. -/
theorem exists_of_closeLiteralFrom_seen {escaped : Bool} {c : Char}
    (h : closeLiteralFrom q escaped [c] cs = some (b, s)) :
    ∃ b', b = c :: b' ∧ closeLiteralFrom q escaped [] cs = some (b', s) := by
  rw [closeLiteralFrom_eq, Option.map_eq_some_iff] at h
  obtain ⟨⟨b', s'⟩, hrest, heq⟩ := h
  simp only [List.reverse_singleton, List.singleton_append, Prod.mk.injEq] at heq
  exact ⟨b', heq.1.symm, heq.2 ▸ hrest⟩

/-- **A literal that is closed has a body in front of its closing quote.** The second half is the same
    from behind a backslash that counts: there one more character goes first, whatever it is. -/
theorem body_of_closeLiteralFrom (q : Char) (cs b s : List Char) :
    (closeLiteralFrom q false [] cs = some (b, s) → cs = b ++ q :: s ∧ LiteralBody q b) ∧
      (closeLiteralFrom q true [] cs = some (b, s) →
        ∃ c b', b = c :: b' ∧ cs = c :: (b' ++ q :: s) ∧ LiteralBody q b') := by
  induction cs generalizing b with
  | nil => exact ⟨fun h => by simp [closeLiteralFrom] at h, fun h => by simp [closeLiteralFrom] at h⟩
  | cons c cs ih =>
    constructor
    · intro h
      rw [closeLiteralFrom, if_neg Bool.false_ne_true] at h
      by_cases hb : c = '\\'
      · rw [if_pos hb] at h
        obtain ⟨b₁, hb₁, hrest⟩ := exists_of_closeLiteralFrom_seen h
        obtain ⟨c', b', hunit, hcs, hbody⟩ := (ih b₁).2 hrest
        rw [hb₁, hunit, hcs, hb]
        exact ⟨rfl, .escaped c' hbody⟩
      · rw [if_neg hb] at h
        by_cases hq : c = q
        · rw [if_pos hq] at h
          obtain ⟨rfl, rfl⟩ := Prod.mk.inj (Option.some.inj h)
          exact ⟨by rw [hq]; rfl, .nil⟩
        · rw [if_neg hq] at h
          obtain ⟨b', hb', hrest⟩ := exists_of_closeLiteralFrom_seen h
          obtain ⟨hcs, hbody⟩ := (ih b').1 hrest
          rw [hb', hcs]
          exact ⟨rfl, .plain hq hb hbody⟩
    · intro h
      rw [closeLiteralFrom, if_pos rfl] at h
      obtain ⟨b', hb', hrest⟩ := exists_of_closeLiteralFrom_seen h
      obtain ⟨hcs, hbody⟩ := (ih b').1 hrest
      exact ⟨c, b', hb', by rw [hcs], hbody⟩

/-- **What is read behind an opening quote**: a body, up to the quote that closes it. -/
theorem closeLiteral_eq_some_iff (hq : q ≠ '\\') :
    closeLiteral q cs = some (b, s) ↔ cs = b ++ q :: s ∧ LiteralBody q b := by
  constructor
  · exact (body_of_closeLiteralFrom q cs b s).1
  · intro ⟨hcs, hbody⟩
    rw [hcs]
    exact closeLiteral_body hq hbody s

/-! ## 2. The first literal -/

/-- The first literal of a text: in front of it no quote character, then the one that opens it, its body,
    the same quote character again, and what follows. -/
structure LiteralAt (cs p : List Char) (q : Char) (b s : List Char) : Prop where
  split : cs = p ++ q :: (b ++ q :: s)
  before : ∀ c ∈ p, isQuote c = false
  quote : isQuote q = true
  body : LiteralBody q b

/-- The first quote character of a text opens a literal that is never closed. -/
def IsUnclosed (cs : List Char) : Prop :=
  ∃ p q rest, cs = p ++ q :: rest ∧ (∀ c ∈ p, isQuote c = false) ∧ isQuote q = true ∧
    ∀ b s, LiteralBody q b → rest ≠ b ++ q :: s

/-- A text is cut at its first quote character in one way only. -/
theorem eq_of_first_quote {p' rest' : List Char} {q' : Char} (hp : ∀ c ∈ p, isQuote c = false)
    (hq : isQuote q = true) (hp' : ∀ c ∈ p', isQuote c = false) (hq' : isQuote q' = true)
    (h : p ++ q :: rest = p' ++ q' :: rest') : p = p' ∧ q = q' ∧ rest = rest' := by
  have front (p rest : List Char) (q : Char) (hp : ∀ c ∈ p, isQuote c = false)
      (hq : isQuote q = true) : (p ++ q :: rest).takeWhile (fun c => !isQuote c) = p :=
    Text.takeWhile_word (fun c hc => by rw [hp c hc, Bool.not_false]) (by simp [hq])
  have hfront : p = p' := by
    rw [← front p rest q hp hq, h, front p' rest' q' hp' hq']
  subst hfront
  exact ⟨rfl, List.cons.inj (List.append_cancel_left h)⟩

/-- **A text has its first literal in one place only.** -/
theorem LiteralAt.unique {p' b' s' : List Char} {q' : Char} (h : LiteralAt cs p q b s)
    (h' : LiteralAt cs p' q' b' s') : p = p' ∧ q = q' ∧ b = b' ∧ s = s' := by
  obtain ⟨rfl, rfl, hrest⟩ := eq_of_first_quote h.before h.quote h'.before h'.quote
    (h.split.symm.trans h'.split)
  have hread := closeLiteral_body (ne_backslash_of_isQuote h.quote) h.body s
  rw [hrest, closeLiteral_body (ne_backslash_of_isQuote h.quote) h'.body] at hread
  obtain ⟨hb, hs⟩ := Prod.mk.inj (Option.some.inj hread)
  exact ⟨rfl, rfl, hb.symm, hs.symm⟩

/-- **The extractor finds the body of the first literal.** -/
theorem firstLiteral_eq_some_iff (cs b : List Char) :
    firstLiteral cs = some b ↔ ∃ p q s, LiteralAt cs p q b s := by
  constructor
  · intro h
    have hquote : ∃ c ∈ cs, isQuote c = true := by
      by_contra hnone
      rw [firstLiteral_of_no_quote (by simpa using hnone)] at h
      cases h
    obtain ⟨p, q, rest, rfl, hp, hq⟩ := exists_first_quote hquote
    rw [firstLiteral_of_first_quote hp hq, Option.map_eq_some_iff] at h
    obtain ⟨⟨b', s⟩, hclose, rfl⟩ := h
    obtain ⟨rfl, hbody⟩ := (closeLiteral_eq_some_iff (ne_backslash_of_isQuote hq)).mp hclose
    exact ⟨p, q, s, rfl, hp, hq, hbody⟩
  · intro ⟨p, q, s, h⟩
    rw [h.split]
    exact firstLiteral_of_split h.before h.quote h.body s

/-- **The extractor finds nothing** in a text without a quote character, and in one whose first literal
    is never closed. -/
theorem firstLiteral_eq_none_iff (cs : List Char) :
    firstLiteral cs = none ↔ (∀ c ∈ cs, isQuote c = false) ∨ IsUnclosed cs := by
  constructor
  · intro h
    by_cases hquote : ∃ c ∈ cs, isQuote c = true
    · obtain ⟨p, q, rest, rfl, hp, hq⟩ := exists_first_quote hquote
      refine .inr ⟨p, q, rest, rfl, hp, hq, fun b s hb hrest => ?_⟩
      rw [hrest, firstLiteral_of_split hp hq hb] at h
      cases h
    · exact .inl (by simpa using hquote)
  · intro h
    rcases h with hnone | ⟨p, q, rest, rfl, hp, hq, hopen⟩
    · exact firstLiteral_of_no_quote hnone
    · rw [firstLiteral_of_first_quote hp hq, Option.map_eq_none_iff, Option.eq_none_iff_forall_ne_some]
      intro ⟨b, s⟩ hclose
      obtain ⟨hrest, hb⟩ := (closeLiteral_eq_some_iff (ne_backslash_of_isQuote hq)).mp hclose
      exact hopen b s hb hrest

/-! ## 3. Positions in the text -/

/-- There is a position between two parts of a text. -/
theorem exists_splits {text t₁ t₂ : String} (h : text = t₁ ++ t₂) :
    ∃ pos : text.Pos, pos.Splits t₁ t₂ :=
  ⟨text.pos t₁.rawEndPos (String.Pos.Raw.isValid_iff_exists_append.mpr ⟨t₁, t₂, h, rfl⟩), h, rfl⟩

/-- **What stands between two positions is taken out there**, and the first is not behind the second. -/
theorem extract_of_splits {text t₁ t₂ t₃ : String} {start stop : text.Pos}
    (hstart : start.Splits t₁ (t₂ ++ t₃)) (hstop : stop.Splits (t₁ ++ t₂) t₃) :
    start ≤ stop ∧ text.extract start stop = t₂ := by
  have hbegin : start.offset.byteIdx = t₁.toByteArray.size := by
    rw [hstart.offset_eq_rawEndPos]
    rfl
  have hend : stop.offset.byteIdx = t₁.toByteArray.size + t₂.toByteArray.size := by
    rw [hstop.offset_eq_rawEndPos, String.byteIdx_rawEndPos, String.utf8ByteSize_append]
    rfl
  have htext : text.toByteArray = t₁.toByteArray ++ (t₂.toByteArray ++ t₃.toByteArray) := by
    rw [hstart.eq_append, String.toByteArray_append, String.toByteArray_append]
  refine ⟨?_, String.toByteArray_inj.mp ?_⟩
  · rw [String.Pos.le_iff, String.Pos.Raw.le_iff, hbegin, hend]
    exact Nat.le_add_right _ _
  · calc text.toByteArray.extract start.offset.byteIdx stop.offset.byteIdx
      _ = (t₁.toByteArray ++ (t₂.toByteArray ++ t₃.toByteArray)).extract
            (t₁.toByteArray.size + 0) (t₁.toByteArray.size + t₂.toByteArray.size) := by
          rw [htext, hbegin, hend, Nat.add_zero]
      _ = (t₂.toByteArray ++ t₃.toByteArray).extract 0 t₂.toByteArray.size :=
          ByteArray.extract_append_size_add
      _ = t₂.toByteArray := ByteArray.extract_append_eq_left rfl

/-- **The body of the first literal is a part of the text**: it stands between two positions, and at
    either of them a character begins, the body's first one or the quote that closes it. -/
theorem LiteralAt.exists_positions {text : String} (h : LiteralAt text.toList p q b s) :
    ∃ start stop : text.Pos, start ≤ stop ∧ text.extract start stop = String.ofList b ∧
      start.Splits (String.ofList (p ++ [q])) (String.ofList (b ++ q :: s)) ∧
      stop.Splits (String.ofList (p ++ q :: b)) (String.ofList (q :: s)) := by
  have htext : text = String.ofList (p ++ q :: (b ++ q :: s)) := by
    rw [← h.split, String.ofList_toList]
  have hfront : String.ofList (p ++ q :: b) = String.ofList (p ++ [q]) ++ String.ofList b := by
    rw [← String.ofList_append, List.append_assoc, List.singleton_append]
  have hback : String.ofList (b ++ q :: s) = String.ofList b ++ String.ofList (q :: s) :=
    String.ofList_append
  obtain ⟨start, hstart⟩ : ∃ pos : text.Pos,
      pos.Splits (String.ofList (p ++ [q])) (String.ofList (b ++ q :: s)) :=
    exists_splits (by rw [htext, ← String.ofList_append, List.append_assoc, List.singleton_append])
  obtain ⟨stop, hstop⟩ : ∃ pos : text.Pos,
      pos.Splits (String.ofList (p ++ q :: b)) (String.ofList (q :: s)) :=
    exists_splits (by rw [htext, ← String.ofList_append, List.append_assoc, List.cons_append])
  obtain ⟨hle, hextract⟩ := extract_of_splits (hback ▸ hstart) (hfront ▸ hstop)
  exact ⟨start, stop, hle, hextract, hstart, hstop⟩

/-! ## 4. Every text -/

/-- **The extractor is exact.** It answers a body if and only if the text has a first literal with that
    body: no quote character in front of it, one of the three that opens it, units that are a character
    other than that quote and the backslash or a backslash with any character behind it, and the quote
    again. No text has its first literal in two ways. It answers nothing if and only if the text has no
    quote character or its first one opens a literal that is never closed. The body is the part of the
    text, escapes and all, between two positions at which a character begins. -/
theorem firstLiteral_exact (text : String) :
    (∀ b, firstLiteralText text = some b ↔ ∃ p q s, LiteralAt text.toList p q b.toList s) ∧
    (∀ p q b s p' q' b' s', LiteralAt text.toList p q b s → LiteralAt text.toList p' q' b' s' →
      p = p' ∧ q = q' ∧ b = b' ∧ s = s') ∧
    (firstLiteralText text = none ↔
      (∀ c ∈ text.toList, isQuote c = false) ∨ IsUnclosed text.toList) ∧
    ∀ p q b s, LiteralAt text.toList p q b s → ∃ start stop : text.Pos,
      start ≤ stop ∧ text.extract start stop = String.ofList b ∧
      start.Splits (String.ofList (p ++ [q])) (String.ofList (b ++ q :: s)) ∧
      stop.Splits (String.ofList (p ++ q :: b)) (String.ofList (q :: s)) := by
  refine ⟨fun b => ?_, fun p q b s p' q' b' s' h h' => h.unique h', ?_,
    fun p q b s h => h.exists_positions⟩
  · rw [← firstLiteral_eq_some_iff, firstLiteralText, Option.map_eq_some_iff]
    constructor
    · intro ⟨body, hbody, heq⟩
      rw [hbody, ← heq, String.toList_ofList]
    · intro h
      exact ⟨b.toList, h, String.ofList_toList⟩
  · rw [firstLiteralText, Option.map_eq_none_iff, firstLiteral_eq_none_iff]

/-- An escaped quote and a quote of another kind do not close a literal, and the backslash in front of the
    last quote is escaped itself. -/
theorem firstLiteral_exact_escaped :
    LiteralAt "é(\"ü\\\"'\\\\\", 'x')".toList "é(".toList '"' "ü\\\"'\\\\".toList ", 'x')".toList ∧
      firstLiteralText "é(\"ü\\\"'\\\\\", 'x')" = some "ü\\\"'\\\\" := by
  have hbody : LiteralBody '"' "ü\\\"'\\\\".toList :=
    .plain (by decide) (by decide) (.escaped '"' (.plain (by decide) (by decide) (.escaped '\\' .nil)))
  have hat : LiteralAt "é(\"ü\\\"'\\\\\", 'x')".toList "é(".toList '"' "ü\\\"'\\\\".toList
      ", 'x')".toList := ⟨rfl, by simp [isQuote], rfl, hbody⟩
  exact ⟨hat, ((firstLiteral_exact _).1 _).mpr ⟨_, _, _, hat⟩⟩

end CommandConsole.Call
