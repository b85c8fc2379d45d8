import Mathlib.Tactic.Common
import CommandConsole.Proofs.Call.LiteralGrammar
import CommandConsole.Proofs.Text.Digits

/-!
# Counting parentheses

What the scanner of parentheses decides, said without the scanner and for every text. The parentheses
outside of literals are counted in a signed 32-bit word that wraps around: an opening one adds one, a
closing one takes one away and may not take the count below a bound.

* `Counted`: a text leads from one count to another;
* `balances_iff`: a text behind the first parenthesis balances when it leads from one to zero and no
  closing parenthesis takes the count below zero;
* `cut_eq_some_iff`: the arguments end at the first closing parenthesis that takes the count to zero;
* `Counted.exists_enclosed`: a text that balances, and ends in a closing parenthesis, has such a parenthesis.
-/

namespace CommandConsole.Call

variable {low low' d e f : Int32} {cs ds a tail : List Char} {q : Char}

/-! ## 1. Texts that are counted -/

/-- **From the count `d` the text leads to the count `e`**, and no closing parenthesis in it takes the
    count below `low`. Only parentheses outside of literals are counted, and every literal that is opened
    is closed. -/
inductive Counted (low : Int32) : Int32 → List Char → Int32 → Prop where
  | nil (d : Int32) : Counted low d [] d
  | plain {d e : Int32} {c : Char} {cs : List Char} (hq : isQuote c = false) (ho : c ≠ '(')
      (hc : c ≠ ')') (h : Counted low d cs e) : Counted low d (c :: cs) e
  | literal {d e : Int32} {q : Char} {b cs : List Char} (hq : isQuote q = true)
      (hb : LiteralBody q b) (h : Counted low d cs e) : Counted low d (q :: (b ++ q :: cs)) e
  | opening {d e : Int32} {cs : List Char} (h : Counted low (d + 1) cs e) :
      Counted low d ('(' :: cs) e
  | closing {d e : Int32} {cs : List Char} (hlow : low ≤ d - 1) (h : Counted low (d - 1) cs e) :
      Counted low d (')' :: cs) e

/-- The first parenthesis encloses the text: the count is one again at its end, and no closing
    parenthesis in it takes the count to zero. -/
def Enclosed (args : List Char) : Prop := Counted 1 1 args 1

theorem Counted.append (h : Counted low d cs e) (h' : Counted low e ds f) :
    Counted low d (cs ++ ds) f := by
  induction h with
  | nil => exact h'
  | plain hq ho hc _ ih => exact .plain hq ho hc (ih h')
  | @literal _ _ q b cs hq hb _ ih =>
    rw [List.cons_append, List.append_assoc, List.cons_append]
    exact .literal hq hb (ih h')
  | opening _ ih => exact .opening (ih h')
  | closing hlow _ ih => exact .closing hlow (ih h')

theorem Counted.of_opening (h : Counted low d ('(' :: cs) e) : Counted low (d + 1) cs e := by
  cases h with
  | plain _ ho _ _ => exact absurd rfl ho
  | literal hq => exact absurd hq (by decide)
  | opening h => exact h

theorem Counted.of_closing (h : Counted low d (')' :: cs) e) :
    low ≤ d - 1 ∧ Counted low (d - 1) cs e := by
  cases h with
  | plain _ _ hc _ => exact absurd rfl hc
  | literal hq => exact absurd hq (by decide)
  | closing hlow h => exact ⟨hlow, h⟩

/-- A lower bound lets through at least as much. -/
theorem Counted.mono (h : Counted low d cs e) (hle : low' ≤ low) : Counted low' d cs e := by
  induction h with
  | nil d => exact .nil d
  | plain hq ho hc _ ih => exact .plain hq ho hc ih
  | literal hq hb _ ih => exact .literal hq hb ih
  | opening _ ih => exact .opening ih
  | closing hlow _ ih => exact .closing (Int32.le_trans hle hlow) ih

/-- Characters that are neither quotes nor parentheses are not counted. -/
theorem Counted.of_plain (h : ∀ c ∈ cs, isQuote c = false ∧ c ≠ '(' ∧ c ≠ ')') (d : Int32) :
    Counted low d cs d := by
  induction cs with
  | nil => exact .nil d
  | cons c cs ih =>
    obtain ⟨hq, ho, hc⟩ := h c List.mem_cons_self
    exact .plain hq ho hc (ih fun c' hc' => h c' (List.mem_cons_of_mem _ hc'))

/-- A word that is not below zero and not zero is at least one. -/
theorem one_le_of_ne_zero (hlow : 0 ≤ d) (hne : d ≠ 0) : 1 ≤ d := by
  have hint : d.toInt ≠ 0 := fun h => hne (Int32.toInt_inj.mp h)
  rw [Int32.le_iff_toInt_le, Int32.toInt_zero] at hlow
  rw [Int32.le_iff_toInt_le, Int32.toInt_one]
  omega

/-- **No closing parenthesis takes the count to zero, or there is a first one that does.** -/
theorem Counted.first (h : Counted 0 d cs e) :
    Counted 1 d cs e ∨ ∃ x y, cs = x ++ ')' :: y ∧ Counted 1 d x 1 := by
  induction h with
  | nil d => exact .inl (.nil d)
  | @plain _ _ c _ hq ho hc _ ih =>
    rcases ih with ih | ⟨x, y, rfl, hx⟩
    · exact .inl (.plain hq ho hc ih)
    · exact .inr ⟨c :: x, y, rfl, .plain hq ho hc hx⟩
  | @literal _ _ q b _ hq hb _ ih =>
    rcases ih with ih | ⟨x, y, rfl, hx⟩
    · exact .inl (.literal hq hb ih)
    · exact .inr ⟨q :: (b ++ q :: x), y, by simp, .literal hq hb hx⟩
  | opening _ ih =>
    rcases ih with ih | ⟨x, y, rfl, hx⟩
    · exact .inl (.opening ih)
    · exact .inr ⟨'(' :: x, y, rfl, .opening hx⟩
  | @closing d _ cs hlow _ ih =>
    by_cases hzero : d - 1 = 0
    · have hone : d = 1 := by simpa using Int32.sub_eq_iff_eq_add.mp hzero
      exact .inr ⟨[], cs, rfl, hone ▸ .nil d⟩
    · have hlow' := one_le_of_ne_zero hlow hzero
      rcases ih with ih | ⟨x, y, rfl, hx⟩
      · exact .inl (.closing hlow' ih)
      · exact .inr ⟨')' :: x, y, rfl, .closing hlow' hx⟩

/-- **A text can be cut in front of an end without quote characters**: no literal goes on into it. -/
theorem Counted.exists_split {x y : List Char} (h : Counted low d (x ++ y) e)
    (hy : ∀ c ∈ y, isQuote c = false) : ∃ f, Counted low d x f ∧ Counted low f y e := by
  generalize hcs : x ++ y = cs at h
  induction h generalizing x with
  | nil d =>
    obtain ⟨rfl, rfl⟩ := List.append_eq_nil_iff.mp hcs
    exact ⟨d, .nil d, .nil d⟩
  | plain hq ho hc h ih =>
    rcases List.append_eq_cons_iff.mp hcs with ⟨rfl, rfl⟩ | ⟨x, rfl, rfl⟩
    · exact ⟨_, .nil _, .plain hq ho hc h⟩
    · obtain ⟨f, hx, hend⟩ := ih rfl
      exact ⟨f, .plain hq ho hc hx, hend⟩
  | @literal _ _ q b _ hq hb h ih =>
    rcases List.append_eq_cons_iff.mp hcs with ⟨rfl, rfl⟩ | ⟨x, rfl, hbody⟩
    · exact ⟨_, .nil _, .literal hq hb h⟩
    · have hno : q ∉ y := fun hmem => by
        rw [hy q hmem] at hq
        cases hq
      obtain ⟨m, rfl, rfl⟩ := Text.exists_of_eq_append hno hbody
      obtain ⟨f, hx, hend⟩ := ih rfl
      exact ⟨f, .literal hq hb hx, hend⟩
  | opening h ih =>
    rcases List.append_eq_cons_iff.mp hcs with ⟨rfl, rfl⟩ | ⟨x, rfl, rfl⟩
    · exact ⟨_, .nil _, .opening h⟩
    · obtain ⟨f, hx, hend⟩ := ih rfl
      exact ⟨f, .opening hx, hend⟩
  | closing hlow h ih =>
    rcases List.append_eq_cons_iff.mp hcs with ⟨rfl, rfl⟩ | ⟨x, rfl, rfl⟩
    · exact ⟨_, .nil _, .closing hlow h⟩
    · obtain ⟨f, hx, hend⟩ := ih rfl
      exact ⟨f, .closing hlow hx, hend⟩

/-- Characters that are neither quotes nor parentheses leave the count as it is. -/
theorem Counted.eq_of_plain (h : Counted low d cs e)
    (hplain : ∀ c ∈ cs, isQuote c = false ∧ c ≠ '(' ∧ c ≠ ')') : d = e := by
  induction h with
  | nil => rfl
  | plain _ _ _ _ ih => exact ih fun c hc => hplain c (List.mem_cons_of_mem _ hc)
  | literal hq =>
    rw [(hplain _ List.mem_cons_self).1] at hq
    cases hq
  | opening => exact absurd rfl (hplain _ List.mem_cons_self).2.1
  | closing => exact absurd rfl (hplain _ List.mem_cons_self).2.2

/-- **A text that balances and ends in a closing parenthesis** has one that closes the first. In a text
    without one the count gets to zero only by wrapping around, and not at its end. -/
theorem Counted.exists_enclosed {body u : List Char} (h : Counted 0 1 (body ++ ')' :: u) 0)
    (hu : ∀ c ∈ u, isQuote c = false ∧ c ≠ '(' ∧ c ≠ ')') :
    ∃ args tail, body ++ ')' :: u = args ++ ')' :: tail ∧ Enclosed args := by
  rcases h.first with hnone | hfirst
  · have hquote : ∀ c ∈ ')' :: u, isQuote c = false :=
      List.forall_mem_cons.mpr ⟨by decide, fun c hc => (hu c hc).1⟩
    obtain ⟨f, -, hend⟩ := hnone.exists_split hquote
    obtain ⟨hlow, hrest⟩ := hend.of_closing
    rw [hrest.eq_of_plain hu] at hlow
    exact absurd hlow (by decide)
  · exact hfirst

/-! ## 2. The scanner counts -/

theorem step_plain {c : Char} (hq : isQuote c = false) (ho : c ≠ '(') (hc : c ≠ ')') (d : Int32) :
    (Scan.reading d .code).step c = .reading d .code := by
  simp [Scan.step, hq, ho, hc]

theorem step_quote (hq : isQuote q = true) (d : Int32) :
    (Scan.reading d .code).step q = .reading d (.quoted q) := by
  simp [Scan.step, hq]

theorem step_open (d : Int32) : (Scan.reading d .code).step '(' = .reading (d + 1) .code := rfl

theorem step_close (h : 0 ≤ d - 1) : (Scan.reading d .code).step ')' = .reading (d - 1) .code := by
  have hnot : ¬ d - 1 < 0 := Int32.not_lt.mpr h
  simp [Scan.step, isQuote, hnot]

theorem step_overrun (h : d - 1 < 0) : (Scan.reading d .code).step ')' = .overrun := by
  simp [Scan.step, isQuote, h]

theorem run_of_counted (h : Counted 0 d cs e) :
    (Scan.reading d .code).run cs = .reading e .code := by
  induction h with
  | nil => rfl
  | plain hq ho hc _ ih => rw [Scan.run_cons, step_plain hq ho hc, ih]
  | literal hq hb _ ih =>
    rw [Scan.run_cons, step_quote hq, run_quoted_body (ne_backslash_of_isQuote hq) hb, ih]
  | opening _ ih => rw [Scan.run_cons, step_open, ih]
  | closing hlow _ ih => rw [Scan.run_cons, step_close hlow, ih]

/-- **A scan that ends outside of literals has counted.** The recursion is on the length of the text:
    behind a literal the scan goes on with what is left. -/
theorem counted_of_run {d e : Int32} {cs : List Char}
    (h : (Scan.reading d .code).run cs = .reading e .code) : Counted 0 d cs e := by
  match cs with
  | [] =>
    rw [Scan.run_nil] at h
    cases h
    exact .nil d
  | c :: cs =>
    rw [Scan.run_cons] at h
    by_cases hq : isQuote c = true
    · rw [step_quote hq] at h
      obtain ⟨b, rest, rfl, hb⟩ := (body_of_run_quoted c d e cs).1 h
      rw [run_quoted_body (ne_backslash_of_isQuote hq) hb] at h
      exact .literal hq hb (counted_of_run h)
    · have hq : isQuote c = false := by simpa using hq
      by_cases ho : c = '('
      · subst ho
        exact .opening (counted_of_run h)
      · by_cases hc : c = ')'
        · subst hc
          by_cases hlow : d - 1 < 0
          · rw [step_overrun hlow, Scan.run_overrun] at h
            cases h
          · have hlow := Int32.not_lt.mp hlow
            rw [step_close hlow] at h
            exact .closing hlow (counted_of_run h)
        · rw [step_plain hq ho hc] at h
          exact .plain hq ho hc (counted_of_run h)
termination_by cs.length

theorem isClosed_iff (s : Scan) : s.isClosed = true ↔ s = .reading 0 .code := by
  simp [Scan.isClosed]

/-- **The text behind the first parenthesis balances** when it leads the count from one to zero, never
    below zero. -/
theorem balances_iff (cs : List Char) : balances cs = true ↔ Counted 0 1 cs 0 := by
  rw [balances, isClosed_iff]
  exact ⟨counted_of_run, run_of_counted⟩

/-! ## 3. The argument text -/

theorem closes_iff (s : Scan) (c : Char) :
    s.closes c = true ↔ s = .reading 1 .code ∧ c = ')' := by
  have hone : ∀ d : Int32, d - 1 = 0 ↔ d = 1 := fun d => by
    rw [Int32.sub_eq_iff_eq_add]
    simp
  rcases s with ⟨d, _ | _ | _⟩ | _
  · simp [Scan.closes, hone, and_comm]
  all_goals simp [Scan.closes]

theorem cutFrom_cons_of_open {s : Scan} {c : Char} (h : s.closes c = false) (seen cs : List Char) :
    cutFrom s seen (c :: cs) = cutFrom (s.step c) (c :: seen) cs := by
  rw [cutFrom, h]
  rfl

/-- Inside a literal nothing is cut. -/
theorem cutFrom_body (hq : q ≠ '\\') {b : List Char} (hb : LiteralBody q b) (d : Int32)
    (seen rest : List Char) :
    cutFrom (.reading d (.quoted q)) seen (b ++ q :: rest)
      = cutFrom (.reading d .code) (q :: (b.reverse ++ seen)) rest := by
  induction hb generalizing seen with
  | nil =>
    rw [List.nil_append, cutFrom_cons_of_open rfl]
    simp [Scan.step, hq]
  | plain hcq hcb _ ih =>
    rw [List.cons_append, cutFrom_cons_of_open rfl]
    simp only [Scan.step, if_neg hcb, if_neg hcq]
    rw [ih, List.reverse_cons, List.append_assoc]
    rfl
  | escaped c _ ih =>
    rw [List.cons_append, List.cons_append, cutFrom_cons_of_open rfl, cutFrom_cons_of_open rfl]
    simp only [Scan.step, if_true]
    rw [ih]
    simp

/-- Where no closing parenthesis takes the count to zero, nothing is cut. -/
theorem cutFrom_counted (h : Counted 1 d a e) (seen rest : List Char) :
    cutFrom (.reading d .code) seen (a ++ rest)
      = cutFrom (.reading e .code) (a.reverse ++ seen) rest := by
  induction h generalizing seen with
  | nil => rfl
  | @plain d e c cs hq ho hc _ ih =>
    have hopen : (Scan.reading d .code).closes c = false := by simp [Scan.closes, hc]
    rw [List.cons_append, cutFrom_cons_of_open hopen, step_plain hq ho hc, ih]
    simp
  | @literal d e q b cs hq hb _ ih =>
    have hopen : (Scan.reading d .code).closes q = false := by
      have hc : q ≠ ')' := by
        rintro rfl
        exact absurd hq (by decide)
      simp [Scan.closes, hc]
    rw [List.cons_append, cutFrom_cons_of_open hopen, step_quote hq, List.append_assoc,
      List.cons_append, cutFrom_body (ne_backslash_of_isQuote hq) hb, ih]
    simp
  | @opening d e cs _ ih =>
    have hopen : (Scan.reading d .code).closes '(' = false := rfl
    rw [List.cons_append, cutFrom_cons_of_open hopen, step_open, ih]
    simp
  | @closing d e cs hlow _ ih =>
    have hnonzero : d - 1 ≠ 0 := fun hzero => absurd (hzero ▸ hlow) (by decide)
    have hopen : (Scan.reading d .code).closes ')' = false := by simp [Scan.closes, hnonzero]
    have hnonneg : 0 ≤ d - 1 := Int32.le_trans (by decide) hlow
    rw [List.cons_append, cutFrom_cons_of_open hopen, step_close hnonneg, ih]
    simp

theorem cut_of_enclosed (ha : Enclosed a) (tail : List Char) :
    cut (a ++ ')' :: tail) = some (a, tail) := by
  rw [cut, Scan.start, cutFrom_counted ha, cutFrom, if_pos (by rfl)]
  simp

/-- Where the text is cut, the count of the text in front is one. -/
theorem run_of_cutFrom {s : Scan} {seen : List Char} (h : cutFrom s seen cs = some (a, tail)) :
    ∃ b, a = seen.reverse ++ b ∧ cs = b ++ ')' :: tail ∧ s.run b = .reading 1 .code := by
  induction cs generalizing s seen with
  | nil => simp [cutFrom] at h
  | cons c cs ih =>
    rw [cutFrom] at h
    split at h
    · rename_i hcloses
      obtain ⟨rfl, rfl⟩ := (closes_iff s c).mp hcloses
      simp only [Option.some.injEq, Prod.mk.injEq] at h
      obtain ⟨rfl, rfl⟩ := h
      exact ⟨[], by simp, rfl, rfl⟩
    · obtain ⟨b, rfl, rfl, hb⟩ := ih h
      exact ⟨c :: b, by simp, rfl, hb⟩

/-- **The argument text is what the first parenthesis encloses**, whenever it encloses anything. -/
theorem cut_eq_some_iff (cs a tail : List Char) :
    cut cs = some (a, tail) ↔ Enclosed a ∧ cs = a ++ ')' :: tail := by
  constructor
  · intro h
    obtain ⟨b, hb, rfl, hrun⟩ := run_of_cutFrom h
    obtain rfl : a = b := hb
    rcases (counted_of_run hrun).first with ha | ⟨x, y, rfl, hx⟩
    · exact ⟨ha, rfl⟩
    · -- a closing parenthesis in front would have been where the cut is
      rw [List.append_assoc, List.cons_append, cut_of_enclosed hx] at h
      have hlength := congrArg List.length (Prod.mk.inj (Option.some.inj h)).1
      simp at hlength
  · rintro ⟨ha, rfl⟩
    exact cut_of_enclosed ha tail

end CommandConsole.Call
