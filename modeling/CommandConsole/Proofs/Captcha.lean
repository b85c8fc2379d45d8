import CommandConsole.Captcha
import CommandConsole.Proofs.Text.Decimal
import CommandConsole.Proofs.Text.Trim

/-!
# Answers are judged by value

An answer to a challenge is a text, and the sum that is asked for a number. However the answer is
written, it is right if the number that it denotes is the sum.

* `sum_within`: the sum of two operands of 32 bits is far from the ends of the 64-bit range;
* `accepts_iff_padded`: an answer is right when it is a number between blanks and this is the sum;
* `accepts_by_value`: all spellings of a number are judged alike, and only the right number is accepted.
-/

namespace CommandConsole

open Text

/-! ## 1. Texts that denote a number -/

theorem Text.isBlank_of_isDigit {c : Char} (h : c.isDigit = true) : isBlank c = false := by
  have hrange : 48 ≤ c.toNat ∧ c.toNat ≤ 57 := by
    simpa [Char.isDigit, UInt32.le_iff_toNat_le] using h
  simp only [isBlank, Bool.or_eq_false_iff, Bool.and_eq_false_iff, decide_eq_false_iff_not,
    beq_eq_false_iff_ne]
  omega

theorem Text.DenotesNatural.no_blank {cs : List Char} {n : Nat} (h : DenotesNatural cs n) :
    ∀ c ∈ cs, isBlank c = false :=
  fun c hc => isBlank_of_isDigit (h.2.1 c hc)

/-- There is no blank inside a number. -/
theorem Text.DenotesInteger.no_blank {cs : List Char} {z : Int} (h : DenotesInteger cs z) :
    ∀ c ∈ cs, isBlank c = false := by
  cases h with
  | bare h => exact h.no_blank
  | plus h => exact List.forall_mem_cons.mpr ⟨by decide, h.no_blank⟩
  | minus h => exact List.forall_mem_cons.mpr ⟨by decide, h.no_blank⟩

theorem Text.DenotesInteger.ne_nil {cs : List Char} {z : Int} (h : DenotesInteger cs z) : cs ≠ [] := by
  cases h with
  | bare h => exact h.1
  | plus h => exact List.cons_ne_nil _ _
  | minus h => exact List.cons_ne_nil _ _

namespace Challenge

variable (c : Challenge)

/-! ## 2. The sum -/

/-- The sum of two operands of 32 bits is within the range of 64 bits. -/
theorem sum_within : minInt64 ≤ (c.sum : Int) ∧ (c.sum : Int) ≤ maxInt64 := by
  have hleft := c.left.toNat_lt
  have hright := c.right.toNat_lt
  unfold sum minInt64 maxInt64
  omega

/-- **Added in 64 bits, the operands do not overflow.** -/
theorem toInt_add_operands :
    (Int64.ofNat c.left.toNat + Int64.ofNat c.right.toNat).toInt = c.sum := by
  have hleft := c.left.toNat_lt
  have hright := c.right.toNat_lt
  rw [← Int64.ofNat_add, Int64.toInt_ofNat_of_lt (by omega)]
  rfl

/-! ## 3. The answer -/

/-- **An answer is right when it denotes the sum**, once it is trimmed. -/
theorem accepts_iff (answer : String) :
    c.accepts answer = true ↔ DenotesInteger (trim answer.toList) c.sum := by
  rw [accepts, beq_iff_eq, int64?_eq_some_iff, and_iff_right c.sum_within]

/-- **A right answer is a number between blanks**, and the number is the sum. -/
theorem accepts_iff_padded (answer : String) :
    c.accepts answer = true ↔ ∃ w numeral w', w.all isBlank = true ∧ w'.all isBlank = true ∧
      answer.toList = w ++ numeral ++ w' ∧ DenotesInteger numeral c.sum := by
  rw [accepts_iff]
  constructor
  · intro h
    obtain ⟨w, w', hw, hw', hanswer⟩ := (trim_eq_iff_padded h.no_blank answer.toList).mp rfl
    exact ⟨w, _, w', hw, hw', hanswer, h⟩
  · intro ⟨w, numeral, w', hw, hw', hanswer, h⟩
    rwa [(trim_eq_iff_padded h.no_blank answer.toList).mpr ⟨w, w', hw, hw', hanswer⟩]

/-- A number between blanks is right when it is the sum. -/
theorem accepts_padded_iff {answer : String} {w numeral w' : List Char} {z : Int}
    (hw : w.all isBlank = true) (hw' : w'.all isBlank = true)
    (hanswer : answer.toList = w ++ numeral ++ w') (hz : DenotesInteger numeral z) :
    c.accepts answer = true ↔ z = c.sum := by
  rw [accepts_iff, (trim_eq_iff_padded hz.no_blank answer.toList).mpr ⟨w, w', hw, hw', hanswer⟩]
  exact ⟨hz.unique, fun heq => heq ▸ hz⟩

theorem canSubmit_of_accepts {answer : String} (h : c.accepts answer = true) :
    canSubmit answer = true := by
  have hne := ((c.accepts_iff answer).mp h).ne_nil
  rw [canSubmit, allBlank, Bool.not_eq_true', ← Bool.not_eq_true, ← trim_eq_nil_iff]
  exact hne

/-! ## 4. Every challenge and every answer -/

/-- **Answers are judged by value.** An answer is right exactly if it is, between blanks, a sign or none
    and decimal digits, with any number of zeros in front, that denote the sum of the operands. Whatever
    number an answer denotes, in however many digits, it is right exactly if that number is the sum; one
    outside of the 64-bit range is none. The addition itself stays within 64 bits. So the decimal text of
    an integer is right exactly if it is the sum, the operands may be swapped, and every right answer can
    be submitted. -/
theorem accepts_by_value (c : Challenge) :
    (∀ answer, c.accepts answer = true ↔ ∃ w numeral w', w.all isBlank = true ∧
      w'.all isBlank = true ∧ answer.toList = w ++ numeral ++ w' ∧
      DenotesInteger numeral (c.left.toNat + c.right.toNat)) ∧
    (∀ answer w numeral w' z, w.all isBlank = true → w'.all isBlank = true →
      answer.toList = w ++ numeral ++ w' → DenotesInteger numeral z →
      (c.accepts answer = true ↔ z = c.left.toNat + c.right.toNat)) ∧
    (Int64.ofNat c.left.toNat + Int64.ofNat c.right.toNat).toInt = c.left.toNat + c.right.toNat ∧
    (∀ n : Int, c.accepts (toString n) = true ↔ n = c.left.toNat + c.right.toNat) ∧
    (∀ answer, { c with left := c.right, right := c.left }.accepts answer = c.accepts answer) ∧
    ∀ answer, c.accepts answer = true → canSubmit answer = true := by
  have hsum : (c.sum : Int) = c.left.toNat + c.right.toNat := Int.natCast_add _ _
  rw [← hsum]
  refine ⟨c.accepts_iff_padded, ?_, c.toInt_add_operands, fun n => ?_, fun answer => ?_,
    fun answer => c.canSubmit_of_accepts⟩
  · intro answer w numeral w' z hw hw' hanswer hz
    exact c.accepts_padded_iff hw hw' hanswer hz
  · have hbare : (toString n).toList = [] ++ (toString n).toList ++ [] := (List.append_nil _).symm
    exact c.accepts_padded_iff rfl rfl hbare (denotesInteger_toString n)
  · have hswap : Challenge.sum { c with left := c.right, right := c.left } = c.sum := Nat.add_comm _ _
    rw [accepts, accepts, hswap]

/-- The greatest sum, with a sign, zeros and blanks of two kinds around it, is right; the same number
    after one turn around the 64-bit range is not. -/
theorem accepts_by_value_greatest :
    Challenge.accepts ⟨"c", 4294967295, 4294967295⟩ "\u3000+008589934590\n" = true ∧
      Challenge.accepts ⟨"c", 4294967295, 4294967295⟩ "18446744082299486206" = false := by
  have hright : DenotesInteger "+008589934590".toList 8589934590 :=
    .plus (n := 8589934590) ⟨by simp, List.all_eq_true.mp rfl, by decide⟩
  have hwrong : DenotesInteger "18446744082299486206".toList 18446744082299486206 :=
    .bare (n := 18446744082299486206) ⟨by simp, List.all_eq_true.mp rfl, by decide⟩
  obtain ⟨-, hjudged, -⟩ := accepts_by_value ⟨"c", 4294967295, 4294967295⟩
  refine ⟨(hjudged _ ['\u3000'] _ ['\n'] _ rfl rfl rfl hright).mpr (by decide), ?_⟩
  rw [← Bool.not_eq_true, hjudged _ [] _ [] _ rfl rfl (List.append_nil _).symm hwrong]
  decide

end Challenge

end CommandConsole
