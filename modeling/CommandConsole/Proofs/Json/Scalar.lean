import CommandConsole.Json.Tree
import CommandConsole.Json.Value
import CommandConsole.Proofs.Text.Digits

/-!
# Written numbers and strings are read back

A number is written as its decimal digits, a string between quotes with some of its characters
escaped. The reader takes both off the front of a source, whatever stands behind them, provided that
a number is not followed by something that goes on with it.

* `numeral_toDigits`: the digits of a number are read as that number.
* `string_quote`: a written string is read as its text.
-/

namespace CommandConsole.Json

/-! ## 1. Numbers -/

/-- A natural number as it is written. -/
def Numeral.ofNatural (n : Nat) : Numeral :=
  { negative := false, whole := Nat.toDigits 10 n, fraction := none, exponent := none }

theorem Numeral.valueOf_eq (cs : List Char) : valueOf cs = Nat.ofDigitChars 10 cs 0 := by
  rw [Nat.ofDigitChars_eq_foldl]
  rfl

/-- A written number denotes the number. -/
theorem Numeral.natural?_ofNatural (n : Nat) : (ofNatural n).natural? = some n := by
  have h : valueOf (Nat.toDigits 10 n) = n := by rw [valueOf_eq, Nat.ofDigitChars_ten_toDigits]
  simp [natural?, ofNatural, h]

namespace Tree

/-- What stands here does not go on with a number. -/
def Delimits (rest : Source) : Prop :=
  ∀ c ∈ rest.head?, isDigit c = false ∧ c ≠ some '.' ∧ c ≠ some 'e' ∧ c ≠ some 'E'

theorem digits_append {ds : List Char} {rest : Source} (hds : ∀ c ∈ ds, c.isDigit = true)
    (hrest : Delimits rest) : digits (ds.map some ++ rest) = (ds, rest) := by
  have ends : ∀ c ∈ rest.head?, isDigit c = false := fun c hc => (hrest c hc).1
  have all : ∀ c ∈ ds.map some, isDigit c = true := by
    intro c hc
    obtain ⟨d, hd, rfl⟩ := List.mem_map.1 hc
    exact hds d hd
  rw [digits, Text.takeWhile_word all ends, Text.dropWhile_word all ends]
  simp [List.filterMap_map]

/-- The digits of a number are a whole part. -/
theorem wholePart_toDigits (n : Nat) {rest : Source} (hrest : Delimits rest) :
    wholePart ((Nat.toDigits 10 n).map some ++ rest) = some (Nat.toDigits 10 n, rest) := by
  have all : ∀ c ∈ Nat.toDigits 10 n, c.isDigit = true := fun c hc =>
    Nat.isDigit_of_mem_toDigits (by decide) (by decide) hc
  have hdigits := digits_append all hrest
  rw [wholePart, hdigits]
  obtain ⟨d, ds, hd⟩ := List.exists_cons_of_ne_nil (Nat.toDigits_ne_nil (n := n) (b := 10))
  rw [hd]
  by_cases h0 : d = '0'
  · -- only the number zero begins with a zero, and it has no other digit
    subst h0
    have hzero := Text.eq_zero_of_toDigits hd
    subst hzero
    cases hd
    rfl
  · split
    · rename_i heq
      cases heq
    · rename_i heq
      cases heq
      exact absurd rfl h0
    · rename_i heq
      cases heq
      exact absurd rfl h0
    · rename_i heq
      cases heq
      rfl

theorem fractionPart_of_delimits {rest : Source} (h : Delimits rest) :
    fractionPart rest = some (none, rest) := by
  rw [fractionPart.eq_def]
  split
  · exact absurd rfl (h _ rfl).2.1
  · rfl

theorem exponentPart_of_delimits {rest : Source} (h : Delimits rest) :
    exponentPart rest = some (none, rest) := by
  rw [exponentPart.eq_def]
  split
  iterate 3
    · exact absurd rfl (h _ rfl).2.2.1
    · exact absurd rfl (h _ rfl).2.2.2
  · rfl

/-- **The digits of a number are read as that number.** -/
theorem numeral_toDigits (n : Nat) {rest : Source} (h : Delimits rest) :
    numeral false ((Nat.toDigits 10 n).map some ++ rest) = some (.ofNatural n, rest) := by
  simp only [numeral, wholePart_toDigits n h, fractionPart_of_delimits h,
    exponentPart_of_delimits h, Option.bind_eq_bind, Option.bind_some]
  rfl

/-! ## 2. Strings -/

/-- How the reader takes a written character: the control characters without a short escape come as
    a unit of sixteen bits, all others as themselves. -/
def elementOf (c : Char) : Element :=
  if c.toNat < 0x20 ∧ c ≠ '\x08' ∧ c ≠ '\t' ∧ c ≠ '\n' ∧ c ≠ '\x0c' ∧ c ≠ '\r' then .unit c.toNat
  else .char c

/-- The four digits of a control character are its number. -/
theorem hexUnit_hexDigit {n : Nat} (h : n < 0x20) :
    hexUnit '0' '0' (hexDigit (n / 16)) (hexDigit (n % 16)) = some n := by
  have all : ∀ m < 0x20, hexUnit '0' '0' (hexDigit (m / 16)) (hexDigit (m % 16)) = some m := by
    decide
  exact all n h

theorem elements_plain {c : Char} (hq : c ≠ '"') (hb : c ≠ '\\') (h : ¬ c.toNat < 0x20)
    (seen : List Element) (s : Source) :
    elements seen (some c :: s) = elements (.char c :: seen) s := by
  rw [elements.eq_def]
  split
  case h_6 heq =>
    obtain ⟨hc, hs⟩ := List.cons.inj heq
    cases hc
    rw [if_neg h, hs]
  all_goals simp_all

/-- One written character is read as one element. -/
theorem elements_escapeChar (c : Char) (seen : List Element) (s : Source) :
    elements seen ((escapeChar c).map some ++ s) = elements (elementOf c :: seen) s := by
  unfold escapeChar
  split_ifs with h₁ h₂ h₃ h₄ h₅ h₆ h₇ h₈
  iterate 7
    · subst c
      rfl
  · have hunit : elementOf c = .unit c.toNat := by simp [elementOf, *]
    have hhex := hexUnit_hexDigit h₈
    simp only [List.map_cons, List.map_nil, List.cons_append, List.nil_append]
    rw [elements, hhex, hunit]
  · have hchar : elementOf c = .char c := by simp [elementOf, h₈]
    rw [hchar]
    exact elements_plain h₁ h₂ h₈ seen s

/-- The characters of a written string are read as their elements. -/
theorem elements_quoted (cs : List Char) (seen : List Element) (rest : Source) :
    elements seen ((cs.flatMap escapeChar).map some ++ some '"' :: rest)
      = some (seen.reverse ++ cs.map elementOf, rest) := by
  induction cs generalizing seen with
  | nil => simp [elements]
  | cons c cs ih =>
    rw [List.flatMap_cons, List.map_append, List.append_assoc, elements_escapeChar, ih]
    simp

/-- A unit below the surrogates is a character of its own, whatever comes next. -/
theorem resolve_unit {n : Nat} (h : n < 0xd800) (seen : List Char) (es : List Element) :
    resolve seen (.unit n :: es) = resolve (Char.ofNat n :: seen) es := by
  have high : isHighSurrogate n = false := by
    simp only [isHighSurrogate, Bool.and_eq_false_iff, decide_eq_false_iff_not]
    omega
  have low : isLowSurrogate n = false := by
    simp only [isLowSurrogate, Bool.and_eq_false_iff, decide_eq_false_iff_not]
    omega
  cases es with
  | nil => simp [resolve, high, low]
  | cons e es => cases e <;> simp [resolve, high, low]

/-- The elements of characters denote these characters. -/
theorem resolve_elements (cs seen : List Char) :
    resolve seen (cs.map elementOf) = some (seen.reverse ++ cs) := by
  induction cs generalizing seen with
  | nil => simp [resolve]
  | cons c cs ih =>
    have step : resolve seen (elementOf c :: cs.map elementOf)
        = resolve (c :: seen) (cs.map elementOf) := by
      unfold elementOf
      split_ifs with h
      · rw [resolve_unit (by omega), Char.ofNat_toNat]
      · rw [resolve]
    rw [List.map_cons, step, ih]
    simp

/-- **A written string is read as its text**, and the source goes on behind its closing quote. -/
theorem string_quote (t : String) (rest : Source) :
    string ((t.toList.flatMap escapeChar).map some ++ some '"' :: rest) = some (some t, rest) := by
  have helements := elements_quoted t.toList [] rest
  have hresolve := resolve_elements t.toList []
  rw [List.reverse_nil, List.nil_append] at helements hresolve
  simp only [string, helements, hresolve, Option.map_some, String.ofList_toList]

end Tree

end CommandConsole.Json
