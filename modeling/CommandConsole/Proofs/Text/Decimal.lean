import CommandConsole.Text.Decimal
import Mathlib.Tactic.Common

/-!
# Which texts are numbers

The readers of decimal integers, said by what a text looks like: a sign, digits and nothing else, and
the number that the digits denote.

* `natural?_eq_some_iff`: one or more digits and nothing else;
* `word64?_eq_some_iff`: an unsigned number of 64 bits, of any number of leading zeros; a greater
  number is refused, not wrapped;
* `int64?_eq_some_iff`: the same of a signed number of 64 bits;
* `denotesInteger_toString`: the decimal text of an integer denotes it.
-/

namespace CommandConsole.Text

variable {cs : List Char}

/-! ## 1. Unsigned numbers -/

/-- One or more decimal digits and nothing else, and the number they denote. -/
def DenotesNatural (cs : List Char) (n : Nat) : Prop :=
  cs ≠ [] ∧ (∀ c ∈ cs, c.isDigit = true) ∧ Nat.ofDigitChars 10 cs 0 = n

/-- A number of at most 64 bits in decimal digits, with a plus sign or without. -/
def DenotesWord64 (cs : List Char) (n : UInt64) : Prop :=
  ∃ sign digits, cs = sign ++ digits ∧ (sign = [] ∨ sign = ['+']) ∧ DenotesNatural digits n.toNat

theorem digitsFrom_eq (n : Nat) (cs : List Char) : digitsFrom n cs = Nat.ofDigitChars 10 cs n :=
  (Nat.ofDigitChars_eq_foldl).symm

theorem natural?_eq_some_iff (cs : List Char) (n : Nat) :
    natural? cs = some n ↔ DenotesNatural cs n := by
  rw [natural?, DenotesNatural, digitsFrom_eq, ← List.all_eq_true]
  cases cs with
  | nil => simp
  | cons c cs => simp

/-- A text that begins with a sign is no digits. -/
theorem not_denotesNatural_cons {c : Char} (hc : c.isDigit = false) (cs : List Char) (n : Nat) :
    ¬ DenotesNatural (c :: cs) n := by
  intro h
  rw [h.2.1 c List.mem_cons_self] at hc
  cases hc

theorem naturalUpTo_eq_some_iff (max : Nat) (cs : List Char) (n : Nat) :
    naturalUpTo max cs = some n ↔ n ≤ max ∧
      ∃ sign digits, cs = sign ++ digits ∧ (sign = [] ∨ sign = ['+']) ∧ DenotesNatural digits n := by
  unfold naturalUpTo
  rw [Option.filter_eq_some_iff, natural?_eq_some_iff, decide_eq_true_eq, and_comm]
  refine and_congr_right fun _ => ?_
  split
  · rename_i rest
    constructor
    · exact fun h => ⟨['+'], rest, rfl, .inr rfl, h⟩
    · rintro ⟨sign, digits, hcs, rfl | rfl, h⟩
      · exact absurd (hcs ▸ h) (not_denotesNatural_cons (c := '+') rfl rest n)
      · obtain rfl := (List.cons.inj hcs).2
        exact h
  · rename_i hsign
    constructor
    · exact fun h => ⟨[], cs, rfl, .inl rfl, h⟩
    · rintro ⟨sign, digits, rfl, rfl | rfl, h⟩
      · exact h
      · exact absurd rfl (hsign digits)

/-- **Which texts are unsigned numbers of 64 bits, and which numbers they are.** -/
theorem word64?_eq_some_iff (cs : List Char) (n : UInt64) :
    word64? cs = some n ↔ DenotesWord64 cs n := by
  have hbound : n.toNat ≤ maxWord64 := Nat.le_of_lt_succ n.toNat_lt
  rw [word64?, Option.map_eq_some_iff]
  constructor
  · rintro ⟨m, hm, rfl⟩
    obtain ⟨hle, hdenotes⟩ := (naturalUpTo_eq_some_iff maxWord64 cs m).mp hm
    rw [DenotesWord64, UInt64.toNat_ofNat_of_lt' (Nat.lt_succ_of_le hle)]
    exact hdenotes
  · intro hdenotes
    exact ⟨n.toNat, (naturalUpTo_eq_some_iff maxWord64 cs n.toNat).mpr ⟨hbound, hdenotes⟩,
      UInt64.ofNat_toNat⟩

/-! ## 2. Signed numbers -/

/-- An integer in decimal digits, behind a plus sign, a minus sign or none. -/
inductive DenotesInteger : List Char → Int → Prop where
  | bare {cs : List Char} {n : Nat} (h : DenotesNatural cs n) : DenotesInteger cs n
  | plus {cs : List Char} {n : Nat} (h : DenotesNatural cs n) : DenotesInteger ('+' :: cs) n
  | minus {cs : List Char} {n : Nat} (h : DenotesNatural cs n) : DenotesInteger ('-' :: cs) (-n)

theorem denotesInteger_minus_iff (rest : List Char) (z : Int) :
    DenotesInteger ('-' :: rest) z ↔ ∃ n : Nat, DenotesNatural rest n ∧ -(n : Int) = z := by
  constructor
  · intro h
    cases h with
    | bare h => exact absurd h (not_denotesNatural_cons rfl rest _)
    | minus h => exact ⟨_, h, rfl⟩
  · intro ⟨n, hn, hz⟩
    exact hz ▸ .minus hn

theorem denotesInteger_plus_iff (rest : List Char) (z : Int) :
    DenotesInteger ('+' :: rest) z ↔ ∃ n : Nat, DenotesNatural rest n ∧ (n : Int) = z := by
  constructor
  · intro h
    cases h with
    | bare h => exact absurd h (not_denotesNatural_cons rfl rest _)
    | plus h => exact ⟨_, h, rfl⟩
  · intro ⟨n, hn, hz⟩
    exact hz ▸ .plus hn

theorem denotesInteger_bare_iff (hminus : ∀ rest, cs ≠ '-' :: rest) (hplus : ∀ rest, cs ≠ '+' :: rest)
    (z : Int) : DenotesInteger cs z ↔ ∃ n : Nat, DenotesNatural cs n ∧ (n : Int) = z := by
  constructor
  · intro h
    cases h with
    | bare h => exact ⟨_, h, rfl⟩
    | plus h => exact absurd rfl (hplus _)
    | minus h => exact absurd rfl (hminus _)
  · intro ⟨n, hn, hz⟩
    exact hz ▸ .bare hn

/-- Digits taken as an integer, and what is made of it. -/
theorem map_cast_natural?_eq_some_iff (cs : List Char) (f : Int → Int) (z : Int) :
    Option.map f (do pure (← natural? cs : Int)) = some z ↔ ∃ n : Nat, DenotesNatural cs n ∧ f n = z := by
  simp only [← natural?_eq_some_iff]
  cases natural? cs <;> simp

theorem integerWithin_eq_some_iff (min max : Int) (cs : List Char) (z : Int) :
    integerWithin min max cs = some z ↔ (min ≤ z ∧ z ≤ max) ∧ DenotesInteger cs z := by
  unfold integerWithin
  rw [Option.filter_eq_some_iff, Bool.and_eq_true, decide_eq_true_eq, decide_eq_true_eq, and_comm]
  refine and_congr_right fun _ => ?_
  split
  · rw [denotesInteger_minus_iff]
    exact map_cast_natural?_eq_some_iff _ _ z
  · rw [denotesInteger_plus_iff]
    exact map_cast_natural?_eq_some_iff _ _ z
  · rename_i hminus hplus
    rw [denotesInteger_bare_iff hminus hplus]
    exact map_cast_natural?_eq_some_iff _ _ z

/-- **Which texts are signed numbers of 64 bits, and which numbers they are.** A greater or lesser number
    is refused, not wrapped. -/
theorem int64?_eq_some_iff (cs : List Char) (z : Int) :
    int64? cs = some z ↔ (minInt64 ≤ z ∧ z ≤ maxInt64) ∧ DenotesInteger cs z :=
  integerWithin_eq_some_iff minInt64 maxInt64 cs z

/-- A text denotes one number at most. -/
theorem DenotesInteger.unique {z z' : Int} (h : DenotesInteger cs z) (h' : DenotesInteger cs z') :
    z = z' := by
  have hread := (integerWithin_eq_some_iff (min z z') (max z z') cs z).mpr ⟨by omega, h⟩
  have hread' := (integerWithin_eq_some_iff (min z z') (max z z') cs z').mpr ⟨by omega, h'⟩
  exact Option.some.inj (hread.symm.trans hread')

theorem denotesNatural_toDigits (n : Nat) : DenotesNatural (Nat.toDigits 10 n) n :=
  ⟨Nat.toDigits_ne_nil, fun _ hc => Nat.isDigit_of_mem_toDigits (by decide) (by decide) hc,
    Nat.ofDigitChars_ten_toDigits⟩

/-- **The decimal text of an integer denotes it.** -/
theorem denotesInteger_toString (z : Int) : DenotesInteger (toString z).toList z := by
  rw [Int.toString_eq_repr]
  cases z with
  | ofNat n =>
    rw [Int.repr, Nat.toList_repr]
    exact .bare (denotesNatural_toDigits n)
  | negSucc n =>
    rw [Int.repr, String.toList_append, Nat.toList_repr]
    exact .minus (denotesNatural_toDigits (n + 1))

end CommandConsole.Text
