import CommandConsole.Proofs.Text.Digits
import CommandConsole.Proofs.Toml.Strings
import CommandConsole.Toml.Reader

/-!
# Written TOML values are read back

A text, a natural number and a truth value as the writer puts them behind an equals sign. Each
stands in front of a line end.

* `Denotes`: a written value is read as the value, down to the end of its line.
* `denotes_integer` asks for the bound of the format: greater numbers are refused by the reader.
-/

namespace CommandConsole.Toml

variable {cs word rest : List Char}

/-- What is written here is read as a value that ends with the line. -/
def Denotes (cs : List Char) (v : Toml) : Prop :=
  (∀ c ∈ cs.head?, isSpace c = false)
    ∧ ∀ depth rest, value depth (cs ++ '\n' :: rest) = some (v, '\n' :: rest)

/-! ## 1. Texts -/

/-- A written text begins with a quote. -/
theorem writeString_eq_cons (cs : List Char) :
    ∃ q t, writeString cs = q :: t ∧ (q = '"' ∨ q = '\'') := by
  simp only [writeString]
  split_ifs
  all_goals exact ⟨_, _, rfl, by decide⟩

/-- **A written text is read as the text.** -/
theorem denotes_string (cs : List Char) :
    Denotes (writeString cs) (.string (String.ofList cs)) := by
  obtain ⟨q, t, hcs, hq⟩ := writeString_eq_cons cs
  have hread (rest : List Char) : anyString (writeString cs ++ '\n' :: rest)
      = some (String.ofList cs, '\n' :: rest) :=
    anyString_writeString cs (by simp) (by simp)
  simp only [hcs, List.cons_append] at hread
  refine ⟨?_, fun depth rest => ?_⟩
  · rw [hcs]
    rcases hq with rfl | rfl <;> rintro c ⟨⟩ <;> rfl
  · rw [hcs]
    rcases hq with rfl | rfl
    · simp [value, hread]
    · simp [value, hread]

/-! ## 2. Words -/

/-- Characters of different kinds differ. -/
theorem ne_of_kind {kind : Char → Bool} {c d : Char} (hc : kind c = true) (hd : kind d = false) :
    c ≠ d :=
  ne_of_apply_ne kind (by simp [hc, hd])

/-- A word that begins like no string, array or table is read as what it is by itself. -/
theorem Denotes.of_word {v : Toml} (hall : ∀ c ∈ word, isWordChar c = true) (hne : word ≠ [])
    (hscalar : scalar word = some v) : Denotes word v := by
  have hends (rest : List Char) : ∀ c ∈ ('\n' :: rest).head?, isWordChar c = false := by
    rintro c ⟨⟩
    decide
  have hword (rest : List Char) : wordValue (word ++ '\n' :: rest) = some (v, '\n' :: rest) := by
    simp only [wordValue, Text.takeWhile_word hall (hends rest), hscalar, Option.map_some,
      Text.dropWhile_word hall (hends rest)]
    rfl
  obtain ⟨c, cs, rfl⟩ := List.exists_cons_of_ne_nil hne
  have differs {d : Char} (hd : isWordChar d = false) : c ≠ d := ne_of_kind (hall c (.head cs)) hd
  refine ⟨?_, fun depth rest => ?_⟩
  · rintro d ⟨⟩
    have hspace := differs (d := ' ') (by decide)
    have htab := differs (d := '\t') (by decide)
    simp [isSpace, hspace, htab]
  · have hdouble := differs (d := '"') (by decide)
    have hsingle := differs (d := '\'') (by decide)
    have hbracket := differs (d := '[') (by decide)
    have hbrace := differs (d := '\x7b') (by decide)
    rw [← hword, List.cons_append, value.eq_def]
    split <;> simp_all

/-- **A written truth value is read as itself.** -/
theorem denotes_boolean (b : Bool) :
    Denotes (if b then "true" else "false").toList (.boolean b) := by
  cases b with
  | true =>
    have hall : ∀ c ∈ "true".toList, isWordChar c = true := List.all_eq_true.1 (by decide)
    exact .of_word hall (by decide) (by simp [scalar])
  | false =>
    have hall : ∀ c ∈ "false".toList, isWordChar c = true := List.all_eq_true.1 (by decide)
    exact .of_word hall (by decide) (by simp [scalar])

/-! ## 3. Numbers -/

theorem isDecimal_toDigits (n : Nat) : ∀ c ∈ Nat.toDigits 10 n, isDecimal c = true := by
  intro c hc
  have hdigit : c.isDigit = true := Nat.isDigit_of_mem_toDigits (by decide) (by decide) hc
  simpa [Char.isDigit, isDecimal, and_comm, Char.le_def] using hdigit

/-- A number is written with digits only. -/
theorem not_mem_toDigits {c : Char} (h : isDecimal c = false) (n : Nat) :
    c ∉ Nat.toDigits 10 n := by
  intro hc
  rw [isDecimal_toDigits n c hc] at h
  cases h

/-- Digits without underscores between them are taken as they are. -/
theorem grouped_eq_some {isDigit : Char → Bool} (behindDigit : Bool)
    (hcs : ∀ c ∈ cs, isDigit c = true) (h : cs ≠ [] ∨ behindDigit = true) :
    grouped isDigit behindDigit cs = some cs := by
  induction cs generalizing behindDigit with
  | nil => simpa [grouped] using h
  | cons c cs ih =>
    have htail := ih true (fun d hd => hcs d (.tail c hd)) (.inr rfl)
    rw [grouped, if_pos (hcs c (.head cs)), htail]
    rfl

theorem hexValue_eq_sub {c : Char} (h : isDecimal c = true) :
    hexValue c = some (c.toNat - '0'.toNat) := by
  have hc : '0' ≤ c ∧ c ≤ '9' := by simpa [isDecimal] using h
  rw [hexValue, if_pos hc]
  rfl

/-- The digits of a number denote the number. -/
theorem valueIn_toDigits (n : Nat) : valueIn 10 (Nat.toDigits 10 n) = n := by
  have same : ∀ ds : List Char, (∀ c ∈ ds, isDecimal c = true) → ∀ m,
      ds.foldl (fun n c => 10 * n + (hexValue c).getD 0) m
        = ds.foldl (fun n c => 10 * n + (c.toNat - '0'.toNat)) m := by
    intro ds hds
    induction ds with
    | nil => exact fun _ => rfl
    | cons c ds ih =>
      intro m
      have hc := hexValue_eq_sub (hds c (.head ds))
      rw [List.foldl_cons, List.foldl_cons, hc, Option.getD_some]
      exact ih (fun d hd => hds d (.tail c hd)) _
  have hdenotes := Nat.ofDigitChars_ten_toDigits (n := n)
  rw [Nat.ofDigitChars_eq_foldl] at hdenotes
  rw [valueIn, same _ (isDecimal_toDigits n) 0]
  exact hdenotes

theorem plainDigits_toDigits (n : Nat) :
    plainDigits (Nat.toDigits 10 n) = some (Nat.toDigits 10 n) := by
  have hgrouped : grouped isDecimal false (Nat.toDigits 10 n) = some (Nat.toDigits 10 n) :=
    grouped_eq_some false (isDecimal_toDigits n) (.inl Nat.toDigits_ne_nil)
  rw [plainDigits.eq_def]
  split
  · -- no zero stands in front of other digits
    rename_i hzero
    have hn := Text.eq_zero_of_toDigits hzero
    subst hn
    cases hzero
  · exact hgrouped

/-- A written number within the bound is an integer of the format. -/
theorem integer?_toDigits {n : Nat} (h : n ≤ 9223372036854775807) :
    integer? (Nat.toDigits 10 n) = some (n : Int) := by
  have without {c : Char} (hc : isDecimal c = false) : c ∉ Nat.toDigits 10 n :=
    not_mem_toDigits hc n
  have hunsigned : unsigned (Nat.toDigits 10 n) = (false, Nat.toDigits 10 n) := by
    rw [unsigned.eq_def]
    split
    · rename_i heq
      exact absurd (by simp [heq]) (without (c := '-') (by decide))
    · rename_i heq
      exact absurd (by simp [heq]) (without (c := '+') (by decide))
    · rfl
  have hrange : inRange (n : Int) = some (n : Int) := by
    rw [inRange, if_pos]
    simp only [integerRange]
    omega
  rw [integer?.eq_def]
  split
  · rename_i heq
    exact absurd (by simp [heq]) (without (c := 'x') (by decide))
  · rename_i heq
    exact absurd (by simp [heq]) (without (c := 'o') (by decide))
  · rename_i heq
    exact absurd (by simp [heq]) (without (c := 'b') (by decide))
  · simp [hunsigned, plainDigits_toDigits, valueIn_toDigits, hrange]

/-- **A written number within the bound is read as the number.** -/
theorem denotes_integer {n : Nat} (h : n ≤ 9223372036854775807) :
    Denotes (Nat.toDigits 10 n) (.integer n) := by
  have htrue : Nat.toDigits 10 n ≠ "true".toList := fun heq =>
    not_mem_toDigits (c := 't') (by decide) n (by simp [heq])
  have hfalse : Nat.toDigits 10 n ≠ "false".toList := fun heq =>
    not_mem_toDigits (c := 'f') (by decide) n (by simp [heq])
  refine .of_word ?_ Nat.toDigits_ne_nil ?_
  · intro c hc
    simp [isWordChar, isBare, isDecimal_toDigits n c hc]
  · rw [scalar, if_neg htrue, if_neg hfalse, integer?_toDigits h]

end CommandConsole.Toml
