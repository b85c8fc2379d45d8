import Mathlib.Tactic.Common

/-!
# Words and numbers at the front of a text

A word is taken off a text as far as its characters go, and a character that it does not have stands
behind it. What every format of numbers asks of the decimal digits of a number beyond their value: no
zero stands in front of them.
-/

namespace CommandConsole.Text

section

variable {α : Type} {p : α → Bool} {a : α} {word front behind rest : List α}

theorem takeWhile_word (hword : ∀ a ∈ word, p a = true) (hrest : ∀ a ∈ rest.head?, p a = false) :
    (word ++ rest).takeWhile p = word := by
  rw [List.takeWhile_append_of_pos hword]
  cases rest with
  | nil => simp
  | cons a rest => simp [hrest a rfl]

theorem dropWhile_word (hword : ∀ a ∈ word, p a = true) (hrest : ∀ a ∈ rest.head?, p a = false) :
    (word ++ rest).dropWhile p = rest := by
  rw [List.dropWhile_append_of_pos hword]
  cases rest with
  | nil => rfl
  | cons a rest => simp [hrest a rfl]

/-- A word in front of a text ends before any character that it does not have. -/
theorem exists_of_append_eq (hno : a ∉ word) (h : word ++ behind = front ++ a :: rest) :
    ∃ m, front = word ++ m ∧ behind = m ++ a :: rest := by
  rcases List.append_eq_append_iff.mp h with ⟨m, hfront, hbehind⟩ | ⟨m, hword, hrest⟩
  · exact ⟨m, hfront, hbehind⟩
  · cases m with
    | nil => exact ⟨[], by rw [hword, List.append_nil, List.append_nil], hrest.symm⟩
    | cons b m =>
      obtain rfl : a = b := (List.cons.inj hrest).1
      exact absurd (hword ▸ List.mem_append_right front List.mem_cons_self) hno

/-- A character in a text, and a word behind it that does not have it: the text goes on behind the
    character up to the word. -/
theorem exists_of_eq_append (hno : a ∉ word) (h : front ++ a :: rest = behind ++ word) :
    ∃ m, behind = front ++ a :: m ∧ rest = m ++ word := by
  rcases List.append_eq_append_iff.mp h with ⟨m, hbehind, hrest⟩ | ⟨m, -, hword⟩
  · cases m with
    | nil =>
      rw [List.nil_append] at hrest
      exact absurd (hrest ▸ List.mem_cons_self) hno
    | cons b m =>
      rw [List.cons_append, List.cons.injEq] at hrest
      obtain ⟨rfl, hrest⟩ := hrest
      exact ⟨m, hbehind, hrest⟩
  · exact absurd (hword ▸ List.mem_append_right m List.mem_cons_self) hno

end

/-- A written number that begins with zero is zero. -/
theorem eq_zero_of_toDigits {n : Nat} {ds : List Char} (h : Nat.toDigits 10 n = '0' :: ds) :
    n = 0 := by
  induction n using Nat.strongRecOn generalizing ds with
  | ind n ih =>
    rw [Nat.toDigits_eq_if (by decide)] at h
    split_ifs at h with hn
    · have digit : ∀ m < 10, m.digitChar = '0' → m = 0 := by decide
      exact digit n hn (List.cons.inj h).1
    · -- the first digit is that of the number without its last digit
      obtain ⟨c, cs, hc⟩ := List.exists_cons_of_ne_nil (Nat.toDigits_ne_nil (n := n / 10) (b := 10))
      rw [hc, List.cons_append, List.cons.injEq] at h
      have := ih (n / 10) (by omega) (h.1 ▸ hc)
      omega

end CommandConsole.Text
