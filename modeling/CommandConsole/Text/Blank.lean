/-!
# Blank characters and trimming

Which characters count as blank (the `White_Space` property of Unicode) and how a text loses the
blanks at its ends. Every rule of the console that speaks of blank input, of padding around a
command name or of padding around a number uses the one test `isBlank`.
-/

namespace CommandConsole.Text

/-! ## 1. The property -/

/-- The characters with the Unicode property `White_Space`: the tabulations and line ends U+0009 to
    U+000D, the space, U+0085, the no-break space and the spaces and separators of the general
    punctuation block, U+1680 and U+3000. -/
def isBlank (c : Char) : Bool :=
  let n := c.toNat
  (0x9 ≤ n && n ≤ 0xd) || n == 0x20 || n == 0x85 || n == 0xa0 || n == 0x1680
    || (0x2000 ≤ n && n ≤ 0x200a) || n == 0x2028 || n == 0x2029 || n == 0x202f || n == 0x205f
    || n == 0x3000

/-! ## 2. Trimming -/

/-- The text without the blanks it starts with. -/
def trimStart (cs : List Char) : List Char := cs.dropWhile isBlank

/-- The text without the blanks it ends with. -/
def trimEnd (cs : List Char) : List Char := (cs.reverse.dropWhile isBlank).reverse

/-- The text without the blanks at either end. -/
def trim (cs : List Char) : List Char := trimEnd (trimStart cs)

/-- `trim` on strings. -/
def trimmed (s : String) : String := String.ofList (trim s.toList)

/-- A text of blanks only, the empty one included. -/
def allBlank (s : String) : Bool := s.toList.all isBlank

@[simp] theorem trimStart_nil : trimStart [] = [] := rfl

@[simp] theorem trimEnd_nil : trimEnd [] = [] := rfl

@[simp] theorem trim_nil : trim [] = [] := rfl

theorem trimStart_cons_of_blank {c : Char} (h : isBlank c = true) (cs : List Char) :
    trimStart (c :: cs) = trimStart cs := by
  simp [trimStart, List.dropWhile, h]

theorem trimStart_cons_of_not_blank {c : Char} (h : isBlank c = false) (cs : List Char) :
    trimStart (c :: cs) = c :: cs := by
  simp [trimStart, List.dropWhile, h]

/-- Nothing is left of a text exactly if all of it is blank. -/
theorem trim_eq_nil_iff (cs : List Char) : trim cs = [] ↔ cs.all isBlank = true := by
  have hdrop (l : List Char) : l.dropWhile isBlank = [] ↔ l.all isBlank = true := by
    induction l with
    | nil => simp
    | cons c l ih => cases h : isBlank c <;> simp [h, ih]
  rw [trim, trimEnd, List.reverse_eq_nil_iff, hdrop, List.all_reverse]
  induction cs with
  | nil => rfl
  | cons c cs ih =>
    cases h : isBlank c with
    | true => simp [trimStart_cons_of_blank h, ih, h]
    | false => simp [trimStart_cons_of_not_blank h]

theorem trimmed_eq_empty_iff (s : String) : trimmed s = "" ↔ allBlank s = true := by
  rw [trimmed, String.ofList_eq_empty_iff, trim_eq_nil_iff, allBlank]

end CommandConsole.Text
