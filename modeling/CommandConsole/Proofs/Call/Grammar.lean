import CommandConsole.Proofs.Call.Counting

/-!
# The grammar of argument texts

What stands between parentheses, said as a nested grammar: an item is a plain character, a literal,
or a group of items between parentheses. The scanner of parentheses counts; as long as the parentheses
are few enough for its word, counting and nesting come to the same.

* `Items.counted`: items lead from a count back to it;
* `Counted.closes`: what leads the count down to its bound is items, and between them a closing
  parenthesis for each step down;
* `counted_iff_items`, `enclosed_iff_items`: the two questions put to the scanner, answered by the
  grammar;
* `readsAsNested`: both answers, for the text behind the first parenthesis of a line;
* `exists_items_not_enclosed`: beyond the range of the word the two part.
-/

namespace CommandConsole.Call

/-! ## 1. Items -/

/-- One item of an argument text: a character that is neither a quote nor a parenthesis, a literal,
    or items between parentheses. -/
inductive Item : List Char → Prop where
  | plain {c : Char} (hq : isQuote c = false) (ho : c ≠ '(') (hc : c ≠ ')') : Item [c]
  | literal {q : Char} {b : List Char} (hq : isQuote q = true) (hb : LiteralBody q b) :
      Item (q :: (b ++ [q]))
  | group {parts : List (List Char)} (h : ∀ p ∈ parts, Item p) :
      Item ('(' :: (parts.flatten ++ [')']))

/-- Any number of items in a row. -/
def Items (cs : List Char) : Prop :=
  ∃ parts : List (List Char), cs = parts.flatten ∧ ∀ p ∈ parts, Item p

theorem Items.nil : Items [] := ⟨[], rfl, fun _ h => absurd h List.not_mem_nil⟩

theorem Items.cons {i cs : List Char} (hi : Item i) (h : Items cs) : Items (i ++ cs) := by
  obtain ⟨parts, rfl, hparts⟩ := h
  refine ⟨i :: parts, rfl, fun p hp => ?_⟩
  rcases List.mem_cons.mp hp with rfl | hp
  · exact hi
  · exact hparts p hp

theorem Items.append {as bs : List Char} (ha : Items as) (hb : Items bs) : Items (as ++ bs) := by
  obtain ⟨parts, rfl, hparts⟩ := ha
  induction parts with
  | nil => exact hb
  | cons p ps ih =>
    rw [List.flatten_cons, List.append_assoc]
    exact (ih fun p' hp' => hparts p' (List.mem_cons_of_mem _ hp')).cons (hparts p List.mem_cons_self)

/-- Characters that are neither quotes nor parentheses are items, one by one. -/
theorem Items.of_plain {cs : List Char} (h : ∀ c ∈ cs, isQuote c = false ∧ c ≠ '(' ∧ c ≠ ')') :
    Items cs := by
  induction cs with
  | nil => exact Items.nil
  | cons c cs ih =>
    obtain ⟨hq, ho, hc⟩ := h c List.mem_cons_self
    exact (ih fun c' hc' => h c' (List.mem_cons_of_mem _ hc')).cons (i := [c]) (.plain hq ho hc)

/-- Items between parentheses are an item. -/
theorem Items.group {cs : List Char} (h : Items cs) : Item ('(' :: (cs ++ [')'])) := by
  obtain ⟨parts, rfl, hparts⟩ := h
  exact .group hparts

/-! ## 2. Words that do not wrap around -/

variable {low d e : Int32} {cs : List Char} {n : Nat}

theorem toInt_add_one (h : d.toInt + 1 < 2147483648) : (d + 1).toInt = d.toInt + 1 := by
  have hle := d.le_toInt
  rw [Int32.toInt_add, Int32.toInt_one]
  exact Int.bmod_eq_of_le (by omega) (by omega)

theorem toInt_sub_one (h : -2147483648 < d.toInt) : (d - 1).toInt = d.toInt - 1 := by
  have hlt := d.toInt_lt
  rw [Int32.toInt_sub, Int32.toInt_one]
  exact Int.bmod_eq_of_le (by omega) (by omega)

/-! ## 3. Items are counted -/

theorem counted_flatten {parts : List (List Char)}
    (h : ∀ p ∈ parts, d.toInt + p.count '(' < 2147483648 → Counted low d p d)
    (few : d.toInt + parts.flatten.count '(' < 2147483648) : Counted low d parts.flatten d := by
  induction parts with
  | nil => exact .nil d
  | cons p ps ih =>
    rw [List.flatten_cons, List.count_append] at few
    rw [List.flatten_cons]
    exact (h p List.mem_cons_self (by omega)).append
      (ih (fun p' hp' => h p' (List.mem_cons_of_mem _ hp')) (by omega))

theorem Item.counted {i : List Char} (h : Item i) (hle : low ≤ d)
    (few : d.toInt + i.count '(' < 2147483648) : Counted low d i d := by
  induction h generalizing d with
  | plain hq ho hc => exact .plain hq ho hc (.nil d)
  | literal hq hb => exact .literal hq hb (.nil d)
  | @group parts _ ih =>
    rw [List.count_cons_self, List.count_append] at few
    have hdeep : (d + 1).toInt = d.toInt + 1 := toInt_add_one (by omega)
    have hle' : low ≤ d + 1 := by
      rw [Int32.le_iff_toInt_le] at hle ⊢
      omega
    have hback : d + 1 - 1 = d := Int32.add_sub_cancel d 1
    have hparts : Counted low (d + 1) parts.flatten (d + 1) :=
      counted_flatten (fun p hp => ih p hp hle') (by omega)
    exact .opening (hparts.append (.closing (hback.symm ▸ hle) (hback.symm ▸ .nil d)))

/-- **Items lead from a count back to it**, while they are few enough for the word. -/
theorem Items.counted (h : Items cs) (hle : low ≤ d) (few : d.toInt + cs.count '(' < 2147483648) :
    Counted low d cs d := by
  obtain ⟨parts, rfl, hparts⟩ := h
  exact counted_flatten (fun p hp => (hparts p hp).counted hle) few

/-! ## 4. What is counted is items -/

/-- Items, then `n` times a closing parenthesis and items behind it. -/
def Closes : Nat → List Char → Prop
  | 0, cs => Items cs
  | n + 1, cs => ∃ a rest, cs = a ++ ')' :: rest ∧ Items a ∧ Closes n rest

theorem Closes.cons {i : List Char} (hi : Item i) (h : Closes n cs) : Closes n (i ++ cs) := by
  cases n with
  | zero => exact Items.cons hi h
  | succ n =>
    obtain ⟨a, rest, rfl, ha, hrest⟩ := h
    exact ⟨i ++ a, rest, (List.append_assoc i a _).symm, Items.cons hi ha, hrest⟩

/-- **What leads the count down to its bound is items and the closing parentheses that are due.** -/
theorem Counted.closes (h : Counted low d cs e) (hend : e = low) (hlow : 0 ≤ low.toInt)
    (hn : d.toInt = low.toInt + n) (few : d.toInt + cs.count '(' < 2147483648) : Closes n cs := by
  induction h generalizing n with
  | nil d =>
    obtain rfl : n = 0 := by
      rw [hend] at hn
      omega
    exact Items.nil
  | plain hq ho hc _ ih =>
    rw [List.count_cons_of_ne ho] at few
    exact (ih hend hn few).cons (i := [_]) (.plain hq ho hc)
  | @literal _ _ q b cs hq hb _ ih =>
    have e : q :: (b ++ q :: cs) = (q :: (b ++ [q])) ++ cs := by simp
    rw [e, List.count_append] at few
    rw [e]
    exact (ih hend hn (by omega)).cons (.literal hq hb)
  | @opening d _ cs _ ih =>
    rw [List.count_cons_self] at few
    have hdeep : (d + 1).toInt = d.toInt + 1 := toInt_add_one (by omega)
    obtain ⟨a, rest, rfl, ha, hrest⟩ := ih (n := n + 1) hend (by omega) (by omega)
    have e : '(' :: (a ++ ')' :: rest) = ('(' :: (a ++ [')'])) ++ rest := by simp
    rw [e]
    exact hrest.cons ha.group
  | @closing d _ cs hle _ ih =>
    rw [List.count_cons_of_ne (by decide)] at few
    have hdown : (d - 1).toInt = d.toInt - 1 := toInt_sub_one (by omega)
    rw [Int32.le_iff_toInt_le] at hle
    obtain ⟨m, rfl⟩ : ∃ m, n = m + 1 := ⟨n - 1, by omega⟩
    exact ⟨[], cs, rfl, Items.nil, ih hend (by omega) (by omega)⟩

/-! ## 5. Counting and nesting -/

/-- **Behind the first parenthesis a text of few parentheses balances** when it is items, the closing
    parenthesis and items again. -/
theorem counted_iff_items (few : cs.count '(' < 2147483647) :
    Counted 0 1 cs 0 ↔ ∃ a b, cs = a ++ ')' :: b ∧ Items a ∧ Items b := by
  constructor
  · intro h
    exact h.closes (n := 1) rfl (by decide) (by decide) (by rw [Int32.toInt_one]; omega)
  · rintro ⟨a, b, rfl, ha, hb⟩
    rw [List.count_append, List.count_cons_of_ne (by decide)] at few
    have hfront : Counted 0 1 a 1 := ha.counted (by decide) (by rw [Int32.toInt_one]; omega)
    have hback : Counted 0 0 b 0 := hb.counted (by decide) (by rw [Int32.toInt_zero]; omega)
    exact hfront.append (.closing (by decide) hback)

/-- **The first parenthesis encloses items**, if they are few, and nothing else. -/
theorem enclosed_iff_items (few : cs.count '(' < 2147483647) : Enclosed cs ↔ Items cs :=
  ⟨fun h => h.closes (n := 0) rfl (by decide) (by decide) (by rw [Int32.toInt_one]; omega),
    fun h => h.counted (by decide) (by rw [Int32.toInt_one]; omega)⟩

/-- The nested grammar says of the text behind the first parenthesis what counting says: whether
    everything in it is closed, and where the arguments end. -/
structure ReadsAsNested (rest : List Char) : Prop where
  balanced : Counted 0 1 rest 0 ↔ ∃ a b, rest = a ++ ')' :: b ∧ Items a ∧ Items b
  enclosed : ∀ {args tail : List Char}, rest = args ++ ')' :: tail → (Enclosed args ↔ Items args)

/-- **Fewer than 2^31 - 1 opening parentheses are read by their nesting.** -/
theorem readsAsNested {rest : List Char} (few : rest.count '(' < 2147483647) : ReadsAsNested rest where
  balanced := counted_iff_items few
  enclosed := by
    rintro args tail rfl
    rw [List.count_append] at few
    exact enclosed_iff_items (by omega)

/-! ## 6. Where the two part -/

/-- Opening parentheses in a row are added up, around the end of the range if there are so many. -/
theorem Counted.of_openings (h : Counted low d (List.replicate n '(' ++ cs) e) :
    Counted low (d + Int32.ofNat n) cs e := by
  induction n generalizing d with
  | zero => simpa using h
  | succ n ih =>
    rw [List.replicate_succ, List.cons_append] at h
    have hsum : d + 1 + Int32.ofNat n = d + Int32.ofNat (n + 1) := by
      rw [Int32.ofNat_add, Int32.add_comm (Int32.ofNat n), ← Int32.add_assoc]
      rfl
    exact hsum ▸ ih h.of_opening

theorem items_nested (n : Nat) : Items (List.replicate n '(' ++ List.replicate n ')') := by
  induction n with
  | zero => exact Items.nil
  | succ n ih =>
    have hgroup := Items.nil.cons ih.group
    rw [List.append_nil] at hgroup
    rwa [List.replicate_succ, List.replicate_succ', List.cons_append, ← List.append_assoc]

/-- **Nesting of depth 2^31 is not counted**: the count is below zero at the first closing parenthesis, so
    the first parenthesis does not enclose these items. -/
theorem exists_items_not_enclosed : ∃ args, Items args ∧ ¬ Enclosed args := by
  refine ⟨_, items_nested (2147483647 + 1), fun h => ?_⟩
  have hclosing := Counted.of_openings h
  rw [List.replicate_succ] at hclosing
  exact absurd hclosing.of_closing.1 (by decide)

end CommandConsole.Call
