import CommandConsole.Proofs.Json.Scalar

/-!
# Written values are read back

The compact and the pretty text of a value are one text under two layouts, which differ in the gaps
between the tokens. Its reading is followed value by value: whoever reads the text of a value gets
the tree of the value and the source behind it, whatever stands there, as long as that does not go
on with a number.

* `Json.toTree`: the tree of a value.
* `reads`: the text of a value, under every layout, is read as the tree of the value.
* `ofText_compact`, `ofText_pretty`: so both texts of a value are read as its tree, also with a gap
  behind them.
-/

namespace CommandConsole.Json

/-! ## 1. The tree of a value -/

/-- Induction over values: what holds of an array follows from its items, and what holds of an
    object from its fields. -/
@[elab_as_elim]
theorem induct {P : Json → Prop} (null : P .null) (bool : ∀ b, P (.bool b))
    (number : ∀ n, P (.number n)) (string : ∀ s, P (.string s))
    (array : ∀ vs, (∀ v ∈ vs, P v) → P (.array vs))
    (object : ∀ fs : List (String × Json), (∀ f ∈ fs, P f.2) → P (.object fs)) (v : Json) : P v :=
  @Json.rec P (fun vs => ∀ v ∈ vs, P v) (fun fs => ∀ f ∈ fs, P f.2) (fun f => P f.2)
    null bool number string array object
    (by simp) (fun v vs hv hvs => List.forall_mem_cons.2 ⟨hv, hvs⟩)
    (by simp) (fun f fs hf hfs => List.forall_mem_cons.2 ⟨hf, hfs⟩)
    (fun k v hv => hv) v

mutual

/-- The tree that the text of a value is read as. -/
def toTree : Json → Tree
  | null => .null
  | bool b => .bool b
  | number n => .number (.ofNatural n)
  | string s => .text (some s)
  | array vs => .array (toTrees vs)
  | object fs => .object (toFields fs)

/-- The trees of the items of an array. -/
def toTrees : List Json → List Tree
  | [] => []
  | v :: vs => toTree v :: toTrees vs

/-- The fields of an object with their trees. -/
def toFields : List (String × Json) → List (Option String × Tree)
  | [] => []
  | (k, v) :: fs => (some k, toTree v) :: toFields fs

end

theorem toTree_array (vs : List Json) : toTree (.array vs) = .array (vs.map toTree) := by
  have h : toTrees vs = vs.map toTree := by
    induction vs with
    | nil => rfl
    | cons v vs ih => rw [toTrees, ih, List.map_cons]
  rw [toTree, h]

theorem toTree_object (fs : List (String × Json)) :
    toTree (.object fs) = .object (fs.map fun f => (some f.1, toTree f.2)) := by
  have h : toFields fs = fs.map fun f => (some f.1, toTree f.2) := by
    induction fs with
    | nil => rfl
    | cons f fs ih => rw [toFields, ih, List.map_cons]
  rw [toTree, h]

/-! ## 2. Gaps -/

namespace Tree

theorem skipGap_append {g : List Char} (hg : g ⊆ gaps) (s : Source) :
    skipGap (g.map some ++ s) = skipGap s := by
  refine List.dropWhile_append_of_pos fun c hc => ?_
  obtain ⟨d, hd, rfl⟩ := List.mem_map.1 hc
  have all : gaps.all (fun d => isGap (some d)) = true := by decide
  exact List.all_eq_true.1 all d (hg hd)

theorem skipGap_cons {c : Char} (hc : c ∉ gaps) (s : Source) :
    skipGap (some c :: s) = some c :: s := by
  have h : isGap (some c) = false := by
    simp only [gaps, List.mem_cons, List.not_mem_nil, or_false, not_or] at hc
    simp [isGap, hc]
  rw [skipGap, List.dropWhile_cons_of_neg (by simp [h])]

/-- A gap, a comma or a closing bracket ends a number. -/
theorem delimits_cons {c : Char} (hc : c ∈ gaps ++ [',', ']', '}']) (s : Source) :
    Delimits (some c :: s) := by
  have all : (gaps ++ [',', ']', '}']).all
      (fun d => !isDigit (some d) && d != '.' && d != 'e' && d != 'E') = true := by decide
  intro d hd
  cases hd
  simpa [and_assoc] using List.all_eq_true.1 all c hc

theorem delimits_gap {g : List Char} (hg : g ⊆ gaps) {c : Char} (hc : c ∈ [',', ']', '}'])
    (s : Source) : Delimits (g.map some ++ some c :: s) := by
  cases g with
  | nil => exact delimits_cons (List.mem_append_right _ hc) s
  | cons b g => exact delimits_cons (List.mem_append_left _ (hg (List.mem_cons_self ..))) _

/-- A gap at the end of the text ends a number as well. -/
theorem delimits_end {g : List Char} (hg : g ⊆ gaps) : Delimits (g.map some) := by
  cases g with
  | nil =>
    intro c hc
    cases hc
  | cons b g => exact delimits_cons (List.mem_append_left _ (hg (List.mem_cons_self ..))) _

/-! ## 3. The reader step by step -/

/-- The items of an array behind one that was read. -/
def moreItems (n : Nat) (seen : List Tree) (s : Source) : Reading :=
  match skipGap s with
  | some ',' :: s => items n seen s
  | some ']' :: s => (.array seen.reverse, some s)
  | _ => (.array (.broken :: seen).reverse, none)

theorem items_of_value {n : Nat} {s rest : Source} {t : Tree} (h : value n s = (t, some rest))
    (seen : List Tree) : items (n + 1) seen s = moreItems n (t :: seen) rest := by
  rw [items, h]
  rfl

/-- A bracket with something else behind it than the end of the array opens the items. -/
theorem value_of_bracket {n : Nat} {s rest : Source} {g text : List Char}
    (hs : skipGap s = some '[' :: (g.map some ++ (text.map some ++ rest)))
    (htext : ∃ c cs, text = c :: cs ∧ c ∉ gaps ∧ c ≠ ']') (hg : g ⊆ gaps) :
    value (n + 1) s = items n [] (text.map some ++ rest) := by
  obtain ⟨c, cs, rfl, hgap, hend⟩ := htext
  rw [value, hs]
  simp only [skipGap_append hg, List.map_cons, List.cons_append, skipGap_cons hgap]
  split
  · rename_i heq
    exact absurd (Option.some.inj (List.cons.inj heq).1) hend
  · rfl

/-- A brace with a name behind it opens the fields. -/
theorem value_of_brace {n : Nat} {s rest : Source} {g : List Char} {k : String}
    (hs : skipGap s = some '{' :: (g.map some ++ ((quote k).map some ++ rest))) (hg : g ⊆ gaps) :
    value (n + 1) s = fields n [] ((quote k).map some ++ rest) := by
  rw [value, hs]
  simp only [skipGap_append hg, quote, List.cons_append, List.map_cons,
    skipGap_cons (show '"' ∉ gaps by decide)]
  rfl

/-- The fields of an object behind one that was read. -/
def moreFields (n : Nat) (seen : List (Option String × Tree)) (s : Source) : Reading :=
  match skipGap s with
  | some ',' :: s => fields n seen s
  | some '\x7d' :: s => (.object seen.reverse, some s)
  | _ => (.object ((none, .broken) :: seen).reverse, none)

/-- A field: its name between quotes, a colon, and its value. -/
theorem fields_of_value {n : Nat} {s behindName behindColon rest : Source} {k : String} {t : Tree}
    (hs : skipGap s = (quote k).map some ++ behindName)
    (hcolon : skipGap behindName = some ':' :: behindColon)
    (h : value n behindColon = (t, some rest)) (seen : List (Option String × Tree)) :
    fields (n + 1) seen s = moreFields n ((some k, t) :: seen) rest := by
  have hquote : skipGap s
      = some '"' :: ((k.toList.flatMap escapeChar).map some ++ some '"' :: behindName) := by
    rw [hs]
    simp [quote]
  rw [fields, hquote]
  simp only [string_quote, hcolon, h]
  rfl

/-- A value that begins with a digit is a number. -/
theorem value_of_digit {n : Nat} {s rest : Source} {d : Char} (hd : d.isDigit = true)
    (hs : skipGap s = some d :: rest) :
    value (n + 1) s = leaf .number (numeral false (some d :: rest)) := by
  have all : ∀ c ∈ ['{', '[', '"', 't', 'f', 'n', '-'], d ≠ c := by
    intro c hc h
    subst h
    have other : ['{', '[', '"', 't', 'f', 'n', '-'].all (fun c => !c.isDigit) = true := by decide
    have hnot := List.all_eq_true.1 other d hc
    rw [hd] at hnot
    cases hnot
  rw [value, hs]
  split <;> simp_all

end Tree

/-! ## 4. Whole values -/

open Json.Tree (skipGap skipGap_append skipGap_cons Delimits delimits_gap moreItems moreFields)

variable (l : Layout)

/-- No text of a value begins with a gap, nor as the end of an array does. -/
theorem Layout.chars_eq_cons (level : Nat) (v : Json) :
    ∃ c cs, l.chars level v = c :: cs ∧ c ∉ gaps ∧ c ≠ ']' := by
  cases v with
  | null => exact ⟨'n', _, rfl, by decide, by decide⟩
  | bool b =>
    cases b with
    | true => exact ⟨'t', _, rfl, by decide, by decide⟩
    | false => exact ⟨'f', _, rfl, by decide, by decide⟩
  | number n =>
    obtain ⟨d, ds, hd⟩ := List.exists_cons_of_ne_nil (Nat.toDigits_ne_nil (n := n) (b := 10))
    have hdigit : d.isDigit = true := by
      refine Nat.isDigit_of_mem_toDigits (b := 10) (n := n) (by decide) (by decide) ?_
      rw [hd]
      exact List.mem_cons_self ..
    have other : (']' :: gaps).all (fun c => !c.isDigit) = true := by decide
    have hnot : d ∉ ']' :: gaps := by
      intro h
      have := List.all_eq_true.1 other d h
      rw [hdigit] at this
      cases this
    rw [List.mem_cons, not_or] at hnot
    exact ⟨d, ds, hd, hnot.2, hnot.1⟩
  | string s => exact ⟨'"', _, rfl, by decide, by decide⟩
  | array vs => cases vs <;> exact ⟨'[', _, rfl, by decide, by decide⟩
  | object fs => cases fs <;> exact ⟨'{', _, rfl, by decide, by decide⟩

/-- The text of this value is read as its tree, under this layout, at every level, in front of
    everything that does not go on with a number. Two steps for each character are enough. -/
def Reads (v : Json) : Prop :=
  ∀ level n s rest, skipGap s = (l.chars level v).map some ++ rest →
    2 * (l.chars level v).length ≤ n → Delimits rest → Tree.value n s = (v.toTree, some rest)

theorem skipGap_chars {g : List Char} (hg : g ⊆ gaps) (level : Nat) (v : Json) (rest : Source) :
    skipGap (g.map some ++ ((l.chars level v).map some ++ rest))
      = (l.chars level v).map some ++ rest := by
  obtain ⟨c, cs, hcs, hc, -⟩ := l.chars_eq_cons level v
  rw [skipGap_append hg, hcs, List.map_cons, List.cons_append, skipGap_cons hc]

/-- Whatever comes behind an item, a comma or the end of the array, ends a number. -/
theorem delimits_items {g : List Char} (hg : g ⊆ gaps) (level : Nat) (vs : List Json)
    (rest : Source) :
    Delimits ((l.items level vs).map some ++ (g.map some ++ some ']' :: rest)) := by
  cases vs with
  | nil => exact delimits_gap hg (by decide) rest
  | cons v vs => exact delimits_gap (List.nil_subset _) (by decide) _

/-- Whatever comes behind a field, a comma or the end of the object, ends a number. -/
theorem delimits_fields {g : List Char} (hg : g ⊆ gaps) (level : Nat) (fs : List (String × Json))
    (rest : Source) :
    Delimits ((l.fields level fs).map some ++ (g.map some ++ some '\x7d' :: rest)) := by
  cases fs with
  | nil => exact delimits_gap hg (by decide) rest
  | cons f fs => exact delimits_gap (List.nil_subset _) (by decide) _

/-- Behind a gap, a name begins with its quote. -/
theorem skipGap_quote {g : List Char} (hg : g ⊆ gaps) (k : String) (rest : Source) :
    skipGap (g.map some ++ ((quote k).map some ++ rest)) = (quote k).map some ++ rest := by
  rw [skipGap_append hg]
  exact skipGap_cons (by decide) _

variable {l}

/-- The text of a value is read behind a gap as well. -/
theorem Reads.behind {v : Json} (h : Reads l v) (level n : Nat) {g : List Char} (hg : g ⊆ gaps)
    (hn : 2 * (l.chars level v).length ≤ n) {rest : Source} (hrest : Delimits rest) :
    Tree.value n (g.map some ++ ((l.chars level v).map some ++ rest)) = (v.toTree, some rest) :=
  h level n _ rest (skipGap_chars l hg level v rest) hn hrest

/-- The items behind the first, up to the end of their array. -/
theorem moreItems_items {vs : List Json} (hvs : ∀ v ∈ vs, Reads l v) {level n : Nat}
    {g : List Char} (hg : g ⊆ gaps) (seen : List Tree) (rest : Source)
    (hn : 2 * ((l.items level vs).length + g.length + 1) ≤ n) :
    moreItems n seen ((l.items level vs).map some ++ (g.map some ++ some ']' :: rest))
      = (Tree.array (seen.reverse ++ vs.map toTree), some rest) := by
  induction vs generalizing n seen with
  | nil =>
    rw [Layout.items, List.map_nil, List.nil_append, moreItems, skipGap_append hg,
      skipGap_cons (by decide)]
    simp
  | cons v vs ih =>
    obtain ⟨hv, hmore⟩ := List.forall_mem_cons.1 hvs
    simp only [Layout.items, List.cons_append, List.length_cons, List.length_append] at hn
    obtain ⟨m, rfl⟩ : ∃ m, n = m + 1 := ⟨n - 1, by omega⟩
    -- behind the comma stands the item, and behind it the rest of the array
    have hread := hv.behind level m (l.line_subset level) (by omega)
      (delimits_items l hg level vs rest)
    rw [Layout.items, moreItems]
    simp only [List.cons_append, List.map_cons, List.map_append, List.append_assoc,
      skipGap_cons (show ',' ∉ gaps by decide)]
    rw [Tree.items_of_value hread, ih hmore (v.toTree :: seen) (by omega)]
    simp

theorem reads_array {vs : List Json} (hvs : ∀ v ∈ vs, Reads l v) : Reads l (.array vs) := by
  intro level n s rest hs hn hrest
  cases vs with
  | nil =>
    obtain ⟨m, rfl⟩ : ∃ m, n = m + 1 := ⟨n - 1, by simp [Layout.chars] at hn; omega⟩
    have hs' : skipGap s = some '[' :: some ']' :: rest := hs
    rw [Tree.value, hs']
    simp only [skipGap_cons (show ']' ∉ gaps by decide)]
    rfl
  | cons v vs =>
    obtain ⟨hv, hmore⟩ := List.forall_mem_cons.1 hvs
    simp only [Layout.chars, List.cons_append, List.length_cons, List.length_append,
      List.length_nil] at hn
    obtain ⟨m, rfl⟩ : ∃ m, n = m + 2 := ⟨n - 2, by omega⟩
    have hs' : skipGap s = some '[' :: ((l.line (level + 1)).map some
        ++ ((l.chars (level + 1) v).map some ++ ((l.items (level + 1) vs).map some
          ++ ((l.line level).map some ++ some ']' :: rest)))) := by
      rw [hs, Layout.chars]
      simp
    have hread := hv.behind (level + 1) m (List.nil_subset _) (by omega)
      (delimits_items l (l.line_subset level) (level + 1) vs rest)
    rw [List.map_nil, List.nil_append] at hread
    rw [Tree.value_of_bracket hs' (l.chars_eq_cons (level + 1) v) (l.line_subset (level + 1)),
      Tree.items_of_value hread, moreItems_items hmore (l.line_subset level) _ _ (by omega),
      toTree_array]
    simp

/-! ### Objects -/

/-- A field of an object, name and value, in front of what comes behind it. -/
theorem Reads.field {v : Json} (hv : Reads l v) (k : String) (level n : Nat)
    (hn : 2 * (l.chars level v).length ≤ n) {s rest : Source}
    (hs : skipGap s = (quote k).map some
      ++ (some ':' :: (l.space.map some ++ ((l.chars level v).map some ++ rest))))
    (hrest : Delimits rest) (seen : List (Option String × Tree)) :
    Tree.fields (n + 1) seen s = moreFields n ((some k, v.toTree) :: seen) rest :=
  Tree.fields_of_value hs (skipGap_cons (by decide) _) (hv.behind level n l.space_subset hn hrest)
    seen

/-- The fields behind the first, up to the end of their object. -/
theorem moreFields_fields {fs : List (String × Json)} (hfs : ∀ f ∈ fs, Reads l f.2) {level n : Nat}
    {g : List Char} (hg : g ⊆ gaps) (seen : List (Option String × Tree)) (rest : Source)
    (hn : 2 * ((l.fields level fs).length + g.length + 1) ≤ n) :
    moreFields n seen ((l.fields level fs).map some ++ (g.map some ++ some '\x7d' :: rest))
      = (Tree.object (seen.reverse ++ fs.map fun f => (some f.1, toTree f.2)), some rest) := by
  induction fs generalizing n seen with
  | nil =>
    rw [Layout.fields, List.map_nil, List.nil_append, moreFields, skipGap_append hg,
      skipGap_cons (by decide)]
    simp
  | cons f fs ih =>
    obtain ⟨k, v⟩ := f
    obtain ⟨hv, hmore⟩ : Reads l v ∧ ∀ f ∈ fs, Reads l f.2 := List.forall_mem_cons.1 hfs
    simp only [Layout.fields, List.cons_append, List.length_cons, List.length_append] at hn
    obtain ⟨m, rfl⟩ : ∃ m, n = m + 1 := ⟨n - 1, by omega⟩
    -- behind the comma and a gap stands the field, and behind it the rest of the object
    have hread := hv.field k level m (by omega) (skipGap_quote (l.line_subset level) k _)
      (delimits_fields l hg level fs rest)
    rw [Layout.fields, moreFields]
    simp only [List.cons_append, List.map_cons, List.map_append, List.append_assoc,
      skipGap_cons (show ',' ∉ gaps by decide)]
    rw [hread, ih hmore ((some k, v.toTree) :: seen) (by omega)]
    simp

theorem reads_object {fs : List (String × Json)} (hfs : ∀ f ∈ fs, Reads l f.2) :
    Reads l (.object fs) := by
  intro level n s rest hs hn hrest
  cases fs with
  | nil =>
    obtain ⟨m, rfl⟩ : ∃ m, n = m + 1 := ⟨n - 1, by simp [Layout.chars] at hn; omega⟩
    have hs' : skipGap s = some '{' :: some '\x7d' :: rest := hs
    rw [Tree.value, hs']
    simp only [skipGap_cons (show '\x7d' ∉ gaps by decide)]
    rfl
  | cons f fs =>
    obtain ⟨k, v⟩ := f
    obtain ⟨hv, hmore⟩ : Reads l v ∧ ∀ f ∈ fs, Reads l f.2 := List.forall_mem_cons.1 hfs
    simp only [Layout.chars, List.cons_append, List.length_cons, List.length_append,
      List.length_nil] at hn
    obtain ⟨m, rfl⟩ : ∃ m, n = m + 2 := ⟨n - 2, by omega⟩
    have hs' : skipGap s = some '{' :: ((l.line (level + 1)).map some ++ ((quote k).map some
        ++ (some ':' :: (l.space.map some ++ ((l.chars (level + 1) v).map some
          ++ ((l.fields (level + 1) fs).map some
            ++ ((l.line level).map some ++ some '\x7d' :: rest))))))) := by
      rw [hs, Layout.chars]
      simp
    have hread := hv.field k (level + 1) m (by omega) (skipGap_quote (List.nil_subset _) k _)
      (delimits_fields l (l.line_subset level) (level + 1) fs rest) []
    rw [List.map_nil, List.nil_append] at hread
    rw [Tree.value_of_brace hs' (l.line_subset (level + 1)), hread,
      moreFields_fields hmore (l.line_subset level) _ _ (by omega), toTree_object]
    simp

/-! ### All values -/

/-- **The text of a value is read as the tree of the value**, under every layout. The induction goes
    over the value. -/
theorem reads (l : Layout) (v : Json) : Reads l v := by
  induction v using induct with
  | null =>
    intro level n s rest hs hn _
    obtain ⟨m, rfl⟩ : ∃ m, n = m + 1 := ⟨n - 1, by simp [Layout.chars] at hn; omega⟩
    rw [Tree.value, hs]
    rfl
  | bool b =>
    intro level n s rest hs hn _
    obtain ⟨m, rfl⟩ : ∃ m, n = m + 1 := ⟨n - 1, by cases b <;> simp [Layout.chars] at hn <;> omega⟩
    rw [Tree.value, hs]
    cases b <;> rfl
  | number k =>
    intro level n s rest hs hn hrest
    obtain ⟨d, ds, hd⟩ := List.exists_cons_of_ne_nil (Nat.toDigits_ne_nil (n := k) (b := 10))
    have hdigit : d.isDigit = true := by
      refine Nat.isDigit_of_mem_toDigits (b := 10) (n := k) (by decide) (by decide) ?_
      rw [hd]
      exact List.mem_cons_self ..
    have hnumeral := Tree.numeral_toDigits k hrest
    rw [Layout.chars, hd] at hs hn
    rw [hd] at hnumeral
    obtain ⟨m, rfl⟩ : ∃ m, n = m + 1 := ⟨n - 1, by rw [List.length_cons] at hn; omega⟩
    rw [Tree.value_of_digit hdigit hs]
    exact congrArg (Tree.leaf Tree.number) hnumeral
  | string t =>
    intro level n s rest hs hn _
    obtain ⟨m, rfl⟩ : ∃ m, n = m + 1 := ⟨n - 1, by simp [Layout.chars, quote] at hn; omega⟩
    have hs' : skipGap s = some '"' :: ((t.toList.flatMap escapeChar).map some ++ some '"' :: rest) := by
      rw [hs]
      simp [Layout.chars, quote]
    rw [Tree.value, hs']
    exact congrArg (Tree.leaf Tree.text) (Tree.string_quote t rest)
  | array vs ih => exact reads_array ih
  | object fs ih => exact reads_object ih

/-- The text of a value, with nothing but a gap behind it, is read as the tree of the value. -/
theorem ofText_chars (l : Layout) (v : Json) {g : List Char} (hg : g ⊆ gaps) :
    Tree.ofText (String.ofList (l.chars 0 v ++ g)) = v.toTree := by
  have hsource : Source.ofString (String.ofList (l.chars 0 v ++ g))
      = (l.chars 0 v).map some ++ g.map some := by
    rw [Source.ofString, String.toList_ofList, List.map_append]
  have hskip := skipGap_chars l (List.nil_subset _) 0 v (g.map some)
  rw [List.map_nil, List.nil_append] at hskip
  have hread := reads l v 0 (2 * ((l.chars 0 v).map some ++ g.map some).length + 2) _ _ hskip
    (by rw [List.length_append, List.length_map]; omega) (Tree.delimits_end hg)
  have hend : skipGap (g.map some) = [] := by
    have h := skipGap_append hg []
    rwa [List.append_nil] at h
  simp only [Tree.ofText, Tree.read, hsource, hread, hend, List.isEmpty_nil, if_true]

/-- The compact text of a value is read as its tree. -/
theorem ofText_compact (v : Json) : Tree.ofText v.compact = v.toTree := by
  have h := ofText_chars .dense v (List.nil_subset _)
  rwa [List.append_nil] at h

/-- The pretty text of a value is read as its tree, also with a line end behind it. -/
theorem ofText_pretty (v : Json) :
    Tree.ofText v.pretty = v.toTree ∧ Tree.ofText (v.pretty ++ "\n") = v.toTree := by
  constructor
  · have h := ofText_chars .spread v (List.nil_subset _)
    rwa [List.append_nil] at h
  · have hline : v.pretty ++ "\n" = String.ofList (Layout.spread.chars 0 v ++ ['\n']) := by
      rw [pretty, String.ofList_append]
    rw [hline, ofText_chars .spread v (by decide)]

end CommandConsole.Json
