import CommandConsole.Proofs.Text.Digits
import CommandConsole.Proofs.Wire.RoundTrip
import CommandConsole.Terminal.Render

/-!
# What a shown outcome keeps

A message is shown under its label, on a terminal perhaps in colour. The message may hold labels and
codes of its own; what tells the category is the first line, and the message is all that follows.

* `unstyled_styled`: the codes at the ends of a styled text are all that the style adds;
* `Shows`: what is read off a text that shows an outcome;
* `rendering_keeps_outcome`: in every format the category and the message of an outcome can be read off.
-/

namespace CommandConsole.Terminal

/-! ## 1. Codes at the ends of a line -/

/-- A character between the bracket and the end of a code. -/
def isParameter (c : Char) : Bool := c.isDigit || c == ';'

/-- The line without the code that it begins with. -/
def dropFirstCode (line : List Char) : List Char :=
  match line with
  | '\x1b' :: '[' :: rest =>
    match rest.dropWhile isParameter with
    | 'm' :: behind => behind
    | _ => line
  | _ => line

/-- The line without the code that it ends with. -/
def dropLastCode (line : List Char) : List Char :=
  match line.reverse with
  | 'm' :: rest =>
    match rest.dropWhile isParameter with
    | '[' :: '\x1b' :: before => before.reverse
    | _ => line
  | _ => line

/-- The line without the codes at its two ends. -/
def unstyled (line : List Char) : List Char := dropLastCode (dropFirstCode line)

theorem dropFirstCode_on (s : Style) (line : List Char) :
    dropFirstCode (s.on.toList ++ line) = line := by
  cases s <;> rfl

theorem dropLastCode_allOff (line : List Char) : dropLastCode (line ++ allOff.toList) = line := by
  have hcode : (line ++ allOff.toList).reverse = 'm' :: '0' :: '[' :: '\x1b' :: line.reverse := by
    rw [List.reverse_append]
    rfl
  rw [dropLastCode, hcode]
  exact List.reverse_reverse line

theorem dropFirstCode_of_not_mem {line : List Char} (h : '\x1b' ∉ line) :
    dropFirstCode line = line := by
  unfold dropFirstCode
  split
  · exact absurd List.mem_cons_self h
  · rfl

theorem dropLastCode_of_not_mem {line : List Char} (h : '\x1b' ∉ line) :
    dropLastCode line = line := by
  unfold dropLastCode
  split
  · rename_i rest hrest
    split
    · rename_i before hbefore
      have hmem : '\x1b' ∈ rest.dropWhile isParameter := by
        rw [hbefore]
        exact List.mem_cons_of_mem _ List.mem_cons_self
      have hline : '\x1b' ∈ line.reverse := by
        rw [hrest]
        exact List.mem_cons_of_mem _ ((List.dropWhile_sublist _).subset hmem)
      exact absurd (List.mem_reverse.mp hline) h
    · rfl
  · rfl

/-- A style that is not switched off inside a text is not switched on again. -/
theorem resuming_of_not_mem {on line : List Char} (h : '\x1b' ∉ line) : resuming on line = line := by
  fun_induction resuming on line with
  | case1 rest ih => exact absurd List.mem_cons_self h
  | case2 c rest hno ih => rw [ih (List.not_mem_of_not_mem_cons h)]
  | case3 => rfl

theorem toList_styled (s : Style) {text : String} (h : '\x1b' ∉ text.toList) :
    (styled true s text).toList = s.on.toList ++ (text.toList ++ allOff.toList) := by
  rw [styled, if_pos rfl, String.toList_append, String.toList_append, String.toList_ofList,
    resuming_of_not_mem h, List.append_assoc]

/-- **The codes at the ends of a styled text are all that the style adds** to a text without codes. -/
theorem unstyled_styled (colour : Bool) (s : Style) {text : String} (h : '\x1b' ∉ text.toList) :
    unstyled (styled colour s text).toList = text.toList := by
  cases colour with
  | false =>
    have hplain : styled false s text = text := rfl
    rw [hplain, unstyled, dropFirstCode_of_not_mem h, dropLastCode_of_not_mem h]
  | true => rw [toList_styled s h, unstyled, dropFirstCode_on, dropLastCode_allOff]

/-- A styled text stays on one line. -/
theorem not_mem_styled (colour : Bool) (s : Style) {text : String} (h : '\x1b' ∉ text.toList)
    (hline : '\n' ∉ text.toList) : '\n' ∉ (styled colour s text).toList := by
  cases colour with
  | false => exact hline
  | true =>
    have hon : '\n' ∉ s.on.toList := by cases s <;> decide
    have hoff : '\n' ∉ allOff.toList := by decide
    rw [toList_styled s h, List.mem_append, List.mem_append]
    exact fun hmem => hmem.elim hon fun hmem => hmem.elim hline hoff

/-! ## 2. What is read off a text -/

/-- The first line of a text, without the codes at its two ends. -/
def shownLabel (shown : String) : String :=
  String.ofList (unstyled (shown.toList.takeWhile (· != '\n')))

/-- All that follows the first line feed of a text. -/
def shownMessage? (shown : String) : Option String :=
  match shown.toList.dropWhile (· != '\n') with
  | [] => none
  | _ :: message => some (String.ofList message)

/-- The text shows a message of an outcome: its first line is the label of one category, that of the
    outcome, and what follows is the message. -/
structure Shows (shown : String) (o : Outcome) : Prop where
  label : ∀ c : Category, c.label = some (shownLabel shown) ↔ c = o.category
  message : shownMessage? shown = o.message?

/-- **A text shows one outcome.** -/
theorem Shows.unique {shown : String} {o o' : Outcome} (h : Shows shown o) (h' : Shows shown o') :
    o = o' := by
  have hlabel : o.category.label = some (shownLabel shown) := (h.label o.category).mpr rfl
  have hcategory : o.category = o'.category := (h'.label o.category).mp hlabel
  have hmessage : o.message? = o'.message? := h.message.symm.trans h'.message
  cases o with
  | help catalog => cases hlabel
  | success m | error m | warning m =>
    cases o' <;> simp_all [Outcome.category, Outcome.message?]

/-- No two categories have the same label. -/
theorem label_injective : Function.Injective Category.label := by
  intro c c'
  cases c <;> cases c' <;> decide

/-- A label is one line and has no code in it. -/
theorem exists_label {c : Category} (h : c ≠ .help) :
    ∃ label, c.label = some label ∧ '\x1b' ∉ label.toList ∧ '\n' ∉ label.toList := by
  cases c with
  | success => exact ⟨_, rfl, by decide, by decide⟩
  | error => exact ⟨_, rfl, by decide, by decide⟩
  | warning => exact ⟨_, rfl, by decide, by decide⟩
  | help => exact absurd rfl h

/-! ## 3. Messages under their labels -/

/-- A line on top of a message is read off, whatever the message is. -/
theorem shown_of_line {line : String} (h : '\n' ∉ line.toList) (message : String) :
    shownLabel (line ++ "\n" ++ message) = String.ofList (unstyled line.toList) ∧
      shownMessage? (line ++ "\n" ++ message) = some message := by
  have htext : (line ++ "\n" ++ message).toList = line.toList ++ '\n' :: message.toList := by
    rw [String.toList_append, String.toList_append, List.append_assoc]
    rfl
  have hplain : ∀ c ∈ line.toList, (c != '\n') = true := fun c hc => by
    simpa using ne_of_mem_of_not_mem hc h
  constructor
  · rw [shownLabel, htext, Text.takeWhile_word hplain (by simp)]
  · rw [shownMessage?, htext, Text.dropWhile_word hplain (by simp)]
    exact congrArg some String.ofList_toList

/-- **A message under its label shows the outcome**, in every style and without one. -/
theorem shows_messageBlock (colour : Bool) (s : Style) {o : Outcome} {m : String}
    (ho : o.category ≠ .help) (hm : o.message? = some m) :
    Shows (messageBlock colour s o.category m) o := by
  obtain ⟨label, hlabel, hcode, hline⟩ := exists_label ho
  have hblock : messageBlock colour s o.category m = styled colour s label ++ "\n" ++ m := by
    rw [messageBlock, hlabel, Option.getD_some]
  obtain ⟨hshown, hmessage⟩ := shown_of_line (not_mem_styled colour s hcode hline) m
  rw [unstyled_styled colour s hcode, String.ofList_toList] at hshown
  constructor
  · intro c
    rw [hblock, hshown, ← hlabel]
    exact label_injective.eq_iff
  · rw [hblock, hmessage, hm]

theorem shows_outcomeBlock (colour : Bool) {o : Outcome} (ho : o.category ≠ .help) :
    Shows (outcomeBlock colour o) o := by
  cases o with
  | success m => exact shows_messageBlock (o := .success m) (m := m) colour .green ho rfl
  | error m => exact shows_messageBlock (o := .error m) (m := m) colour .red ho rfl
  | warning m => exact shows_messageBlock (o := .warning m) (m := m) colour .yellow ho rfl
  | help catalog => exact absurd rfl ho

/-- Without colour an outcome for reading is its plain text. -/
theorem outcomeBlock_false {o : Outcome} (ho : o.category ≠ .help) : outcomeBlock false o = o.text := by
  cases o with
  | success m | error m | warning m => rfl
  | help catalog => exact absurd rfl ho

theorem shows_text {o : Outcome} (ho : o.category ≠ .help) : Shows o.text o :=
  outcomeBlock_false ho ▸ shows_outcomeBlock false ho

/-! ## 4. Every format -/

theorem shows_renderOutcome {format : Format} (hformat : format ≠ .json) (colour : Bool) {o : Outcome}
    (ho : o.category ≠ .help) : Shows (renderOutcome format colour o) o := by
  cases format with
  | table => exact shows_outcomeBlock colour ho
  | json => exact absurd rfl hformat
  | plain => exact shows_text ho

/-- **Every rendering of a message keeps the outcome**, whatever the message is. Two outcomes that are not
    help are the same if their texts are, or their renderings in one format, with colour or without. In
    the text and in every format but JSON, the first line without the codes at its two ends is the label
    of exactly one category, that of the outcome, and what follows the first line feed is the message.
    Without colour the format for reading is the plain one. -/
theorem rendering_keeps_outcome {o : Outcome} (ho : o.category ≠ .help) :
    (∀ o' : Outcome, o'.category ≠ .help → o'.text = o.text → o' = o) ∧
    (∀ (o' : Outcome) (format : Format) (colour : Bool), o'.category ≠ .help →
      renderOutcome format colour o' = renderOutcome format colour o → o' = o) ∧
    Shows o.text o ∧
    (∀ (format : Format) (colour : Bool), format ≠ .json → Shows (renderOutcome format colour o) o) ∧
    ∀ colour, renderOutcome .table false o = renderOutcome .plain colour o := by
  refine ⟨fun o' ho' h => ?_, fun o' format colour ho' h => ?_, shows_text ho,
    fun format colour hformat => shows_renderOutcome hformat colour ho, fun _ => outcomeBlock_false ho⟩
  · exact (h ▸ shows_text ho').unique (shows_text ho)
  · by_cases hformat : format = .json
    · subst hformat
      exact Wire.pretty_injective h
    · exact (h ▸ shows_renderOutcome hformat colour ho').unique
        (shows_renderOutcome hformat colour ho)

/-- A message that begins with a label of its own, in its colour, is still told from an error. -/
theorem rendering_keeps_outcome_nested :
    (Outcome.warning "\x1b[1;31mError:\x1b[0m\nx").category ≠ .help ∧
      (Outcome.error "x").category ≠ .help ∧
      Shows "\x1b[1;33mWarning:\x1b[0m\n\x1b[1;31mError:\x1b[0m\nx"
        (.warning "\x1b[1;31mError:\x1b[0m\nx") ∧
      renderOutcome .table true (.error "x")
        ≠ renderOutcome .table true (.warning "\x1b[1;31mError:\x1b[0m\nx") := by
  have ho : (Outcome.warning "\x1b[1;31mError:\x1b[0m\nx").category ≠ .help := by decide
  have ho' : (Outcome.error "x").category ≠ .help := by decide
  obtain ⟨-, hinjective, -, hshows, -⟩ := rendering_keeps_outcome ho
  exact ⟨ho, ho', hshows .table true (by decide), fun h =>
    Outcome.noConfusion (hinjective _ .table true ho' h)⟩

end CommandConsole.Terminal
