import CommandConsole.CommandLine.Console
import CommandConsole.Proofs.Text.Lines
import CommandConsole.Proofs.Text.Utf8

/-!
# The loop is the line-wise map of one evaluation

The loop reads lines, leaves at `exit` and `quit`, passes blank lines over and fails at a line that
is no text. Said without a loop: the input is split at its line feeds; the texts in front of the
first line that ends the loop are heard, and those of them that are not blank are run. Output, tally
and time are each a function of the list of lines that are run.

* `Heard`: which texts an input says to the loop, and how it ends. Every input has such a reading.
* `Linewise`: what the loop does with them.
* `Repl.run_linewise`: the loop is line-wise for every input and every setting.
-/

namespace CommandConsole.Terminal

open Text.Utf8 (encode strict? strict?_encode strict?_eq_some)

/-! ## 1. What an input says -/

/-- A line that ends the loop: a text that is `exit` or `quit` between blanks. -/
def Leaves (bytes : List UInt8) : Prop :=
  ∃ line, bytes = encode line ∧ (Text.trimmed line = "exit" ∨ Text.trimmed line = "quit")

/-- A line that is no text. -/
def Damaged (bytes : List UInt8) : Prop := ∀ line, bytes ≠ encode line

/-- How the lines go on where nothing more is heard, and whether that is a good end: the input is
    over, a line leaves, or a line is no text. -/
inductive Ends : List (List UInt8) → Bool → Prop where
  | ended : Ends [] true
  | left {bytes : List UInt8} {more : List (List UInt8)} (h : Leaves bytes) :
      Ends (bytes :: more) true
  | damaged {bytes : List UInt8} {more : List (List UInt8)} (h : Damaged bytes) :
      Ends (bytes :: more) false

/-- An input says these texts to the loop, and ends well or not. -/
structure Heard (input : List UInt8) (texts : List String) (good : Bool) : Prop where
  lines : ∃ rest, Ends rest good ∧ Text.linesBetween 10 13 input = texts.map encode ++ rest
  staying : ∀ line ∈ texts, ¬ Leaves (encode line)

/-- A line is one of three: it leaves, it is no text, or it is a text that stays. -/
theorem leaves_or_damaged_or_stays (bytes : List UInt8) :
    Leaves bytes ∨ Damaged bytes ∨ ∃ line, bytes = encode line ∧ ¬ Leaves (encode line) := by
  by_cases hl : Leaves bytes
  · exact .inl hl
  by_cases hd : Damaged bytes
  · exact .inr (.inl hd)
  · obtain ⟨line, hline⟩ := not_forall.1 hd
    exact .inr (.inr ⟨line, not_not.1 hline, not_not.1 hline ▸ hl⟩)

/-- Every list of lines has texts that are heard and an end. -/
theorem exists_texts (lines : List (List UInt8)) :
    ∃ (texts : List String) (rest : List (List UInt8)) (good : Bool),
      Ends rest good ∧ lines = texts.map encode ++ rest ∧
        ∀ line ∈ texts, ¬ Leaves (encode line) := by
  induction lines with
  | nil => exact ⟨[], [], true, .ended, rfl, by simp⟩
  | cons bytes more ih =>
    obtain h | h | ⟨line, rfl, hline⟩ := leaves_or_damaged_or_stays bytes
    · exact ⟨[], bytes :: more, true, .left h, rfl, by simp⟩
    · exact ⟨[], bytes :: more, false, .damaged h, rfl, by simp⟩
    · obtain ⟨texts, rest, good, hends, rfl, hstay⟩ := ih
      exact ⟨line :: texts, rest, good, hends, rfl, List.forall_mem_cons.2 ⟨hline, hstay⟩⟩

/-- Every input says something to the loop. -/
theorem exists_heard (input : List UInt8) : ∃ texts good, Heard input texts good := by
  obtain ⟨texts, rest, good, hends, hlines, hstay⟩ :=
    exists_texts (Text.linesBetween 10 13 input)
  exact ⟨texts, good, ⟨rest, hends, hlines⟩, hstay⟩

/-! ## 2. What a line asks -/

theorem isLeaving_iff (line : String) : Repl.isLeaving line = true ↔ Leaves (encode line) := by
  have same : Repl.isLeaving line = true ↔
      Text.trimmed line = "exit" ∨ Text.trimmed line = "quit" := by
    simp [Repl.isLeaving]
  rw [same]
  constructor
  · exact fun h => ⟨line, rfl, h⟩
  · rintro ⟨line', heq, h⟩
    -- a text is determined by its bytes
    have := (strict?_encode line).symm.trans ((congrArg strict? heq).trans (strict?_encode line'))
    rwa [Option.some.inj this]

/-- A line can be run if something is left of it when it is trimmed. -/
theorem canRun_iff (line : String) : canRun line = true ↔ Text.trimmed line ≠ "" := by
  rw [canRun, Bool.not_eq_true', ← Bool.not_eq_true, ne_eq, Text.trimmed_eq_empty_iff]

/-- A run of a line that is not blank is not refused. -/
theorem start_of_canRun {line : String} (h : canRun line = true) (delay : Nat) :
    (Trigger.ofDelay delay).start 0 line = .ok { outcome := evaluate line, dueAt := delay } := by
  simp [Trigger.start, Trigger.evaluateNow, Trigger.ofDelay, evaluate, h, Except.map]

namespace Repl

variable (r : Repl)

theorem move_of_leaves {bytes : List UInt8} (h : Leaves bytes) : r.move bytes = .leave := by
  obtain ⟨line, rfl, -⟩ := id h
  simp [move, (isLeaving_iff line).2 h]

theorem move_of_damaged {bytes : List UInt8} (h : Damaged bytes) : r.move bytes = .refuse := by
  have : strict? bytes = none := by
    cases hs : strict? bytes with
    | none => rfl
    | some line => exact absurd (strict?_eq_some.1 hs) (h line)
  simp [move, this]

/-- A text that stays is passed over if it is blank, and is run otherwise: a run that the loop
    starts is never refused. -/
theorem move_encode {line : String} (h : ¬ Leaves (encode line)) :
    r.move (encode line)
      = if canRun line then .run { outcome := evaluate line, dueAt := r.delay } else .pass := by
  have hleave : isLeaving line = false := by
    rw [← Bool.not_eq_true, isLeaving_iff]
    exact h
  cases hrun : canRun line with
  | false => simp [move, hleave, hrun]
  | true => simp [move, hleave, hrun, start_of_canRun hrun]

end Repl

/-! ## 3. What the loop does -/

/-- The lines that are run: all that are not blank, untrimmed. -/
def ranLines (texts : List String) : List String :=
  texts.filter fun line => Text.trimmed line ≠ ""

/-- The tally of outcomes of these categories. -/
def Tally.ofCategories (cs : List Category) : Tally :=
  { successes := cs.count .success, errors := cs.count .error
    warnings := cs.count .warning, help := cs.count .help }

/-- What the loop writes behind the prompt for a line that it hears. -/
def reply (r : Repl) (line : String) : String :=
  if Text.trimmed line = "" then "" else renderOutcome r.format r.colour (evaluate line) ++ "\n"

/-- What the loop does with an input that says `texts` and ends well or not. -/
structure Linewise (r : Repl) (input : List UInt8) (texts : List String) (good : Bool) : Prop where
  complete : (r.run input).complete = good
  /-- Where nobody types, only the outcomes are written, each with a line end behind it. -/
  quiet : r.interactive = false → (r.run input).output =
    .join ((ranLines texts).map fun line =>
      renderOutcome r.format r.colour (evaluate line) ++ "\n")
  /-- Where someone types, there are also the banner and a prompt for each line that is read, the
      one at which the loop ends included. -/
  typed : r.interactive = true → (r.run input).output =
    Repl.banner ++ .join (texts.map fun line => "> " ++ reply r line) ++ "> "
  /-- Each of these outcomes is the one that a single evaluation of the line shows. -/
  oneShot : ∀ line ∈ ranLines texts, ∀ delayMs,
    CommandLine.evalOnce r.format r.colour line delayMs =
      { code := exitCode (evaluate line)
        output := renderOutcome r.format r.colour (evaluate line) ++ "\n", complaint := "" }
  tally : (r.run input).tally =
    .ofCategories ((ranLines texts).map fun line => (evaluate line).category)
  runs : (r.run input).tally.runs = (ranLines texts).length
  elapsed : (r.run input).elapsed = (ranLines texts).length * r.delay

theorem Tally.record_ofCategories (cs : List Category) (c : Category) :
    (ofCategories cs).record c = ofCategories (c :: cs) := by
  cases c <;> simp [record, ofCategories]

theorem Tally.runs_ofCategories (cs : List Category) : (ofCategories cs).runs = cs.length := by
  induction cs with
  | nil => rfl
  | cons c cs ih =>
    rw [← record_ofCategories, List.length_cons, ← ih]
    cases c <;> simp only [record, runs] <;> omega

/-- The pieces that the loop writes for a line that it hears, the prompt included. -/
def piecesOf (r : Repl) (line : String) : List String :=
  r.prompt :: if canRun line then [r.shown (evaluate line)] else []

theorem ranLines_cons (line : String) (texts : List String) :
    ranLines (line :: texts)
      = if canRun line then line :: ranLines texts else ranLines texts := by
  simp only [ranLines, List.filter_cons, decide_eq_true_eq, canRun_iff]

theorem reply_eq (r : Repl) (line : String) :
    reply r line = if canRun line then r.shown (evaluate line) else "" := by
  rw [reply]
  split_ifs with h₁ h₂ h₂
  · exact absurd h₁ ((canRun_iff line).1 h₂)
  · rfl
  · rfl
  · exact absurd ((canRun_iff line).2 h₁) h₂

/-- What is written up to the last prompt is a prompt and a reply for each line. -/
theorem join_piecesOf (r : Repl) (texts : List String) :
    String.join (texts.flatMap (piecesOf r))
      = .join (texts.map fun line => r.prompt ++ reply r line) := by
  induction texts with
  | nil => rfl
  | cons line texts ih =>
    rw [List.flatMap_cons, String.join_append, ih, List.map_cons, String.join_cons, reply_eq,
      piecesOf, String.join_cons]
    cases canRun line <;> simp

/-- Blank lines have no reply, so the replies are the outcomes of the lines that are run. -/
theorem join_reply (r : Repl) (texts : List String) :
    String.join (texts.map (reply r))
      = .join ((ranLines texts).map fun line => r.shown (evaluate line)) := by
  induction texts with
  | nil => simp [ranLines]
  | cons line texts ih =>
    rw [List.map_cons, String.join_cons, ih, ranLines_cons, reply_eq]
    cases canRun line <;> simp

namespace Repl

variable (r : Repl)

theorem runLines_of_ends {rest : List (List UInt8)} {good : Bool} (h : Ends rest good) :
    r.runLines rest = (Transcript.ending good).after r.prompt := by
  cases h with
  | ended => rfl
  | left h => rw [runLines, r.move_of_leaves h]
  | damaged h => rw [runLines, r.move_of_damaged h]

/-- **The whole run**: the induction goes over the texts that are heard; the tally and the time grow
    with each line that is run, and nothing else changes them. -/
theorem runLines_texts {texts : List String} {rest : List (List UInt8)} {good : Bool}
    (hends : Ends rest good) (hstay : ∀ line ∈ texts, ¬ Leaves (encode line)) :
    r.runLines (texts.map encode ++ rest) =
      { pieces := texts.flatMap (piecesOf r) ++ [r.prompt]
        tally := .ofCategories ((ranLines texts).map fun line => (evaluate line).category)
        elapsed := (ranLines texts).length * r.delay
        complete := good } := by
  induction texts with
  | nil =>
    rw [List.map_nil, List.nil_append, r.runLines_of_ends hends]
    simp [Transcript.after, Transcript.ending, ranLines, Tally.zero, Tally.ofCategories]
  | cons line texts ih =>
    obtain ⟨hline, hmore⟩ := List.forall_mem_cons.1 hstay
    rw [List.map_cons, List.cons_append, runLines, r.move_encode hline, ih hmore, ranLines_cons,
      List.flatMap_cons, piecesOf]
    cases canRun line with
    | false => simp [Transcript.after]
    | true =>
      simp only [if_true, Transcript.after, Transcript.counting, Tally.record_ofCategories,
        List.map_cons, List.length_cons, List.cons_append, List.nil_append]
      rw [Nat.succ_mul, Nat.add_comm]

/-- The banner is all that the run adds to the loop over the lines. -/
theorem run_eq (input : List UInt8) :
    r.run input =
      { r.runLines (Text.byteLines input) with
        pieces := (if r.interactive then [banner] else [])
          ++ (r.runLines (Text.byteLines input)).pieces } := by
  cases hi : r.interactive <;> simp [run, hi, Transcript.after]

theorem linewise_of_heard {input : List UInt8} {texts : List String} {good : Bool}
    (h : Heard input texts good) : Linewise r input texts good := by
  obtain ⟨⟨rest, hends, hlines⟩, hstay⟩ := h
  have hrun := r.run_eq input
  rw [Text.byteLines_eq, hlines, r.runLines_texts hends hstay] at hrun
  have hout : (r.run input).output = (if r.interactive then banner else "")
      ++ .join (texts.map fun line => r.prompt ++ reply r line) ++ r.prompt := by
    rw [hrun, Transcript.output, String.join_append, String.join_append, join_piecesOf]
    cases r.interactive <;> simp [String.append_assoc]
  refine ⟨by rw [hrun], fun hi => ?_, fun hi => ?_, fun line hline delayMs => ?_, by rw [hrun], ?_,
    by rw [hrun]⟩
  · have hprompt : r.prompt = "" := by simp [prompt, hi]
    simp only [hout, hi, hprompt, Bool.false_eq_true, if_false, String.empty_append,
      String.append_empty]
    exact join_reply r texts
  · have hprompt : r.prompt = "> " := by simp [prompt, hi]
    simp only [hout, hi, hprompt, if_true]
  · have hcan : canRun line = true := by simpa [ranLines, canRun_iff] using (List.mem_filter.1 hline).2
    simp [CommandLine.evalOnce, start_of_canRun hcan]
  · rw [hrun, Tally.runs_ofCategories, List.length_map]

/-- What stands behind a line that leaves is not looked at. -/
theorem runLines_append {lines more : List (List UInt8)} (h : ∃ bytes ∈ lines, Leaves bytes) :
    r.runLines (lines ++ more) = r.runLines lines := by
  induction lines with
  | nil => simp at h
  | cons bytes lines ih =>
    rw [List.cons_append, runLines, runLines]
    by_cases hb : Leaves bytes
    · rw [r.move_of_leaves hb]
    · obtain ⟨bytes', hmem, hleaves⟩ := h
      have hmem' : bytes' ∈ lines :=
        (List.mem_cons.1 hmem).resolve_left fun heq => hb (heq ▸ hleaves)
      rw [ih ⟨bytes', hmem', hleaves⟩]

theorem run_append {front more : List UInt8}
    (h : ∃ bytes ∈ Text.linesBetween 10 13 (front ++ [10]), Leaves bytes) :
    r.run (front ++ 10 :: more) = r.run (front ++ [10]) := by
  have hlines : Text.byteLines (front ++ 10 :: more)
      = Text.byteLines (front ++ [10]) ++ Text.byteLines more :=
    Text.linesFrom_append_feed 10 13 [] front more
  rw [← Text.byteLines_eq] at h
  rw [run_eq, run_eq, hlines, r.runLines_append h]

/-- **The loop is the line-wise map of one evaluation.** Every input says some texts to the loop and
    ends well or not, and what the loop does with them is `Linewise`: it fails only at a line that
    is no text, and has then written the answers to the lines before. What stands behind a line that
    leaves has no effect. -/
theorem run_linewise (r : Repl) (input : List UInt8) :
    (∃ texts good, Heard input texts good) ∧
    (∀ texts good, Heard input texts good → Linewise r input texts good) ∧
    ∀ front more, (∃ bytes ∈ Text.linesBetween 10 13 (front ++ [10]), Leaves bytes) →
      r.run (front ++ 10 :: more) = r.run (front ++ [10]) :=
  ⟨exists_heard input, fun _ _ h => r.linewise_of_heard h, fun _ _ h => r.run_append h⟩

end Repl

end CommandConsole.Terminal
