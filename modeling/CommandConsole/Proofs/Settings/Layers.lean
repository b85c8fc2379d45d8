import CommandConsole.Proofs.Settings.Environment
import CommandConsole.Proofs.Settings.Saved
import Mathlib.Data.List.Nodup
import Mathlib.Tactic.Common

/-!
# The layers of the settings

The settings come from the defaults, a file, the environment and the options, and each layer goes over
those before it. A file may give any of the settings; what it leaves open keeps its default, whatever
stands beside it.

* `Settings.Layer`: settings any of which may be left open;
* `Settings.Layer.StandsIn`: a table gives exactly these, by name or by their place in an array;
* `Settings.load_of_gives`: a file comes to what it gives, and to the defaults for all else;
* `Settings.exists_gives`: there is a file for every choice of settings that the format can hold;
* `Settings.layered_settings`: what all layers come to.
-/

namespace CommandConsole.Settings

/-! ## 1. What a file gives -/

/-- Settings of which any may be left open. -/
structure Layer where
  listen : Option String := none
  runDelayMs : Option UInt64 := none
  required : Option Bool := none
  allowSkip : Option Bool := none
  ttlSecs : Option UInt64 := none
  idleTtlSecs : Option UInt64 := none

/-- A number as a value of a document. -/
def wordValue (n : UInt64) : Toml := .integer n.toNat

/-- The entry under a name in a table gives the fields of a table of its own: there is none, or it is a
    table, an array of the values of the fields in their order, or a moment, which has no such fields. -/
inductive TableAt (es : List (String × Toml)) (name : String) (fields : List String) :
    List (String × Toml) → Prop where
  | absent (h : es.lookup name = none) : TableAt es name fields []
  | table {cs : List (String × Toml)} (h : es.lookup name = some (.table cs)) :
      TableAt es name fields cs
  | array {vs : List Toml} (h : es.lookup name = some (.array vs)) :
      TableAt es name fields (fields.zip vs)
  | moment {written : String} (h : es.lookup name = some (.moment written)) :
      TableAt es name fields []

/-- The entries of a document give these settings and no others. Entries of other names may stand
    beside them. -/
structure Layer.StandsIn (f : Layer) (es : List (String × Toml)) : Prop where
  listen : es.lookup "listen" = f.listen.map Toml.string
  runDelayMs : es.lookup "run_delay_ms" = f.runDelayMs.map wordValue
  captcha : ∃ cs, TableAt es "captcha" ["required", "allow_skip", "ttl_secs"] cs ∧
    cs.lookup "required" = f.required.map Toml.boolean ∧
    cs.lookup "allow_skip" = f.allowSkip.map Toml.boolean ∧
    cs.lookup "ttl_secs" = f.ttlSecs.map wordValue
  session : ∃ cs, TableAt es "session" ["idle_ttl_secs"] cs ∧
    cs.lookup "idle_ttl_secs" = f.idleTtlSecs.map wordValue

/-- Where a file is looked for there is none, or one whose text is a document that gives these settings. -/
inductive Source.Gives : Source → Layer → Prop where
  | absent : Gives .absent {}
  | file {text : String} {es : List (String × Toml)} {f : Layer} (h : Toml.ofString text = some es)
      (hf : f.StandsIn es) : Gives (.file (Text.Utf8.encode text)) f

variable {es cs : List (String × Toml)} {name : String} {fields : List String} {f : Layer}
  {source : Source}

/-! ## 2. What a file comes to -/

theorem asWord_wordValue (n : UInt64) : Toml.asWord (wordValue n) = some n := by
  simp [Toml.asWord, wordValue]

/-- A field is what its entry gives, or else the default. -/
theorem field_eq_some {α : Type} {write : α → Toml} {read : Toml → Option α}
    (hread : ∀ a, read (write a) = some a) {a? : Option α} (h : es.lookup name = a?.map write)
    (default : α) : Toml.field es name read default = some (a?.getD default) := by
  rw [Toml.field, h]
  cases a? with
  | none => rfl
  | some a => exact hread a

/-- The fields of a table are read from its entry, or there is no entry and no fields. -/
theorem TableAt.cases (h : TableAt es name fields cs) :
    (es.lookup name = none ∧ cs = []) ∨ ∃ v, es.lookup name = some v ∧ v.fieldsOf fields = some cs := by
  cases h with
  | absent h => exact .inl ⟨h, rfl⟩
  | table h => exact .inr ⟨_, h, rfl⟩
  | array h => exact .inr ⟨_, h, rfl⟩
  | moment h => exact .inr ⟨_, h, rfl⟩

/-- The rules for captchas that a document gives. -/
theorem field_captcha {required allowSkip : Option Bool} {ttlSecs : Option UInt64}
    (h : TableAt es "captcha" ["required", "allow_skip", "ttl_secs"] cs)
    (hrequired : cs.lookup "required" = required.map Toml.boolean)
    (hskip : cs.lookup "allow_skip" = allowSkip.map Toml.boolean)
    (httl : cs.lookup "ttl_secs" = ttlSecs.map wordValue) :
    Toml.field es "captcha" CaptchaSettings.ofToml? CaptchaSettings.default = some
      { required := required.getD true
        allowSkip := allowSkip.getD true
        ttlSecs := ttlSecs.getD 300 } := by
  have hbool (b : Bool) : Toml.asBool (.boolean b) = some b := rfl
  rcases h.cases with ⟨hnone, rfl⟩ | ⟨v, hv, hfields⟩
  · have hleft {α : Type} {write : α → Toml} {a? : Option α} (h : none = a?.map write) : a? = none :=
      Option.map_eq_none_iff.mp h.symm
    rw [Toml.field, hnone, hleft hrequired, hleft hskip, hleft httl]
    rfl
  · rw [Toml.field, hv]
    simp only [CaptchaSettings.ofToml?, hfields, Option.bind_eq_bind, Option.bind_some,
      field_eq_some hbool hrequired, field_eq_some hbool hskip, field_eq_some asWord_wordValue httl]
    rfl

/-- The rules for sessions that a document gives. -/
theorem field_session {idleTtlSecs : Option UInt64} (h : TableAt es "session" ["idle_ttl_secs"] cs)
    (hidle : cs.lookup "idle_ttl_secs" = idleTtlSecs.map wordValue) :
    Toml.field es "session" SessionSettings.ofToml? SessionSettings.default
      = some { idleTtlSecs := idleTtlSecs.getD 1800 } := by
  rcases h.cases with ⟨hnone, rfl⟩ | ⟨v, hv, hfields⟩
  · rw [Toml.field, hnone, Option.map_eq_none_iff.mp hidle.symm]
    rfl
  · rw [Toml.field, hv]
    simp only [SessionSettings.ofToml?, hfields, Option.bind_eq_bind, Option.bind_some,
      field_eq_some asWord_wordValue hidle]
    rfl

/-- The settings that a layer comes to over the defaults. -/
def Layer.overDefaults (f : Layer) : Settings where
  listen := f.listen.getD "127.0.0.1:8080"
  runDelayMs := f.runDelayMs.getD 2000
  captcha := {
    required := f.required.getD true
    allowSkip := f.allowSkip.getD true
    ttlSecs := f.ttlSecs.getD 300 }
  session := { idleTtlSecs := f.idleTtlSecs.getD 1800 }

theorem ofEntries?_of_standsIn (h : f.StandsIn es) : ofEntries? es = some f.overDefaults := by
  obtain ⟨hlisten, hdelay, ⟨cs, hcs, hrequired, hskip, httl⟩, ss, hss, hidle⟩ := h
  have htext (t : String) : Toml.asString (.string t) = some t := rfl
  simp only [ofEntries?, field_eq_some htext hlisten, field_eq_some asWord_wordValue hdelay,
    field_captcha hcs hrequired hskip httl, field_session hss hidle]
  rfl

/-- **A file comes to what it gives, and to the defaults for all else.** -/
theorem load_of_gives (h : source.Gives f) : load source = .ok f.overDefaults := by
  cases h with
  | absent => rfl
  | file h hf =>
    have hentries := ofEntries?_of_standsIn hf
    simp only [load, Text.Utf8.strict?_encode, ofText, h, Option.bind_some, hentries]

/-! ## 3. A file for every layer -/

/-- The format holds the numbers of a layer: they are at most 2^63 - 1. -/
structure Layer.Fits (f : Layer) : Prop where
  runDelayMs : ∀ n ∈ f.runDelayMs, n.toNat ≤ 9223372036854775807
  ttlSecs : ∀ n ∈ f.ttlSecs, n.toNat ≤ 9223372036854775807
  idleTtlSecs : ∀ n ∈ f.idleTtlSecs, n.toNat ≤ 9223372036854775807

/-- A line for a setting, if it is given. -/
def givenLine {α : Type} (line : α → Toml.Line) (a? : Option α) : List Toml.Line :=
  (a?.map line).toList

/-- The table of the rules for captchas that a layer gives. -/
def Layer.captchaBlock (f : Layer) : Toml.Block where
  name := "captcha"
  lines := givenLine (boolLine "required") f.required
    ++ (givenLine (boolLine "allow_skip") f.allowSkip ++ givenLine (wordLine "ttl_secs") f.ttlSecs)

/-- The table of the rules for sessions that a layer gives. -/
def Layer.sessionBlock (f : Layer) : Toml.Block where
  name := "session"
  lines := givenLine (wordLine "idle_ttl_secs") f.idleTtlSecs

/-- A document that gives a layer and nothing else. -/
def Layer.document (f : Layer) : Toml.Document where
  lines := givenLine (textLine "listen") f.listen ++ givenLine (wordLine "run_delay_ms") f.runDelayMs
  blocks := [f.captchaBlock, f.sessionBlock]

/-- Lines that the reader understands, for some of these keys in their order. -/
structure LinesFor (keys : List String) (ls : List Toml.Line) : Prop where
  plain : ∀ l ∈ ls, l.Plain
  keys : (ls.map (·.key)).Sublist keys

theorem LinesFor.append {keys keys' : List String} {ls ls' : List Toml.Line} (h : LinesFor keys ls)
    (h' : LinesFor keys' ls') : LinesFor (keys ++ keys') (ls ++ ls') where
  plain := List.forall_mem_append.mpr ⟨h.plain, h'.plain⟩
  keys := by
    rw [List.map_append]
    exact h.keys.append h'.keys

theorem linesFor_givenLine {α : Type} {line : α → Toml.Line} {key : String}
    (hkey : ∀ a, (line a).key = key) {a? : Option α} (h : ∀ a ∈ a?, (line a).Plain) :
    LinesFor [key] (givenLine line a?) := by
  cases a? with
  | none => exact ⟨by simp [givenLine], List.nil_sublist _⟩
  | some a => exact ⟨by simpa [givenLine] using h, by simp [givenLine, hkey]⟩

theorem linesFor_text {key : String} (hkey : Toml.BareName key) (t? : Option String) :
    LinesFor [key] (givenLine (textLine key) t?) := by
  refine linesFor_givenLine ?_ ?_
  · exact fun _ => rfl
  · exact fun t _ => textLine_plain hkey t

theorem linesFor_bool {key : String} (hkey : Toml.BareName key) (b? : Option Bool) :
    LinesFor [key] (givenLine (boolLine key) b?) := by
  refine linesFor_givenLine ?_ ?_
  · exact fun _ => rfl
  · exact fun b _ => boolLine_plain hkey b

theorem linesFor_word {key : String} (hkey : Toml.BareName key) {n? : Option UInt64}
    (h : ∀ n ∈ n?, n.toNat ≤ 9223372036854775807) :
    LinesFor [key] (givenLine (wordLine key) n?) := by
  refine linesFor_givenLine ?_ ?_
  · exact fun _ => rfl
  · exact fun n hn => wordLine_plain hkey (h n hn)

theorem Layer.linesFor_captcha (h : f.Fits) :
    LinesFor ["required", "allow_skip", "ttl_secs"] f.captchaBlock.lines :=
  (linesFor_bool (by decide) f.required).append
    ((linesFor_bool (by decide) f.allowSkip).append (linesFor_word (by decide) h.ttlSecs))

theorem Layer.linesFor_session (h : f.Fits) : LinesFor ["idle_ttl_secs"] f.sessionBlock.lines :=
  linesFor_word (by decide) h.idleTtlSecs

theorem Layer.linesFor_document (h : f.Fits) :
    LinesFor ["listen", "run_delay_ms"] f.document.lines :=
  (linesFor_text (by decide) f.listen).append (linesFor_word (by decide) h.runDelayMs)

/-- The document of a layer is one that the reader understands. -/
theorem Layer.document_plain (h : f.Fits) : f.document.Plain := by
  have hcaptcha : f.captchaBlock.Plain := by
    have hname : Toml.BareName "captcha" := by decide
    have hkeys : ["required", "allow_skip", "ttl_secs"].Nodup := by decide
    exact ⟨hname, (linesFor_captcha h).plain, hkeys.sublist (linesFor_captcha h).keys⟩
  have hsession : f.sessionBlock.Plain := by
    have hname : Toml.BareName "session" := by decide
    have hkeys : ["idle_ttl_secs"].Nodup := by decide
    exact ⟨hname, (linesFor_session h).plain, hkeys.sublist (linesFor_session h).keys⟩
  have hkeys : ["listen", "run_delay_ms", "captcha", "session"].Nodup := by decide
  refine ⟨(linesFor_document h).plain, ?_, hkeys.sublist ?_⟩
  · simpa [Layer.document] using ⟨hcaptcha, hsession⟩
  · exact (linesFor_document h).keys.append (List.Sublist.refl ["captcha", "session"])

/-- The document of a layer gives the layer. -/
theorem Layer.standsIn_document (f : Layer) : f.StandsIn f.document.entries := by
  obtain ⟨listen, runDelayMs, required, allowSkip, ttlSecs, idleTtlSecs⟩ := f
  constructor
  · cases listen <;> cases runDelayMs <;> rfl
  · cases listen <;> cases runDelayMs <;> rfl
  · refine ⟨_, .table (by cases listen <;> cases runDelayMs <;> rfl), ?_, ?_, ?_⟩
    all_goals cases required <;> cases allowSkip <;> cases ttlSecs <;> rfl
  · refine ⟨_, .table (by cases listen <;> cases runDelayMs <;> rfl), ?_⟩
    cases idleTtlSecs <;> rfl

/-- **There is a file for every layer** whose numbers the format holds. -/
theorem exists_gives (h : f.Fits) : ∃ text, (Source.file (Text.Utf8.encode text)).Gives f := by
  have hread : Toml.ofString (String.ofList f.document.chars) = some f.document.entries := by
    rw [Toml.ofString, String.toList_ofList, Toml.ofChars_document (Layer.document_plain h)]
  exact ⟨String.ofList f.document.chars, .file hread f.standsIn_document⟩

/-! ## 4. All layers -/

variable {address delay listen : Option String} {option : Option UInt64} {n : Option UInt64}

theorem layered_of_given (hfile : source.Gives f) (hdelay : DelayGiven delay n)
    (address listen : Option String) (option : Option UInt64) :
    layered source address delay listen option = .ok
      { f.overDefaults with
        listen := listen.getD ((addressGiven address).getD f.overDefaults.listen)
        runDelayMs := option.getD (n.getD f.overDefaults.runDelayMs) } := by
  rw [layered, load_of_gives hfile]
  simp only [bind, Except.bind, applyEnvironment_of_given hdelay]
  rfl

theorem layered_of_refused (hfile : source.Gives f) {v : String} (hdelay : DelayRefused delay v)
    (address listen : Option String) (option : Option UInt64) :
    layered source address delay listen option
      = .error (.invalidConfig ("CYSIM_RUN_DELAY_MS=" ++ v)) := by
  rw [layered, load_of_gives hfile]
  simp only [bind, Except.bind, applyEnvironment_of_refused hdelay]

/-- What the layers over a file come to that gives `f`. -/
structure Layering (source : Source) (f : Layer) (address delay listen : Option String)
    (option : Option UInt64) : Prop where
  /-- Nothing is refused but a delay from the environment. Each setting is what the last layer gives
      that gives it at all; only the address and the delay are in layers behind the file. -/
  settings : ∀ s, layered source address delay listen option = .ok s ↔
    ∃ n, DelayGiven delay n ∧ s =
      { listen := listen.getD ((addressGiven address).getD (f.listen.getD "127.0.0.1:8080"))
        runDelayMs := option.getD (n.getD (f.runDelayMs.getD 2000))
        captcha := {
          required := f.required.getD true
          allowSkip := f.allowSkip.getD true
          ttlSecs := f.ttlSecs.getD 300 }
        session := { idleTtlSecs := f.idleTtlSecs.getD 1800 } }
  /-- The environment and the options go over settings of any origin. -/
  overlay : ∀ (base : Settings) (n : Option UInt64), DelayGiven delay n →
    ∃ s, base.applyEnvironment address delay = (.ok (), s) ∧ s.withOptions listen option =
      { base with
        listen := listen.getD ((addressGiven address).getD base.listen)
        runDelayMs := option.getD (n.getD base.runDelayMs) }
  /-- The environment is refused for a delay that is neither blank nor a number, and for nothing else. -/
  refused : ∀ (base : Settings) (e : Failure), (base.applyEnvironment address delay).1 = .error e ↔
    ∃ v, DelayRefused delay v ∧ e = .invalidConfig ("CYSIM_RUN_DELAY_MS=" ++ v)
  /-- Refused or not, the environment and the options leave the rules for captchas and sessions. -/
  untouched : ∀ base : Settings,
    ((base.applyEnvironment address delay).2.withOptions listen option).captcha = base.captcha ∧
      ((base.applyEnvironment address delay).2.withOptions listen option).session = base.session
  twice : ∀ base : Settings,
    (base.applyEnvironment address delay).2.applyEnvironment address delay
      = base.applyEnvironment address delay

/-- **Each setting is what the last layer gives that gives it at all**, whatever stands beside it. Any
    choice of settings can be given by a file if the format holds its numbers. -/
theorem layered_settings (f : Layer) (address delay listen : Option String)
    (option : Option UInt64) :
    (f.Fits → ∃ text, (Source.file (Text.Utf8.encode text)).Gives f) ∧
      ∀ source, source.Gives f → Layering source f address delay listen option := by
  refine ⟨exists_gives, fun source hfile => ⟨fun s => ?_, fun base n hn => ?_, fun base e => ?_,
    fun base => ?_, fun base => ?_⟩⟩
  · constructor
    · intro hs
      rcases delayGiven_or_refused delay with ⟨n, hn⟩ | ⟨v, hv⟩
      · rw [layered_of_given hfile hn] at hs
        exact ⟨n, hn, (Except.ok.inj hs).symm⟩
      · rw [layered_of_refused hfile hv] at hs
        cases hs
    · rintro ⟨n, hn, rfl⟩
      exact layered_of_given hfile hn address listen option
  · exact ⟨_, applyEnvironment_of_given hn base address, rfl⟩
  · exact applyEnvironment_eq_error_iff base address delay e
  · rcases delayGiven_or_refused delay with ⟨n, hn⟩ | ⟨v, hv⟩
    · rw [applyEnvironment_of_given hn]
      exact ⟨rfl, rfl⟩
    · rw [applyEnvironment_of_refused hv]
      exact ⟨rfl, rfl⟩
  · exact applyEnvironment_twice base address delay

/-- A file with a dotted key, a table in braces and a name that is not known; a blank variable for the
    address, and one for the delay with a sign, zeros and blanks. -/
theorem layered_settings_dotted :
    (Source.file (Text.Utf8.encode
        "captcha.required = false # off\nsession = \x7bidle_ttl_secs = 60\x7d\nother = [1]")).Gives
          { required := some false, idleTtlSecs := some 60 } ∧
      layered (.file (Text.Utf8.encode
        "captcha.required = false # off\nsession = \x7bidle_ttl_secs = 60\x7d\nother = [1]"))
          (some "\u2003") (some " +0015\n") none none
        = .ok
          { listen := "127.0.0.1:8080"
            runDelayMs := 15
            captcha := { required := false, allowSkip := true, ttlSecs := 300 }
            session := { idleTtlSecs := 60 } } := by
  have hread : Toml.ofString
      "captcha.required = false # off\nsession = \x7bidle_ttl_secs = 60\x7d\nother = [1]"
        = some [("captcha", .table [("required", .boolean false)]),
          ("session", .table [("idle_ttl_secs", .integer 60)]), ("other", .array [.integer 1])] := by
    decide +kernel
  have hstands : ({ required := some false, idleTtlSecs := some 60 } : Layer).StandsIn
      [("captcha", .table [("required", .boolean false)]),
        ("session", .table [("idle_ttl_secs", .integer 60)]), ("other", .array [.integer 1])] :=
    ⟨rfl, rfl, ⟨_, .table rfl, rfl, rfl, rfl⟩, _, .table rfl, rfl⟩
  have hfile := Source.Gives.file hread hstands
  have hdelay : DelayGiven (some " +0015\n") (some 15) :=
    .number ⟨['+'], "0015".toList, by decide +kernel, .inr rfl, by decide,
      List.all_eq_true.mp (by decide), by decide +kernel⟩
  refine ⟨hfile, (((layered_settings _ _ _ _ _).2 _ hfile).settings _).mpr ⟨_, hdelay, ?_⟩⟩
  decide +kernel

end CommandConsole.Settings
