import CommandConsole.Proofs.Settings.Folder
import CommandConsole.Proofs.Text.Utf8
import CommandConsole.Proofs.Toml.Document

/-!
# Saved settings load back unchanged

Settings are saved as a document of plain keys, which is read back as the table it was written from,
and this table gives every setting again.

* `Fits`: the settings whose numbers the format can hold.
* `toText_eq_ok`, `toText_eq_error`: exactly these have a text, and it is that of their document.
* `saveTo_loads`: where a path takes a file, they are saved, and loading gives them back. Other
  settings are refused, and nothing in the folder has changed.
-/

namespace CommandConsole

/-! ## 1. Fields -/

/-- A field is the first value of its name, or else what the values behind it give. -/
theorem Toml.field_cons {α : Type} (k : String) (v : Toml) (es : List (String × Toml))
    (name : String) (read : Toml → Option α) (default : α) :
    field ((k, v) :: es) name read default
      = if name = k then read v else field es name read default := by
  rw [field, List.lookup_cons]
  by_cases h : name = k
  · simp [h]
  · have hkey : (name == k) = false := by simpa using h
    rw [hkey, if_neg h, field]

namespace Settings

variable {s : Settings}

/-! ## 2. The text of a file -/

/-- The format holds the numbers of the settings: they are at most 2^63 - 1. -/
structure Fits (s : Settings) : Prop where
  runDelayMs : s.runDelayMs.toNat ≤ 9223372036854775807
  ttlSecs : s.captcha.ttlSecs.toNat ≤ 9223372036854775807
  idleTtlSecs : s.session.idleTtlSecs.toNat ≤ 9223372036854775807

/-- A line that gives a number. -/
def wordLine (key : String) (n : UInt64) : Toml.Line :=
  { key := key, text := Nat.toDigits 10 n.toNat, denoted := .integer n.toNat }

/-- A line that gives a truth value. -/
def boolLine (key : String) (b : Bool) : Toml.Line :=
  { key := key, text := (writeBool b).toList, denoted := .boolean b }

/-- A line that gives a text. -/
def textLine (key t : String) : Toml.Line :=
  { key := key, text := Toml.writeString t.toList, denoted := .string t }

/-- The table of the rules for captchas. -/
def captchaBlock (c : CaptchaSettings) : Toml.Block where
  name := "captcha"
  lines := [boolLine "required" c.required, boolLine "allow_skip" c.allowSkip,
    wordLine "ttl_secs" c.ttlSecs]

/-- The table of the rules for sessions. -/
def sessionBlock (c : SessionSettings) : Toml.Block where
  name := "session"
  lines := [wordLine "idle_ttl_secs" c.idleTtlSecs]

/-- The document that settings are saved as. -/
def document (s : Settings) : Toml.Document where
  lines := [textLine "listen" s.listen, wordLine "run_delay_ms" s.runDelayMs]
  blocks := [captchaBlock s.captcha, sessionBlock s.session]

theorem writeWord_eq_ok {n : UInt64} (h : n.toNat ≤ 9223372036854775807) :
    writeWord n = .ok (String.ofList (Nat.toDigits 10 n.toNat)) := by
  rw [writeWord, if_pos h]
  rfl

/-- Settings that fit are written as their document. -/
theorem toText_eq_ok (h : s.Fits) : s.toText = .ok (String.ofList s.document.chars) := by
  have hdelay := writeWord_eq_ok h.runDelayMs
  have hcaptcha := writeWord_eq_ok h.ttlSecs
  have hsession := writeWord_eq_ok h.idleTtlSecs
  simp only [toText, hdelay, hcaptcha, hsession]
  refine congrArg Except.ok (String.toList_inj.1 ?_)
  simp [line, document, Toml.Document.chars, Toml.Block.chars, Toml.Line.chars, captchaBlock,
    sessionBlock, textLine, boolLine, wordLine]

/-- A number that does not fit is refused. -/
theorem toText_eq_error (h : ¬ s.Fits) : ∃ m, s.toText = .error (.invalidConfig m) := by
  have refused {n : UInt64} (hn : ¬ n.toNat ≤ 9223372036854775807) :
      ∃ m, writeWord n = .error (.invalidConfig m) := ⟨_, if_neg hn⟩
  by_cases hdelay : s.runDelayMs.toNat ≤ 9223372036854775807
  · by_cases hcaptcha : s.captcha.ttlSecs.toNat ≤ 9223372036854775807
    · have hsession : ¬ s.session.idleTtlSecs.toNat ≤ 9223372036854775807 :=
        fun hsession => h ⟨hdelay, hcaptcha, hsession⟩
      obtain ⟨m, hm⟩ := refused hsession
      exact ⟨m, by simp only [toText, writeWord_eq_ok hdelay, writeWord_eq_ok hcaptcha, hm]; rfl⟩
    · obtain ⟨m, hm⟩ := refused hcaptcha
      exact ⟨m, by simp only [toText, writeWord_eq_ok hdelay, hm]; rfl⟩
  · obtain ⟨m, hm⟩ := refused hdelay
    exact ⟨m, by simp only [toText, hm]; rfl⟩

/-! ## 3. Reading it back -/

theorem wordLine_plain {key : String} {n : UInt64} (hkey : Toml.BareName key)
    (h : n.toNat ≤ 9223372036854775807) : (wordLine key n).Plain :=
  ⟨hkey, Toml.denotes_integer h⟩

theorem boolLine_plain {key : String} (hkey : Toml.BareName key) (b : Bool) :
    (boolLine key b).Plain :=
  ⟨hkey, Toml.denotes_boolean b⟩

theorem textLine_plain {key : String} (hkey : Toml.BareName key) (t : String) :
    (textLine key t).Plain := by
  have ht := Toml.denotes_string t.toList
  rw [String.ofList_toList] at ht
  exact ⟨hkey, ht⟩

/-- The document of settings that fit is one that the reader understands. -/
theorem document_plain (h : s.Fits) : s.document.Plain := by
  have hlisten : (textLine "listen" s.listen).Plain := textLine_plain (by decide) _
  have hdelay : (wordLine "run_delay_ms" s.runDelayMs).Plain :=
    wordLine_plain (by decide) h.runDelayMs
  have hrequired : (boolLine "required" s.captcha.required).Plain := boolLine_plain (by decide) _
  have hskip : (boolLine "allow_skip" s.captcha.allowSkip).Plain := boolLine_plain (by decide) _
  have httl : (wordLine "ttl_secs" s.captcha.ttlSecs).Plain := wordLine_plain (by decide) h.ttlSecs
  have hidle : (wordLine "idle_ttl_secs" s.session.idleTtlSecs).Plain :=
    wordLine_plain (by decide) h.idleTtlSecs
  have hcaptcha : (captchaBlock s.captcha).Plain := by
    have hname : Toml.BareName "captcha" := by decide
    have hkeys : ["required", "allow_skip", "ttl_secs"].Nodup := by decide
    refine ⟨hname, ?_, hkeys⟩
    simpa [captchaBlock] using ⟨hrequired, hskip, httl⟩
  have hsession : (sessionBlock s.session).Plain := by
    have hname : Toml.BareName "session" := by decide
    have hkeys : ["idle_ttl_secs"].Nodup := by decide
    refine ⟨hname, ?_, hkeys⟩
    simpa [sessionBlock] using hidle
  have hnames : ["listen", "run_delay_ms", "captcha", "session"].Nodup := by decide
  refine ⟨?_, ?_, hnames⟩
  · simpa [document] using ⟨hlisten, hdelay⟩
  · simpa [document] using ⟨hcaptcha, hsession⟩

/-- The table of the saved settings gives them again. -/
theorem ofEntries?_document (s : Settings) : ofEntries? s.document.entries = some s := by
  have hword (n : UInt64) : Toml.asWord (.integer n.toNat) = some n := by
    simp [Toml.asWord]
  have hcaptcha : CaptchaSettings.ofToml? (captchaBlock s.captcha).entry.2 = some s.captcha := by
    simp [CaptchaSettings.ofToml?, captchaBlock, Toml.Block.entry, Toml.fieldsOf, Toml.Line.entry,
      Toml.field_cons, boolLine, wordLine, Toml.asBool, hword]
  have hsession : SessionSettings.ofToml? (sessionBlock s.session).entry.2 = some s.session := by
    simp [SessionSettings.ofToml?, sessionBlock, Toml.Block.entry, Toml.fieldsOf, Toml.Line.entry,
      Toml.field_cons, wordLine, hword]
  have hentries : s.document.entries = [
      ("listen", .string s.listen), ("run_delay_ms", .integer s.runDelayMs.toNat),
      ("captcha", (captchaBlock s.captcha).entry.2),
      ("session", (sessionBlock s.session).entry.2)] := rfl
  rw [hentries]
  simp [ofEntries?, Toml.field_cons, Toml.asString, hword, hcaptcha, hsession]

/-- The text of settings is read as these settings. -/
theorem ofText_of_toText {text : String} (h : s.toText = .ok text) : ofText text = .ok s := by
  have hfits : s.Fits := by
    by_contra hnot
    obtain ⟨m, hm⟩ := toText_eq_error hnot
    rw [hm] at h
    cases h
  rw [toText_eq_ok hfits] at h
  cases h
  have hread := Toml.ofChars_document (document_plain hfits)
  have hsettings := ofEntries?_document s
  rw [ofText, Toml.ofString, String.toList_ofList, hread, Option.bind_some, hsettings]

/-! ## 4. Saving and loading -/

/-- Saving succeeds for settings that fit, where the path takes a file, and only there. -/
theorem saveTo_isOk_iff (s : Settings) (f : Folder) (path : String) :
    (s.saveTo f path).1 = .ok () ↔ s.Fits ∧ f.Takes path := by
  by_cases hfits : s.Fits
  · have htext := toText_eq_ok hfits
    have htakes := f.write_iff_takes path (Text.Utf8.encode (String.ofList s.document.chars))
    simp only [saveTo, htext, hfits, true_and, ← htakes]
    split <;> simp_all
  · obtain ⟨m, hm⟩ := toText_eq_error hfits
    simp [saveTo, hm, hfits]

/-- **Saved settings load back unchanged.** Where the path takes a file, settings that fit are saved
    and loaded as they were, whatever the address holds. A number that does not fit is refused, and
    the folder is as it was. -/
theorem saveTo_loads (s : Settings) (f : Folder) (path : String) :
    (s.Fits → f.Takes path →
      ∃ f', s.saveTo f path = (.ok (), f') ∧ loadFrom f' path = .ok s)
    ∧ (¬ s.Fits → ∃ m, s.saveTo f path = (.error (.invalidConfig m), f)) := by
  constructor
  · intro hfits htakes
    have htext := toText_eq_ok hfits
    have hdone := (f.write_iff_takes path (Text.Utf8.encode (String.ofList s.document.chars))).2 htakes
    obtain ⟨f', hwrite⟩ : ∃ f',
        f.write path (Text.Utf8.encode (String.ofList s.document.chars)) = (true, f') :=
      ⟨_, Prod.ext hdone rfl⟩
    have hfind := Folder.find_of_write hwrite
    have hread := ofText_of_toText htext
    refine ⟨f', ?_, ?_⟩
    · simp only [saveTo, htext, hwrite]
    · simp only [loadFrom, hfind, load, Text.Utf8.strict?_encode, hread]
  · intro hfits
    obtain ⟨m, hm⟩ := toText_eq_error hfits
    exact ⟨m, by simp only [saveTo, hm]⟩

theorem saveTo_loads_quoted :
    (∃ f', ({ default with listen := "'a' \"\"\"\"b\"\\\r\n\t\x01'''" } : Settings).saveTo
        { files := [] } "nested/out.toml" = (.ok (), f')
      ∧ loadFrom f' "nested/out.toml"
        = .ok { default with listen := "'a' \"\"\"\"b\"\\\r\n\t\x01'''" })
    ∧ ∃ m, ({ default with runDelayMs := 9223372036854775808 } : Settings).saveTo
        { files := [(["out.toml"], [])] } "out.toml"
      = (.error (.invalidConfig m), { files := [(["out.toml"], [])] }) := by
  have hnames : Folder.names "nested/out.toml" = ["nested"] ++ ["out.toml"] := by decide
  have htakes : ({ files := [] } : Folder).Takes "nested/out.toml" :=
    .of_names (by decide) hnames (by rw [hnames]; decide) (fun _ _ => rfl) (by rw [hnames]; decide)
  refine ⟨(saveTo_loads _ _ _).1 ⟨by decide, by decide, by decide⟩ htakes, ?_⟩
  exact (saveTo_loads _ _ _).2 fun hfits => absurd hfits.runDelayMs (by decide)

end Settings

end CommandConsole
