import CommandConsole.Proofs.Text.Decimal
import CommandConsole.Settings

/-!
# What the environment changes

Two environment variables go over settings of any origin: one for the address, one for the delay. A
blank variable changes nothing, and a delay that is no number is refused.

* `Settings.DelayGiven`: what the variable for the delay gives;
* `Settings.applyEnvironment_of_given`, `Settings.applyEnvironment_of_refused`: the settings afterwards;
* `Settings.applyEnvironment_twice`: taking the same variables over once more changes nothing;
* `Settings.refused_keeps_iff`: what a refused delay leaves as it was.
-/

namespace CommandConsole.Settings

variable {s : Settings} {address delay : Option String} {v : String} {n : Option UInt64}

/-! ## 1. The two variables -/

/-- The address that a variable gives: its text without the blanks around it, if that leaves any. -/
def addressGiven (address : Option String) : Option String :=
  (address.map Text.trimmed).filter fun v => v ≠ ""

/-- The delay that a variable gives: none when it is absent or blank, else the number that it denotes
    without the blanks around it. -/
inductive DelayGiven : Option String → Option UInt64 → Prop where
  | absent : DelayGiven none none
  | blank {v : String} (h : Text.trimmed v = "") : DelayGiven (some v) none
  | number {v : String} {n : UInt64} (h : Text.DenotesWord64 (Text.trim v.toList) n) :
      DelayGiven (some v) (some n)

/-- The variable for the delay has a text that is neither blank nor, without the blanks around it, a
    number. -/
structure DelayRefused (delay : Option String) (v : String) : Prop where
  set : delay = some v
  notBlank : Text.trimmed v ≠ ""
  noNumber : ∀ n, ¬ Text.DenotesWord64 (Text.trim v.toList) n

theorem given_of_blank (h : Text.trimmed v = "") : given (some v) = none := by
  rw [given, Option.filter_some, (Text.trimmed_eq_empty_iff v).mp h]
  rfl

theorem given_of_not_blank (h : Text.trimmed v ≠ "") : given (some v) = some v := by
  rw [ne_eq, Text.trimmed_eq_empty_iff, Bool.not_eq_true] at h
  rw [given, Option.filter_some, h]
  rfl

theorem trimmed_ne_empty_of_denotes {n : UInt64} (h : Text.DenotesWord64 (Text.trim v.toList) n) :
    Text.trimmed v ≠ "" := by
  obtain ⟨sign, digits, htrim, -, hne, -⟩ := h
  rw [Text.trimmed, ne_eq, String.ofList_eq_empty_iff, htrim]
  simp [hne]

theorem delayGiven_or_refused (delay : Option String) :
    (∃ n, DelayGiven delay n) ∨ ∃ v, DelayRefused delay v := by
  cases delay with
  | none => exact .inl ⟨none, .absent⟩
  | some v =>
    by_cases hblank : Text.trimmed v = ""
    · exact .inl ⟨none, .blank hblank⟩
    · by_cases hnumber : ∃ n, Text.DenotesWord64 (Text.trim v.toList) n
      · obtain ⟨n, hn⟩ := hnumber
        exact .inl ⟨some n, .number hn⟩
      · exact .inr ⟨v, rfl, hblank, not_exists.mp hnumber⟩

theorem DelayGiven.not_refused (h : DelayGiven delay n) : ¬ DelayRefused delay v := by
  rintro ⟨hset, hblank, hnone⟩
  cases h with
  | absent => cases hset
  | blank h =>
    cases hset
    exact hblank h
  | number h =>
    cases hset
    exact hnone _ h

/-! ## 2. The settings afterwards -/

theorem withAddress_eq (s : Settings) (address : Option String) :
    s.withAddress address = { s with listen := (addressGiven address).getD s.listen } := by
  cases address with
  | none => rfl
  | some v =>
    by_cases hblank : Text.trimmed v = ""
    · simp [withAddress, given_of_blank hblank, addressGiven, Option.filter_some, hblank]
    · simp [withAddress, given_of_not_blank hblank, addressGiven, Option.filter_some, hblank]

theorem withDelay_of_given (h : DelayGiven delay n) (s : Settings) :
    s.withDelay delay = .ok { s with runDelayMs := n.getD s.runDelayMs } := by
  cases h with
  | absent => rfl
  | blank hblank => simp [withDelay, given_of_blank hblank]
  | number hn =>
    have hread := (Text.word64?_eq_some_iff _ _).mpr hn
    simp [withDelay, given_of_not_blank (trimmed_ne_empty_of_denotes hn), hread]

theorem withDelay_of_refused (h : DelayRefused delay v) (s : Settings) :
    s.withDelay delay = .error (.invalidConfig ("CYSIM_RUN_DELAY_MS=" ++ v)) := by
  obtain ⟨rfl, hblank, hnone⟩ := h
  have hread : Text.word64? (Text.trim v.toList) = none :=
    Option.eq_none_iff_forall_ne_some.mpr fun n hn => hnone n ((Text.word64?_eq_some_iff _ n).mp hn)
  simp only [withDelay, given_of_not_blank hblank, hread]
  rfl

/-- **Where the delay is a number or none is given**, the two variables go over the settings. -/
theorem applyEnvironment_of_given (h : DelayGiven delay n) (s : Settings) (address : Option String) :
    s.applyEnvironment address delay =
      (.ok (), { s with
        listen := (addressGiven address).getD s.listen
        runDelayMs := n.getD s.runDelayMs }) := by
  rw [applyEnvironment, withAddress_eq, withDelay_of_given h]

/-- **Where the delay is refused**, the address is taken over all the same. -/
theorem applyEnvironment_of_refused (h : DelayRefused delay v) (s : Settings)
    (address : Option String) :
    s.applyEnvironment address delay =
      (.error (.invalidConfig ("CYSIM_RUN_DELAY_MS=" ++ v)),
        { s with listen := (addressGiven address).getD s.listen }) := by
  rw [applyEnvironment, withAddress_eq, withDelay_of_refused h]

/-- The environment is refused for nothing but the delay. -/
theorem applyEnvironment_eq_error_iff (s : Settings) (address delay : Option String) (e : Failure) :
    (s.applyEnvironment address delay).1 = .error e ↔
      ∃ v, DelayRefused delay v ∧ e = .invalidConfig ("CYSIM_RUN_DELAY_MS=" ++ v) := by
  rcases delayGiven_or_refused delay with ⟨n, hn⟩ | ⟨v, hv⟩
  · rw [applyEnvironment_of_given hn]
    constructor
    · intro h
      cases h
    · rintro ⟨v, hv, -⟩
      exact absurd hv hn.not_refused
  · rw [applyEnvironment_of_refused hv]
    constructor
    · exact fun h => ⟨v, hv, (Except.error.inj h).symm⟩
    · rintro ⟨v', hv', rfl⟩
      rw [Option.some.inj (hv.set.symm.trans hv'.set)]

/-- What is there already is not changed by putting it there once more. -/
theorem getD_getD {α : Type} (o : Option α) (a : α) : o.getD (o.getD a) = o.getD a := by
  cases o <;> rfl

/-- **Taking the same variables over once more changes nothing**, and is refused if it was. -/
theorem applyEnvironment_twice (s : Settings) (address delay : Option String) :
    (s.applyEnvironment address delay).2.applyEnvironment address delay
      = s.applyEnvironment address delay := by
  rcases delayGiven_or_refused delay with ⟨n, hn⟩ | ⟨v, hv⟩
  · simp only [applyEnvironment_of_given hn, getD_getD]
  · simp only [applyEnvironment_of_refused hv, getD_getD]

/-! ## 3. What a refused delay leaves -/

/-- An address that a variable gives is the one that is there. -/
theorem getD_addressGiven_eq_iff (address : Option String) (listen : String) :
    (addressGiven address).getD listen = listen ↔
      ∀ v, address = some v → Text.trimmed v = "" ∨ Text.trimmed v = listen := by
  cases address with
  | none => simp [addressGiven]
  | some v =>
    by_cases hblank : Text.trimmed v = ""
    · simp [addressGiven, Option.filter_some, hblank]
    · simp [addressGiven, Option.filter_some, hblank]

/-- **A refused delay leaves every setting but the address as it was.** The address is taken over all
    the same, so the settings are as they were exactly if the variable for the address is absent or
    blank or, without the blanks around it, the address that was there. -/
theorem refused_keeps_iff {s : Settings} {address delay : Option String} {e : Failure}
    (h : (s.applyEnvironment address delay).1 = .error e) :
    (s.applyEnvironment address delay).2
        = { s with listen := (addressGiven address).getD s.listen } ∧
      ((s.applyEnvironment address delay).2 = s ↔
        ∀ v, address = some v → Text.trimmed v = "" ∨ Text.trimmed v = s.listen) := by
  obtain ⟨v, hv, -⟩ := (applyEnvironment_eq_error_iff s address delay e).mp h
  have hlisten : ({ s with listen := (addressGiven address).getD s.listen } : Settings) = s ↔
      (addressGiven address).getD s.listen = s.listen :=
    ⟨fun heq => congrArg Settings.listen heq, fun heq => by rw [heq]⟩
  rw [applyEnvironment_of_refused hv]
  exact ⟨rfl, hlisten.trans (getD_addressGiven_eq_iff address s.listen)⟩

/-- The variable gives the address that is there, with blanks around it. -/
theorem refused_keeps_same_address :
    (default.applyEnvironment (some " 127.0.0.1:8080 ") (some "fast")).1
        = .error (.invalidConfig "CYSIM_RUN_DELAY_MS=fast") ∧
      (default.applyEnvironment (some " 127.0.0.1:8080 ") (some "fast")).2 = default := by
  have hrefused : (default.applyEnvironment (some " 127.0.0.1:8080 ") (some "fast")).1
      = .error (.invalidConfig "CYSIM_RUN_DELAY_MS=fast") := by decide +kernel
  refine ⟨hrefused, (refused_keeps_iff hrefused).2.mpr ?_⟩
  rintro v ⟨⟩
  exact .inr (by decide +kernel)

/-- The delay is refused, and the address has changed. -/
theorem refused_moves_address :
    (default.applyEnvironment (some "0.0.0.0:9000") (some "fast")).1
        = .error (.invalidConfig "CYSIM_RUN_DELAY_MS=fast") ∧
      (default.applyEnvironment (some "0.0.0.0:9000") (some "fast")).2
        = { default with listen := "0.0.0.0:9000" } ∧
      (default.applyEnvironment (some "0.0.0.0:9000") (some "fast")).2 ≠ default := by
  decide +kernel

end CommandConsole.Settings
