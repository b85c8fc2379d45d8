import CommandConsole.Proofs.Store.History
import CommandConsole.Settings

/-!
# Which operations come to an answer

An operation of the store that asks for a cutoff before the first day of the calendar comes to a fault
and to no answer. The rule for a time to live beyond the range of milliseconds does not exclude this:
between that range and the calendar there are times to live that are neither replaced nor reach back
to a day that exists.

* `hasCutoff_secs_iff`: which times to live in seconds have a cutoff, for a clock after the year 1970;
* `Store.perform_isOk_iff`: an operation comes to an answer exactly when all cutoffs that it asks for
  exist;
* `answers_iff_within_calendar`: the settings under which the store answers whatever is asked of it.
-/

namespace CommandConsole

/-! ## 1. Cutoffs that exist -/

/-- A time to live in seconds is beyond the range of milliseconds, where 365 days are reckoned with
    instead, or it reaches back no further than to the first moment of the calendar. -/
def WithinCalendar (now : Moment) (secs : UInt64) : Prop :=
  secs.toNat ≤ 9223372036854775 → 1000 * (secs.toNat : Int) ≤ now + 8334601228800000

instance (now : Moment) (secs : UInt64) : Decidable (WithinCalendar now secs) :=
  inferInstanceAs (Decidable (_ → _))

/-- **Which times to live in seconds have a cutoff**, for a clock after the beginning of 1970. -/
theorem hasCutoff_secs_iff {now : Moment} (hnow : 0 ≤ now) (secs : UInt64) :
    HasCutoff now (1000 * secs.toNat) ↔ WithinCalendar now secs := by
  have hrange : 1000 * secs.toNat ≤ Text.maxInt64 ↔ secs.toNat ≤ 9223372036854775 := by
    unfold Text.maxInt64
    omega
  unfold HasCutoff WithinCalendar reckonedTtl Moment.earliest Moment at *
  rw [← hrange]
  split
  · omega
  · have hyear : (daysOfYear : Int) ≤ 8334601228800000 := by decide
    omega

/-! ## 2. Which cutoffs are asked for -/

/-- What expires in a store. -/
inductive Perishable where
  | challenges
  | sessions
  deriving DecidableEq, Repr

namespace Store

variable {s : Store} {now : Moment}

/-- How long something is kept. -/
def ttl (s : Store) : Perishable → Nat
  | .challenges => s.captchaTtl
  | .sessions => s.idleTtl

@[simp] theorem ttl_challenges (s : Store) : s.ttl .challenges = s.captchaTtl := rfl

@[simp] theorem ttl_sessions (s : Store) : s.ttl .sessions = s.idleTtl := rfl

/-- The challenge is stored, valid and solved. -/
def admits (s : Store) (now : Moment) (id : String) : Bool :=
  (s.valid? (now - (reckonedTtl s.captchaTtl : Int)) id).any Issued.solved

/-- What an operation asks the cutoff of. A blank answer and a login without a challenge ask for none;
    a login with a challenge asks for that of sessions only if it is let in. -/
def asked (s : Store) (now : Moment) : Operation → List Perishable
  | .issue _ => [.challenges]
  | .verify _ answer _ => if Challenge.canSubmit answer then [.challenges] else []
  | .login _ true _ => [.sessions]
  | .login none false _ => []
  | .login (some id) false _ => if s.admits now id then [.challenges, .sessions] else [.challenges]
  | .logout _ => []
  | .visit _ _ => [.sessions]
  | .glance => []

theorem map_isOk_iff {ε α β : Type} {x : Except ε α} {f : α → β} :
    (∃ b, x.map f = .ok b) ↔ ∃ a, x = .ok a := by
  cases x with
  | error e => simp [Except.map]
  | ok a => exact iff_of_true ⟨_, rfl⟩ ⟨_, rfl⟩

theorem issue_isOk_iff (fresh : Challenge) :
    (∃ r, s.issue now fresh = .ok r) ↔ HasCutoff now s.captchaTtl := by
  constructor
  · intro hcase
    obtain ⟨r, h⟩ := hcase
    obtain ⟨c, reg, hc, -⟩ := issue_spec h
    exact hasCutoff_of_eq_ok hc
  · intro h
    unfold issue
    rw [sweep_eq h.cutoff_eq]
    exact ⟨_, rfl⟩

theorem verify_isOk_iff {answer : String} (ha : Challenge.canSubmit answer = true) (id : String)
    (fresh : Challenge) :
    (∃ r, s.verify now id answer fresh = .ok r) ↔ HasCutoff now s.captchaTtl := by
  constructor
  · intro hcase
    obtain ⟨r, h⟩ := hcase
    obtain ⟨c, hc⟩ := verify_cutoff ha h
    exact hasCutoff_of_eq_ok hc
  · intro h
    obtain ⟨reg, hreg, -⟩ := verify_typed ha h.cutoff_eq id fresh
    exact ⟨_, hreg⟩

theorem openSession_isOk_iff (token : String) :
    (∃ s', s.openSession now token = .ok s') ↔ HasCutoff now s.idleTtl := by
  constructor
  · intro hcase
    obtain ⟨s', h⟩ := hcase
    obtain ⟨c, reg, hc, -⟩ := openSession_spec h
    exact hasCutoff_of_eq_ok hc
  · exact fun h => openSession_of_cutoff h.cutoff_eq token

/-- A login that is let in is answered when its session is opened. -/
theorem login_isOk_iff_of_pass {challenge : Option String} {bypass : Bool} {s₁ : Store}
    (h : s.passCaptcha now challenge bypass = .ok (.ok (), s₁)) (token : String) :
    (∃ r, s.login now challenge bypass token = .ok r) ↔ HasCutoff now s₁.idleTtl := by
  rw [← openSession_isOk_iff token]
  unfold login
  rw [h]
  simp only [bind, Except.bind]
  cases s₁.openSession now token with
  | error e => simp
  | ok s' => exact iff_of_true ⟨_, rfl⟩ ⟨_, rfl⟩

theorem login_named_isOk_iff (id token : String) :
    (∃ r, s.login now (some id) false token = .ok r) ↔
      HasCutoff now s.captchaTtl ∧ (s.admits now id = true → HasCutoff now s.idleTtl) := by
  by_cases hc : HasCutoff now s.captchaTtl
  · obtain ⟨reg, hreg, -⟩ := takeSolved_spec hc.cutoff_eq id
    cases hadmits : s.admits now id with
    | false =>
      have hd : ∀ i, s.valid? (now - (reckonedTtl s.captchaTtl : Int)) id = some i →
          i.solved = true → ∃ d, cutoff now s.idleTtl = .ok d := fun i hi hsolved => by
        rw [admits, hi, Option.any_some, hsolved] at hadmits
        cases hadmits
      obtain ⟨s', hs'⟩ := login_spec hc.cutoff_eq hd token
      exact iff_of_true ⟨_, hs'⟩ ⟨hc, fun h => Bool.noConfusion h⟩
    | true =>
      obtain ⟨i, hi, hsolved⟩ := (Option.any_eq_true _ _).mp hadmits
      rw [hi, Option.elim, if_pos hsolved] at hreg
      have hpass : s.passCaptcha now (some id) false =
          .ok (.ok (), { s with challenges := reg }) := hreg
      rw [login_isOk_iff_of_pass hpass token]
      exact ⟨fun h => ⟨hc, fun _ => h⟩, fun h => h.2 rfl⟩
  · refine iff_of_false ?_ fun h => hc h.1
    intro hcase
    obtain ⟨r, h⟩ := hcase
    obtain ⟨⟨r₁, s₁⟩, hpass, -⟩ := bind_eq_ok h
    rcases passCaptcha_cases hpass with ⟨hskip, -⟩ | ⟨id', c, reg, -, -, hc', -⟩
    · exact Bool.noConfusion (hskip id rfl)
    · exact hc (hasCutoff_of_eq_ok hc')

/-- **An operation comes to an answer exactly when all cutoffs that it asks for exist.** -/
theorem perform_isOk_iff (op : Operation) :
    (∃ r, s.perform now op = .ok r) ↔ ∀ kind ∈ s.asked now op, HasCutoff now (s.ttl kind) := by
  cases op with
  | issue fresh =>
    rw [perform, map_isOk_iff, issue_isOk_iff, asked, List.forall_mem_singleton, ttl_challenges]
  | verify id answer fresh =>
    rw [perform, map_isOk_iff, asked]
    cases ha : Challenge.canSubmit answer with
    | false =>
      rw [verify_blank ha]
      simp
    | true =>
      rw [verify_isOk_iff ha, if_pos rfl, List.forall_mem_singleton, ttl_challenges]
  | login challenge bypass token =>
    rw [perform, map_isOk_iff]
    cases bypass with
    | true =>
      have hpass : s.passCaptcha now challenge true = .ok (.ok (), s) := rfl
      rw [login_isOk_iff_of_pass hpass, asked, List.forall_mem_singleton, ttl_sessions]
    | false =>
      cases challenge with
      | none => exact iff_of_true ⟨_, rfl⟩ fun _ h => absurd h List.not_mem_nil
      | some id =>
        rw [login_named_isOk_iff, asked]
        cases s.admits now id <;> simp
  | logout token => exact iff_of_true ⟨_, rfl⟩ fun _ h => absurd h List.not_mem_nil
  | visit token a =>
    rw [asked, List.forall_mem_singleton, ttl_sessions]
    constructor
    · intro hcase
      obtain ⟨r, h⟩ := hcase
      obtain ⟨c, hc⟩ := visit_cutoff h
      exact hasCutoff_of_eq_ok hc
    · intro h
      obtain ⟨r, hr, -⟩ := perform_visit h.cutoff_eq token a
      exact ⟨_, hr⟩
  | glance => exact iff_of_true ⟨_, rfl⟩ fun _ h => absurd h List.not_mem_nil

end Store

/-! ## 3. Settings -/

/-- The setting, in seconds, for how long something is kept. -/
def Settings.ttlSecs (settings : Settings) : Perishable → UInt64
  | .challenges => settings.captcha.ttlSecs
  | .sessions => settings.session.idleTtlSecs

theorem Past.ttl_eq {settings : Settings} {past : List Event} {now : Moment} {s : Store}
    (h : Past settings.captchaTtl settings.sessionIdleTtl past now s) (kind : Perishable) :
    s.ttl kind = 1000 * (settings.ttlSecs kind).toNat := by
  cases kind with
  | challenges => exact h.ttl.1
  | sessions => exact h.ttl.2

/-- **The settings under which the store answers.** In every state that it can reach, and whenever it is
    asked from then on, an operation comes to an answer exactly when each of the settings that it asks
    for is within the calendar; and the store answers whatever it is asked, now and later, exactly when
    both are within the calendar now. -/
theorem answers_iff_within_calendar (settings : Settings) {past : List Event} {now : Moment}
    {s : Store} (h : Past settings.captchaTtl settings.sessionIdleTtl past now s) (hnow : 0 ≤ now) :
    (∀ later op, now ≤ later → ((∃ r, s.perform later op = .ok r) ↔
      ∀ kind ∈ s.asked later op, WithinCalendar later (settings.ttlSecs kind))) ∧
    ((∀ later op, now ≤ later → ∃ r, s.perform later op = .ok r) ↔
      WithinCalendar now settings.captcha.ttlSecs ∧
        WithinCalendar now settings.session.idleTtlSecs) := by
  have hkind : ∀ later kind, now ≤ later →
      (HasCutoff later (s.ttl kind) ↔ WithinCalendar later (settings.ttlSecs kind)) :=
    fun later kind le => by rw [h.ttl_eq kind, hasCutoff_secs_iff (Int.le_trans hnow le)]
  refine ⟨fun later op le => ?_, fun hall => ⟨?_, ?_⟩, fun hin later op le => ?_⟩
  · rw [Store.perform_isOk_iff]
    exact forall₂_congr fun kind _ => hkind later kind le
  · have hissue := hall now (.issue ⟨"", 0, 0⟩) (Int.le_refl _)
    rw [Store.perform_isOk_iff] at hissue
    exact (hkind now .challenges (Int.le_refl _)).mp (hissue _ List.mem_cons_self)
  · have hvisit := hall now (.visit "" .status) (Int.le_refl _)
    rw [Store.perform_isOk_iff] at hvisit
    exact (hkind now .sessions (Int.le_refl _)).mp (hvisit _ List.mem_cons_self)
  · rw [Store.perform_isOk_iff]
    intro kind _
    refine HasCutoff.of_le ((hkind now kind (Int.le_refl _)).mpr ?_) le
    cases kind with
    | challenges => exact hin.1
    | sessions => exact hin.2

/-- Under the settings without any file the store answers whatever it is asked. -/
theorem answers_under_default :
    0 ≤ (1760000000000 : Moment) ∧ ∀ later op, 1760000000000 ≤ later →
      ∃ r, (Store.new 300000 1800000).perform later op = .ok r :=
  ⟨by decide, ((answers_iff_within_calendar .default (.new 1760000000000) (by decide)).2).mpr
    ⟨by decide, by decide⟩⟩

/-- A file that lets sessions be left alone for 9000000000000000 seconds is accepted, and already the
    first login under these settings comes to a fault. -/
theorem fault_under_accepted_settings :
    ∃ settings,
      (Settings.ofText "[session]\nidle_ttl_secs = 9000000000000000\n").toOption = some settings ∧
      ∃ s, Past settings.captchaTtl settings.sessionIdleTtl [] 1760000000000 s ∧
        s.perform 1760000000000 (.login none true "a") = .error .beforeFirstDay :=
  ⟨{ Settings.default with session := ⟨9000000000000000⟩ }, by decide +kernel, _, .new _, rfl⟩

end CommandConsole
