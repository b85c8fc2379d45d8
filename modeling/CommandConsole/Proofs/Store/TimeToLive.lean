import CommandConsole.Proofs.Store.Expired
import CommandConsole.Proofs.Store.Faults
import CommandConsole.Proofs.Store.Tickets

/-!
# Longer times to live

Raising a time to live moves the cutoff back, with one exception. A time to live beyond the range of
milliseconds counts as 365 days; one that is within the range and longer than that reaches further back
than every one beyond it.

* `reckonedTtl_le_iff`: when the longer time to live is also reckoned as the longer one;
* `Store.accepts_iff`: what is still accepted, told by its date and the time to live;
* `longer_ttl_keeps_iff`: what the longer time to live keeps, and exactly what it loses;
* `longer_ttl_expires_sooner`: two settings, each of which is accepted, and a session that expires
  sooner under the longer one.
-/

namespace CommandConsole

/-! ## 1. Times to live as they are reckoned with -/

/-- The longer time to live is beyond the range and counts as 365 days, the shorter one is within the
    range and is longer than that. -/
def CutShort (a b : Nat) : Prop := daysOfYear < a ∧ a ≤ Text.maxInt64 ∧ Text.maxInt64 < b

instance (a b : Nat) : Decidable (CutShort a b) :=
  inferInstanceAs (Decidable (daysOfYear < a ∧ a ≤ Text.maxInt64 ∧ Text.maxInt64 < b))

/-- **When the longer time to live is reckoned as the longer one.** -/
theorem reckonedTtl_le_iff {a b : Nat} (le : a ≤ b) :
    reckonedTtl a ≤ reckonedTtl b ↔ ¬ CutShort a b := by
  unfold reckonedTtl CutShort
  split
  · split <;> omega
  · rw [if_neg (by omega)]
    omega

/-- Where it is not, both are known. -/
theorem CutShort.reckonedTtl_eq {a b : Nat} (h : CutShort a b) :
    reckonedTtl a = a ∧ reckonedTtl b = daysOfYear :=
  ⟨if_pos h.2.1, if_neg (Nat.not_le.mpr h.2.2)⟩

/-! ## 2. What is still accepted -/

namespace Store

variable {s : Store} {now : Moment} {a b : Nat} {kind : Perishable} {name : String}

/-- The store under another time to live. -/
def withTtl (s : Store) (ttl : Nat) : Perishable → Store
  | .challenges => { s with captchaTtl := ttl }
  | .sessions => { s with idleTtl := ttl }

/-- What is filed under a name is still accepted: a challenge when the sweep leaves it, a session when
    a look-up finds it. -/
def accepts (s : Store) (now : Moment) : Perishable → String → Bool
  | .challenges, id =>
    match s.sweepChallenges now with
    | .ok s => (s.challenges.get? id).isSome
    | .error _ => false
  | .sessions, token => s.finds now token

/-- The moment from which the age of what is filed under a name is counted. -/
def dated? (s : Store) : Perishable → String → Option Moment
  | .challenges, id => (s.challenges.get? id).map Issued.issuedAt
  | .sessions, token => (s.sessions.get? token).map Visit.lastSeen

/-- What is filed under the name does not age: a session in which a run is going on. -/
def isHeld (s : Store) : Perishable → String → Bool
  | .challenges, _ => false
  | .sessions, token => s.isRunning token

/-- **What is still accepted** does not age, or is younger than its time to live. -/
theorem accepts_iff (h : HasCutoff now (s.ttl kind)) :
    s.accepts now kind name = true ↔ s.isHeld kind name = true ∨
      ∃ d, s.dated? kind name = some d ∧ now - (reckonedTtl (s.ttl kind) : Int) < d := by
  cases kind with
  | challenges =>
    simp only [accepts, dated?, isHeld, sweep_eq h.cutoff_eq, get?_swept, valid?, ttl_challenges]
    cases s.challenges.get? name with
    | none => simp
    | some i => simp [Option.isSome_filter, Issued.isValid]
  | sessions =>
    simp only [accepts, dated?, isHeld, isRunning, finds_eq h.cutoff_eq, live?, ttl_sessions]
    cases s.sessions.get? name with
    | none => simp
    | some v => simp [Option.isSome_filter, Visit.isLive]

theorem dated?_withTtl (s : Store) (ttl : Nat) (kind : Perishable) (name : String) :
    (s.withTtl ttl kind).dated? kind name = s.dated? kind name := by
  cases kind <;> rfl

theorem isHeld_withTtl (s : Store) (ttl : Nat) (kind : Perishable) (name : String) :
    (s.withTtl ttl kind).isHeld kind name = s.isHeld kind name := by
  cases kind <;> rfl

theorem ttl_withTtl (s : Store) (ttl : Nat) (kind : Perishable) :
    (s.withTtl ttl kind).ttl kind = ttl := by
  cases kind <;> rfl

/-- The store under a time to live accepts what does not age or is younger than that. -/
theorem accepts_withTtl_iff {ttl : Nat} (h : HasCutoff now ttl) :
    (s.withTtl ttl kind).accepts now kind name = true ↔ s.isHeld kind name = true ∨
      ∃ d, s.dated? kind name = some d ∧ now - (reckonedTtl ttl : Int) < d := by
  have hcut : HasCutoff now ((s.withTtl ttl kind).ttl kind) := by rwa [ttl_withTtl]
  rw [accepts_iff hcut, ttl_withTtl, dated?_withTtl, isHeld_withTtl]

/-- **What one time to live keeps and another does not** is dated after the cutoff of the first and not
    after that of the second. -/
theorem lost_iff (ha : HasCutoff now a) (hb : HasCutoff now b) :
    ((s.withTtl a kind).accepts now kind name = true ∧
        (s.withTtl b kind).accepts now kind name = false) ↔
      s.isHeld kind name = false ∧ ∃ d, s.dated? kind name = some d ∧
        now - (reckonedTtl a : Int) < d ∧ d ≤ now - (reckonedTtl b : Int) := by
  rw [← Bool.not_eq_true, accepts_withTtl_iff ha, accepts_withTtl_iff hb]
  cases s.isHeld kind name with
  | true => simp
  | false =>
    cases s.dated? kind name with
    | none => simp
    | some d => simp

/-- A store in which one challenge was put, or one session opened. -/
def single (d : Moment) : Perishable → Store
  | .challenges => (new 0 0).put d ⟨"", 0, 0⟩
  | .sessions =>
    { new 0 0 with sessions := Registry.empty.insert "" { gate := Gate.new.login, lastSeen := d } }

theorem single_spec (d : Moment) (kind : Perishable) :
    (single d kind).isHeld kind "" = false ∧ (single d kind).dated? kind "" = some d := by
  cases kind <;> exact ⟨rfl, rfl⟩

/-- One time to live keeps all that another keeps if and only if it is not reckoned as a shorter one. -/
theorem keeps_iff (ha : HasCutoff now a) (hb : HasCutoff now b) (kind : Perishable) :
    (∀ (s : Store) name, (s.withTtl a kind).accepts now kind name = true →
        (s.withTtl b kind).accepts now kind name = true) ↔
      reckonedTtl a ≤ reckonedTtl b := by
  constructor
  · intro hkeeps
    refine Nat.not_lt.mp fun hlt => ?_
    -- what is just as old as the second time to live is lost
    obtain ⟨hheld, hdated⟩ := single_spec (now - (reckonedTtl b : Int)) kind
    obtain ⟨hin, hout⟩ := (lost_iff ha hb).mpr
      ⟨hheld, _, hdated, by unfold Moment at *; omega, Int.le_refl _⟩
    exact Bool.noConfusion (hout.symm.trans (hkeeps _ _ hin))
  · intro le s name hin
    rw [accepts_withTtl_iff ha] at hin
    rw [accepts_withTtl_iff hb]
    rcases hin with hheld | ⟨d, hd, hlt⟩
    · exact Or.inl hheld
    · refine Or.inr ⟨d, hd, ?_⟩
      unfold Moment at *
      omega

end Store

/-! ## 3. Raising a time to live -/

/-- **What raising a time to live keeps.** The cutoff moves back, and all challenges and sessions that
    were accepted are accepted still, unless the raise is cut short. If it is, then what is lost is
    exactly what ages and is dated after the shorter time to live, but 365 days ago or earlier. -/
theorem longer_ttl_keeps_iff {now : Moment} {a b : Nat} (le : a ≤ b) (ha : HasCutoff now a)
    (hb : HasCutoff now b) :
    (∀ ca cb, cutoff now a = .ok ca → cutoff now b = .ok cb → (cb ≤ ca ↔ ¬ CutShort a b)) ∧
    ∀ kind : Perishable,
      ((∀ (s : Store) name, (s.withTtl a kind).accepts now kind name = true →
          (s.withTtl b kind).accepts now kind name = true) ↔ ¬ CutShort a b) ∧
      ∀ (s : Store) name,
        ((s.withTtl a kind).accepts now kind name = true ∧
            (s.withTtl b kind).accepts now kind name = false) ↔
          CutShort a b ∧ s.isHeld kind name = false ∧
            ∃ d, s.dated? kind name = some d ∧ now - (a : Int) < d ∧ d ≤ now - (daysOfYear : Int) := by
  refine ⟨fun ca cb hca hcb => ?_, fun kind => ⟨?_, fun s name => ?_⟩⟩
  · rw [cutoff_eq_ok hca, cutoff_eq_ok hcb, ← reckonedTtl_le_iff le]
    unfold Moment at *
    omega
  · rw [Store.keeps_iff ha hb kind, reckonedTtl_le_iff le]
  · rw [Store.lost_iff ha hb]
    by_cases hcut : CutShort a b
    · obtain ⟨hra, hrb⟩ := hcut.reckonedTtl_eq
      rw [hra, hrb]
      exact (and_iff_right hcut).symm
    · refine iff_of_false ?_ fun h => hcut h.1
      rintro ⟨-, d, -, hlo, hhi⟩
      have hle := (reckonedTtl_le_iff le).mpr hcut
      unfold Moment at *
      omega

/-- **A longer time to live expires a session sooner.** Under 366 days a session that was left alone for
    365 days is found; under 9223372036854776 seconds, which the settings accept just as well, it is
    not. -/
theorem longer_ttl_expires_sooner :
    ∃ short long,
      (Settings.ofText "[session]\nidle_ttl_secs = 31622400\n").toOption = some short ∧
      (Settings.ofText "[session]\nidle_ttl_secs = 9223372036854776\n").toOption = some long ∧
      short.sessionIdleTtl ≤ long.sessionIdleTtl ∧
      HasCutoff 31536000000 short.sessionIdleTtl ∧ HasCutoff 31536000000 long.sessionIdleTtl ∧
      ∃ s s', Past short.captchaTtl short.sessionIdleTtl [.freeLogin 0 "a"] 0 s ∧
        Past long.captchaTtl long.sessionIdleTtl [.freeLogin 0 "a"] 0 s' ∧
        s.finds 31536000000 "a" = true ∧ s'.finds 31536000000 "a" = false :=
  ⟨{ Settings.default with session := ⟨31622400⟩ },
    { Settings.default with session := ⟨9223372036854776⟩ }, by decide +kernel, by decide +kernel,
    by decide, by decide, by decide, _, _,
    @Past.step _ _ _ 0 0 _ _ (.login none true "a") (.token (.ok "a")) (.new 0) (by decide) rfl,
    @Past.step _ _ _ 0 0 _ _ (.login none true "a") (.token (.ok "a")) (.new 0) (by decide) rfl,
    rfl, rfl⟩

end CommandConsole
