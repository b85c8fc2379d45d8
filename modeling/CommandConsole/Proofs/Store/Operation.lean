import CommandConsole.Proofs.Session.Gate
import CommandConsole.Store

/-!
# The operations of the store as data

Every operation of the store is one value of `Operation`, and `Store.perform` carries it out. What
visitors ask of a session under a token is an `Errand`; carried out at a gate it has an answer, and
where no live session is found it has a refusal of its own.

* `perform_sessions`: what each operation does to the sessions, told by the look-up of every token;
* `perform_challenges`: what each operation does to the challenges, told the same way;
* `perform_visit`: an errand always comes to an answer while its cutoff exists, and to which one.

Everything else about runs of the store is derived from these.
-/

namespace CommandConsole

/-! ## 1. Operations and answers -/

/-- What is asked of the session under a token. -/
inductive Errand where
  | status
  | setConsent (choice : Consent)
  | togglePanel
  | beginRun (input : String)
  | finishRun (ticket : RunTicket)
  deriving DecidableEq, Repr

/-- An operation of the store, with the random values that it may need. -/
inductive Operation where
  | issue (fresh : Challenge)
  | verify (id answer : String) (fresh : Challenge)
  | login (challenge : Option String) (bypass : Bool) (token : String)
  | logout (token : String)
  | visit (token : String) (errand : Errand)
  /-- The status asked for without a token. -/
  | glance
  deriving DecidableEq, Repr

/-- What an operation answers. -/
inductive Answer where
  | challenge (view : ChallengeView)
  | verdict (v : Except Failure Verdict)
  | token (t : Except Failure String)
  | done (r : Except Failure Unit)
  | status (s : SessionStatus)
  | panel (p : Except Failure Panel)
  | ticket (t : Except Failure RunTicket)

/-- The token that a login has returned. -/
def Answer.opened? : Answer → Option String
  | .token (.ok t) => some t
  | _ => none

namespace Errand

/-- The errand carried out at a gate. -/
def carryOut (g : Gate) : Errand → Answer × Gate
  | status => (.status g.status, g)
  | setConsent choice => (.done (.ok ()), g.setConsent choice)
  | togglePanel => (.panel (.ok g.togglePanel.panel), g.togglePanel)
  | beginRun input => (.ticket (g.beginRun input).1, (g.beginRun input).2)
  | finishRun ticket => (.done (g.finishRun ticket).1, (g.finishRun ticket).2)

/-- The answer where no live session is found. -/
def refusal : Errand → Answer
  | status => .status Gate.new.status
  | setConsent _ => .done (.error .notLoggedIn)
  | togglePanel => .panel (.error .notLoggedIn)
  | beginRun _ => .ticket (.error .notLoggedIn)
  | finishRun _ => .done (.error .sessionEnded)

/-- No errand logs a gate in or out. -/
theorem carryOut_login (a : Errand) (g : Gate) :
    (a.carryOut g).2.loggedIn = g.loggedIn ∧ (a.carryOut g).2.generation = g.generation := by
  cases a with
  | status | setConsent | togglePanel => exact ⟨rfl, rfl⟩
  | beginRun input =>
    obtain ⟨running, hg⟩ := g.beginRun_frame input
    rw [carryOut, hg]
    exact ⟨rfl, rfl⟩
  | finishRun ticket =>
    obtain ⟨running, hg⟩ := g.finishRun_frame ticket
    rw [carryOut, hg]
    exact ⟨rfl, rfl⟩

end Errand

/-- The visit of a session that was found and had an errand carried out. -/
def Visit.after (now : Moment) (a : Errand) (v : Visit) : Visit :=
  { gate := (a.carryOut v.gate).2, lastSeen := now }

namespace Store

/-- Carries an operation out. -/
def perform (s : Store) (now : Moment) : Operation → Except CalendarFault (Answer × Store)
  | .issue fresh => (s.issue now fresh).map fun r => (.challenge r.1, r.2)
  | .verify id answer fresh => (s.verify now id answer fresh).map fun r => (.verdict r.1, r.2)
  | .login challenge bypass token =>
    (s.login now challenge bypass token).map fun r => (.token r.1, r.2)
  | .logout token => .ok (.done (s.logout token).1, (s.logout token).2)
  | .visit token .status => (s.status now (some token)).map fun r => (.status r.1, r.2)
  | .visit token (.setConsent choice) =>
    (s.setConsent now token choice).map fun r => (.done r.1, r.2)
  | .visit token .togglePanel => (s.togglePanel now token).map fun r => (.panel r.1, r.2)
  | .visit token (.beginRun input) => (s.beginRun now token input).map fun r => (.ticket r.1, r.2)
  | .visit token (.finishRun ticket) =>
    (s.finishRun now token ticket).map fun r => (.done r.1, r.2)
  | .glance => (s.status now none).map fun r => (.status r.1, r.2)

/-- A look-up under this token finds a live session. -/
def finds (s : Store) (now : Moment) (token : String) : Bool :=
  match s.touch now token with
  | .ok (some _, _) => true
  | _ => false

/-- The session under a token, if it is stored and live for a cutoff. -/
def live? (s : Store) (c : Moment) (token : String) : Option Visit :=
  (s.sessions.get? token).filter (Visit.isLive c)

/-- The challenge under an identifier, if it is stored and valid for a cutoff. -/
def valid? (s : Store) (c : Moment) (id : String) : Option Issued :=
  (s.challenges.get? id).filter (Issued.isValid c)

end Store

/-! ## 2. Cutoffs -/

/-- A cutoff that exists is the moment less the time to live. -/
theorem cutoff_eq_ok {now c : Moment} {ttl : Nat} (h : cutoff now ttl = .ok c) :
    c = now - (reckonedTtl ttl : Int) := by
  unfold cutoff at h
  simp only at h
  split at h
  · cases h; rfl
  · cases h

/-- The time to live reaches back to a moment of the calendar. -/
def HasCutoff (now : Moment) (ttl : Nat) : Prop :=
  Moment.earliest ≤ now - (reckonedTtl ttl : Int)

instance (now : Moment) (ttl : Nat) : Decidable (HasCutoff now ttl) :=
  inferInstanceAs (Decidable (Moment.earliest ≤ now - (reckonedTtl ttl : Int)))

theorem HasCutoff.cutoff_eq {now : Moment} {ttl : Nat} (h : HasCutoff now ttl) :
    cutoff now ttl = .ok (now - (reckonedTtl ttl : Int)) :=
  if_pos h

theorem hasCutoff_of_eq_ok {now c : Moment} {ttl : Nat} (h : cutoff now ttl = .ok c) :
    HasCutoff now ttl := by
  unfold cutoff at h
  simp only at h
  split at h
  · assumption
  · cases h

/-- A cutoff that exists goes on to exist. -/
theorem HasCutoff.of_le {now later : Moment} {ttl : Nat} (h : HasCutoff now ttl) (le : now ≤ later) :
    HasCutoff later ttl :=
  Int.le_trans h (Int.sub_le_sub_right le _)

/-- What is live for a cutoff is live for every earlier one. -/
theorem Visit.isLive_of_le {c c' : Moment} {v : Visit} (le : c ≤ c') (h : v.isLive c' = true) :
    v.isLive c = true := by
  simp only [isLive, Bool.or_eq_true, decide_eq_true_eq] at h ⊢
  rcases h with h | h
  · exact Or.inl h
  · exact Or.inr (Int.lt_of_le_of_lt le h)

/-- While a run is going on the session is live. -/
theorem Visit.isLive_of_running {v : Visit} (h : v.gate.running = true) (c : Moment) :
    v.isLive c = true := by
  rw [isLive, h, Bool.true_or]

namespace Store

variable {s : Store} {now c : Moment}

/-! ## 3. Looking a session up -/

theorem touch_of_live {token : String} {v : Visit} (hc : cutoff now s.idleTtl = .ok c)
    (hv : s.live? c token = some v) :
    s.touch now token = .ok (some v.gate,
      { s with sessions := s.sessions.insert token { v with lastSeen := now } }) := by
  obtain ⟨hget, hlive⟩ := Option.filter_eq_some_iff.mp hv
  unfold touch
  rw [hc]
  simp only [bind, Except.bind, hget, hlive, if_true]
  rfl

/-- Where nothing live is found, nothing is stored under the token afterwards. -/
theorem touch_of_not_live {token : String} (hc : cutoff now s.idleTtl = .ok c)
    (hv : s.live? c token = none) :
    ∃ r, s.touch now token = .ok (none, { s with sessions := r }) ∧
      ∀ name, r.get? name = if name = token then none else s.sessions.get? name := by
  unfold touch
  rw [hc]
  cases hget : s.sessions.get? token with
  | none =>
    refine ⟨s.sessions, rfl, fun name => ?_⟩
    split
    · rename_i hname
      rw [hname, hget]
    · rfl
  | some v =>
    have hlive : v.isLive c = false := by
      rw [live?, hget] at hv
      simpa [Option.filter] using hv
    refine ⟨s.sessions.erase token, ?_, fun name => Registry.get?_erase _ _ _⟩
    simp only [bind, Except.bind, hlive]
    rfl

theorem finds_eq (hc : cutoff now s.idleTtl = .ok c) (token : String) :
    s.finds now token = (s.live? c token).isSome := by
  unfold finds
  cases hv : s.live? c token with
  | none =>
    obtain ⟨r, hr, -⟩ := touch_of_not_live hc hv
    rw [hr]
    rfl
  | some v =>
    rw [touch_of_live hc hv]
    rfl

/-- Filing twice under one name shows the second value only. -/
theorem get?_insert_insert {α : Type} (r : Registry α) (token name : String) (a b : α) :
    ((r.insert token a).insert token b).get? name
      = if name = token then some b else r.get? name := by
  rw [Registry.get?_insert, Registry.get?_insert]
  split <;> rfl

/-- **The gate of a live session does something and the session is marked as seen**; where there is
    none, the failure is the one given and the token is left without a session. -/
theorem atGate_spec {α : Type} (hc : cutoff now s.idleTtl = .ok c) (token : String)
    (absent : Failure) (act : Gate → Except Failure α × Gate) :
    ∃ r, s.atGate now token absent act =
        .ok ((s.live? c token).elim (.error absent) fun v => (act v.gate).1,
          { s with sessions := r }) ∧
      ∀ name, r.get? name =
        if name = token then (s.live? c token).map fun v => ⟨(act v.gate).2, now⟩
        else s.sessions.get? name := by
  unfold atGate
  cases hv : s.live? c token with
  | none =>
    obtain ⟨r, hr, hget⟩ := touch_of_not_live hc hv
    refine ⟨r, ?_, hget⟩
    rw [hr]
    rfl
  | some v =>
    refine ⟨_, ?_, fun name =>
      get?_insert_insert s.sessions token name { v with lastSeen := now } _⟩
    rw [touch_of_live hc hv]
    rfl

/-- **An errand comes to an answer while its cutoff exists.** A live session has it carried out and
    is marked as seen; where there is none, the answer is the errand's refusal, and the token is left
    without a session. Other sessions, and all challenges, stay as they are. -/
theorem perform_visit (hc : cutoff now s.idleTtl = .ok c) (token : String) (a : Errand) :
    ∃ r, s.perform now (.visit token a) =
        .ok ((s.live? c token).elim a.refusal fun v => (a.carryOut v.gate).1,
          { s with sessions := r }) ∧
      ∀ name, r.get? name =
        if name = token then (s.live? c token).map (Visit.after now a) else s.sessions.get? name := by
  cases a with
  | status =>
    simp only [perform, status]
    cases hv : s.live? c token with
    | none =>
      obtain ⟨r, hr, hget⟩ := touch_of_not_live hc hv
      refine ⟨r, ?_, hget⟩
      rw [hr]
      rfl
    | some v =>
      refine ⟨_, ?_, fun name => Registry.get?_insert s.sessions token name _⟩
      rw [touch_of_live hc hv]
      rfl
  | setConsent choice =>
    obtain ⟨r, hr, hget⟩ := atGate_spec hc token .notLoggedIn
      fun g => (.ok (), g.setConsent choice)
    refine ⟨r, ?_, hget⟩
    simp only [perform, setConsent, hr]
    cases s.live? c token <;> rfl
  | togglePanel =>
    obtain ⟨r, hr, hget⟩ := atGate_spec hc token .notLoggedIn
      fun g => (.ok g.togglePanel.panel, g.togglePanel)
    refine ⟨r, ?_, hget⟩
    simp only [perform, togglePanel, hr]
    cases s.live? c token <;> rfl
  | beginRun input =>
    obtain ⟨r, hr, hget⟩ := atGate_spec hc token .notLoggedIn fun g => g.beginRun input
    refine ⟨r, ?_, hget⟩
    simp only [perform, beginRun, hr]
    cases s.live? c token <;> rfl
  | finishRun ticket =>
    obtain ⟨r, hr, hget⟩ := atGate_spec hc token .sessionEnded fun g => g.finishRun ticket
    refine ⟨r, ?_, hget⟩
    simp only [perform, finishRun, hr]
    cases s.live? c token <;> rfl

/-! ## 4. Looking a challenge up -/

theorem sweep_eq (hc : cutoff now s.captchaTtl = .ok c) :
    s.sweepChallenges now
      = .ok { s with challenges := s.challenges.retain (Issued.isValid c) } := by
  unfold sweepChallenges
  rw [hc]
  rfl

theorem get?_swept (s : Store) (c : Moment) (id : String) :
    (s.challenges.retain (Issued.isValid c)).get? id = s.valid? c id :=
  Registry.get?_retain _ _ _

/-- Without anything typed nothing is judged and nothing is swept. -/
theorem verify_blank {answer : String} (h : Challenge.canSubmit answer = false) (id : String)
    (fresh : Challenge) : s.verify now id answer fresh = .ok (.error .emptyInput, s) := by
  unfold verify
  rw [h]
  rfl

/-- **What a typed answer comes to**, and which challenges there are afterwards: without a valid
    challenge the others that are valid; with a right answer the challenge is marked; with a wrong one
    the next is put in its place. -/
theorem verify_typed {answer : String} (ha : Challenge.canSubmit answer = true)
    (hc : cutoff now s.captchaTtl = .ok c) (id : String) (fresh : Challenge) :
    ∃ r, s.verify now id answer fresh =
        .ok ((s.valid? c id).elim (.error (.unknownChallenge id)) fun i =>
          if i.challenge.accepts answer then .ok .solved else .ok (.retry fresh.view),
          { s with challenges := r }) ∧
      ∀ name, r.get? name =
        match s.valid? c id with
        | none => s.valid? c name
        | some i =>
          if i.challenge.accepts answer then
            if name = id then some { i with solved := true } else s.valid? c name
          else if name = fresh.id then some (.ofChallenge now fresh)
          else if name = id then none else s.valid? c name := by
  unfold verify
  rw [ha, sweep_eq hc]
  simp only [bind, Except.bind, Bool.not_true, Bool.false_eq_true, if_false, get?_swept]
  cases hv : s.valid? c id with
  | none => exact ⟨_, rfl, get?_swept s c⟩
  | some i =>
    simp only [Option.elim]
    cases i.challenge.accepts answer with
    | true =>
      refine ⟨_, rfl, fun name => ?_⟩
      rw [Registry.get?_insert, get?_swept]
      rfl
    | false =>
      refine ⟨_, rfl, fun name => ?_⟩
      rw [Registry.get?_insert, Registry.get?_erase, get?_swept]
      rfl

/-- **What using a challenge up comes to**: a valid one that is solved is gone afterwards. -/
theorem takeSolved_spec (hc : cutoff now s.captchaTtl = .ok c) (id : String) :
    ∃ r, s.takeSolved now id =
        .ok ((s.valid? c id).elim (.error (.unknownChallenge id)) fun i =>
          if i.solved then .ok () else .error .captchaRequired, { s with challenges := r }) ∧
      ∀ name, r.get? name =
        if name = id ∧ (s.valid? c id).any Issued.solved = true then none else s.valid? c name := by
  unfold takeSolved
  rw [sweep_eq hc]
  simp only [bind, Except.bind, get?_swept]
  cases hv : s.valid? c id with
  | none =>
    refine ⟨_, rfl, fun name => ?_⟩
    rw [get?_swept]
    simp
  | some i =>
    obtain ⟨challenge, issuedAt, solved⟩ := i
    simp only [Option.elim, Option.any_some]
    cases solved with
    | true =>
      refine ⟨_, rfl, fun name => ?_⟩
      rw [Registry.get?_erase, get?_swept]
      simp
    | false =>
      refine ⟨_, rfl, fun name => ?_⟩
      rw [get?_swept]
      simp

end Store

end CommandConsole
