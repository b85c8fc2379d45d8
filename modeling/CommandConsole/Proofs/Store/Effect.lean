import CommandConsole.Proofs.Store.Operation

/-!
# What an operation of the store does

Each operation that was carried out, read back: what it has done to the sessions (`SessionEffect`) and
to the challenges (`ChallengeEffect`), by the look-up of every name, together with what it answered.

* `perform_sessions`, `perform_challenges`: every operation that comes to an answer is one of the cases
  listed;
* `perform_ttl`: no operation changes the times to live.

What holds of every run of the store is proved over these cases and never over the operations
themselves.
-/

namespace CommandConsole

open Store

/-! ## 1. Effects -/

/-- The sessions after an operation. -/
inductive SessionEffect (s : Store) (now : Moment) (s' : Store) : Operation → Answer → Prop where
  /-- A login succeeded: the new session, and of the others those that are live. -/
  | opened {challenge : Option String} {bypass : Bool} {token : String} {c : Moment}
      (hc : cutoff now s.idleTtl = .ok c)
      (hget : ∀ name, s'.sessions.get? name =
        if name = token then some { gate := Gate.new.login, lastSeen := now } else s.live? c name) :
      SessionEffect s now s' (.login challenge bypass token) (.token (.ok token))
  /-- A logout: nothing under the token any more. -/
  | closed {token : String} {r : Except Failure Unit}
      (hget : ∀ name, s'.sessions.get? name = if name = token then none else s.sessions.get? name) :
      SessionEffect s now s' (.logout token) (.done r)
  /-- An errand, carried out if a live session was found. -/
  | visited {token : String} {a : Errand} {c : Moment} (hc : cutoff now s.idleTtl = .ok c)
      (hget : ∀ name, s'.sessions.get? name =
        if name = token then (s.live? c token).map (Visit.after now a) else s.sessions.get? name) :
      SessionEffect s now s' (.visit token a)
        ((s.live? c token).elim a.refusal fun v => (a.carryOut v.gate).1)
  /-- Anything else, a login that was refused included. -/
  | apart {op : Operation} {answer : Answer} (hlogout : ∀ token, op ≠ .logout token)
      (hvisit : ∀ token a, op ≠ .visit token a) (hanswer : ∀ token, answer ≠ .token (.ok token))
      (hs : s'.sessions = s.sessions) : SessionEffect s now s' op answer

/-- The challenges after an operation. -/
inductive ChallengeEffect (s : Store) (now : Moment) (s' : Store) : Operation → Answer → Prop where
  /-- A challenge was put. -/
  | issued {fresh : Challenge} {c : Moment} (hc : cutoff now s.captchaTtl = .ok c)
      (hget : ∀ name, s'.challenges.get? name =
        if name = fresh.id then some (.ofChallenge now fresh) else s.valid? c name) :
      ChallengeEffect s now s' (.issue fresh) (.challenge fresh.view)
  /-- An answer with nothing in it. -/
  | blank {id answer : String} {fresh : Challenge} (ha : Challenge.canSubmit answer = false)
      (hs : s' = s) :
      ChallengeEffect s now s' (.verify id answer fresh) (.verdict (.error .emptyInput))
  /-- An answer to a challenge that is not valid. -/
  | unknown {id answer : String} {fresh : Challenge} {c : Moment}
      (ha : Challenge.canSubmit answer = true) (hc : cutoff now s.captchaTtl = .ok c)
      (hv : s.valid? c id = none) (hget : ∀ name, s'.challenges.get? name = s.valid? c name) :
      ChallengeEffect s now s' (.verify id answer fresh) (.verdict (.error (.unknownChallenge id)))
  /-- A right answer. -/
  | solved {id answer : String} {fresh : Challenge} {c : Moment} {i : Issued}
      (ha : Challenge.canSubmit answer = true) (hc : cutoff now s.captchaTtl = .ok c)
      (hv : s.valid? c id = some i) (hok : i.challenge.accepts answer = true)
      (hget : ∀ name, s'.challenges.get? name =
        if name = id then some { i with solved := true } else s.valid? c name) :
      ChallengeEffect s now s' (.verify id answer fresh) (.verdict (.ok .solved))
  /-- A wrong answer. -/
  | retried {id answer : String} {fresh : Challenge} {c : Moment} {i : Issued}
      (ha : Challenge.canSubmit answer = true) (hc : cutoff now s.captchaTtl = .ok c)
      (hv : s.valid? c id = some i) (hok : i.challenge.accepts answer = false)
      (hget : ∀ name, s'.challenges.get? name =
        if name = fresh.id then some (.ofChallenge now fresh)
        else if name = id then none else s.valid? c name) :
      ChallengeEffect s now s' (.verify id answer fresh) (.verdict (.ok (.retry fresh.view)))
  /-- A login with a solved challenge, which is used up. -/
  | admitted {id token : String} {c : Moment} {i : Issued} (hc : cutoff now s.captchaTtl = .ok c)
      (hv : s.valid? c id = some i) (hsolved : i.solved = true)
      (hget : ∀ name, s'.challenges.get? name = if name = id then none else s.valid? c name) :
      ChallengeEffect s now s' (.login (some id) false token) (.token (.ok token))
  /-- A login with a challenge that does not admit. -/
  | rejected {id token : String} {e : Failure} {c : Moment} (hc : cutoff now s.captchaTtl = .ok c)
      (hget : ∀ name, s'.challenges.get? name = s.valid? c name) :
      ChallengeEffect s now s' (.login (some id) false token) (.token (.error e))
  /-- Anything else does not look at the challenges. -/
  | apart {op : Operation} {answer : Answer} (hissue : ∀ fresh, op ≠ .issue fresh)
      (hverify : ∀ id answer fresh, op ≠ .verify id answer fresh)
      (hlogin : ∀ id token, op ≠ .login (some id) false token)
      (hs : s'.challenges = s.challenges) : ChallengeEffect s now s' op answer

/-! ## 2. Results of computations that may come to a fault -/

theorem map_eq_ok {ε α β : Type} {x : Except ε α} {f : α → β} {b : β} (h : x.map f = .ok b) :
    ∃ a, x = .ok a ∧ f a = b := by
  cases x with
  | error e => cases h
  | ok a =>
    cases h
    exact ⟨a, rfl, rfl⟩

theorem bind_eq_ok {ε α β : Type} {x : Except ε α} {f : α → Except ε β} {b : β}
    (h : (x >>= f) = .ok b) : ∃ a, x = .ok a ∧ f a = .ok b := by
  cases x with
  | error e => cases h
  | ok a => exact ⟨a, rfl, h⟩

namespace Store

variable {s s' : Store} {now : Moment}

/-! ## 3. Logins -/

theorem sweep_cutoff {s₁ : Store} (h : s.sweepChallenges now = .ok s₁) :
    ∃ c, cutoff now s.captchaTtl = .ok c := by
  obtain ⟨c, hc, -⟩ := bind_eq_ok h
  exact ⟨c, hc⟩

/-- **What the captcha comes to before a login.** It is passed over, or there is no challenge; else
    the challenge named is used up if it is valid and solved, and refused if not. -/
theorem passCaptcha_cases {challenge : Option String} {bypass : Bool} {r : Except Failure Unit}
    {s₁ : Store} (h : s.passCaptcha now challenge bypass = .ok (r, s₁)) :
    ((∀ id, challenge = some id → bypass = true) ∧ s₁ = s) ∨
      ∃ id c reg, challenge = some id ∧ bypass = false ∧ cutoff now s.captchaTtl = .ok c ∧
        s₁ = { s with challenges := reg } ∧
        ((∃ i, s.valid? c id = some i ∧ i.solved = true ∧ r = .ok () ∧
            ∀ name, reg.get? name = if name = id then none else s.valid? c name) ∨
          ((∃ e, r = .error e) ∧ ∀ name, reg.get? name = s.valid? c name)) := by
  unfold passCaptcha at h
  split at h
  · rename_i hb
    cases h
    exact Or.inl ⟨fun _ _ => hb, rfl⟩
  · rename_i hb
    split at h
    · cases h
      exact Or.inl ⟨by simp, rfl⟩
    · rename_i id
      obtain ⟨s₂, hs₂, -⟩ := bind_eq_ok h
      obtain ⟨c, hc⟩ := sweep_cutoff hs₂
      obtain ⟨reg, hreg, hget⟩ := takeSolved_spec hc id
      rw [hreg] at h
      refine Or.inr ⟨id, c, reg, rfl, by simpa using hb, hc, ?_⟩
      cases hv : s.valid? c id with
      | none =>
        rw [hv] at h hget
        cases h
        exact ⟨rfl, Or.inr ⟨⟨_, rfl⟩, by simpa using hget⟩⟩
      | some i =>
        rw [hv] at h hget
        obtain ⟨challenge, issuedAt, solved⟩ := i
        cases solved with
        | false =>
          cases h
          exact ⟨rfl, Or.inr ⟨⟨_, rfl⟩, by simpa using hget⟩⟩
        | true =>
          cases h
          exact ⟨rfl, Or.inl ⟨_, rfl, rfl, rfl, by simpa using hget⟩⟩

/-- Passing the captcha touches nothing but the challenges. -/
theorem passCaptcha_frame {challenge : Option String} {bypass : Bool} {r : Except Failure Unit}
    {s₁ : Store} (h : s.passCaptcha now challenge bypass = .ok (r, s₁)) :
    ∃ reg, s₁ = { s with challenges := reg } := by
  rcases passCaptcha_cases h with ⟨-, rfl⟩ | ⟨id, c, reg, -, -, -, hs, -⟩
  · exact ⟨_, rfl⟩
  · exact ⟨reg, hs⟩

/-- **A login is the captcha and then the opening of a session**; a failure of the captcha is the
    failure of the login. -/
theorem login_cases {challenge : Option String} {bypass : Bool} {token : String}
    {r : Except Failure String} (h : s.login now challenge bypass token = .ok (r, s')) :
    (∃ e, r = .error e ∧ s.passCaptcha now challenge bypass = .ok (.error e, s')) ∨
      (r = .ok token ∧ ∃ s₁, s.passCaptcha now challenge bypass = .ok (.ok (), s₁) ∧
        s₁.openSession now token = .ok s') := by
  obtain ⟨⟨r₁, s₁⟩, hpass, h⟩ := bind_eq_ok h
  cases r₁ with
  | error e =>
    cases h
    exact Or.inl ⟨e, rfl, hpass⟩
  | ok u =>
    obtain ⟨s₂, hopen, h⟩ := bind_eq_ok h
    cases h
    exact Or.inr ⟨rfl, s₁, hpass, hopen⟩

theorem openSession_spec {token : String} (h : s.openSession now token = .ok s') :
    ∃ c r, cutoff now s.idleTtl = .ok c ∧ s' = { s with sessions := r } ∧
      ∀ name, r.get? name =
        if name = token then some { gate := Gate.new.login, lastSeen := now }
        else s.live? c name := by
  obtain ⟨c, hc, h⟩ := bind_eq_ok h
  cases h
  refine ⟨c, _, hc, rfl, fun name => ?_⟩
  rw [Registry.get?_insert, Registry.get?_retain]
  rfl

theorem openSession_of_cutoff {c : Moment} (hc : cutoff now s.idleTtl = .ok c) (token : String) :
    ∃ s', s.openSession now token = .ok s' := by
  unfold openSession
  rw [hc]
  exact ⟨_, rfl⟩

/-- **A login with a challenge comes to an answer while the cutoff of challenges exists**, and that of
    sessions if one is opened: it succeeds if the challenge is valid and solved. -/
theorem login_spec {c : Moment} {id : String} (hc : cutoff now s.captchaTtl = .ok c)
    (hd : ∀ i, s.valid? c id = some i → i.solved = true → ∃ d, cutoff now s.idleTtl = .ok d)
    (token : String) :
    ∃ s', s.login now (some id) false token =
      .ok ((s.valid? c id).elim (.error (.unknownChallenge id)) fun i =>
        if i.solved then .ok token else .error .captchaRequired, s') := by
  obtain ⟨reg, hreg, -⟩ := takeSolved_spec hc id
  simp only [login, passCaptcha, hreg, Bool.false_eq_true, if_false, bind, Except.bind]
  cases hv : s.valid? c id with
  | none => exact ⟨_, rfl⟩
  | some i =>
    have hd := hd i hv
    obtain ⟨challenge, issuedAt, solved⟩ := i
    cases solved with
    | false => exact ⟨_, rfl⟩
    | true =>
      obtain ⟨d, hd⟩ := hd rfl
      obtain ⟨s', hopen⟩ := openSession_of_cutoff (s := { s with challenges := reg }) hd token
      refine ⟨s', ?_⟩
      simp only [Option.elim, if_true, hopen]
      rfl

/-! ## 4. Reading an operation back -/

theorem issue_spec {fresh : Challenge} {r : ChallengeView × Store} (h : s.issue now fresh = .ok r) :
    ∃ c reg, cutoff now s.captchaTtl = .ok c ∧ r = (fresh.view, { s with challenges := reg }) ∧
      ∀ name, reg.get? name =
        if name = fresh.id then some (.ofChallenge now fresh) else s.valid? c name := by
  obtain ⟨s₁, hs₁, h⟩ := bind_eq_ok h
  obtain ⟨c, hc⟩ := sweep_cutoff hs₁
  rw [sweep_eq hc] at hs₁
  cases hs₁
  cases h
  refine ⟨c, _, hc, rfl, fun name => ?_⟩
  rw [Registry.get?_insert, get?_swept]

/-- A typed answer is judged only where the cutoff exists. -/
theorem verify_cutoff {id answer : String} {fresh : Challenge} {r : Result Verdict}
    (ha : Challenge.canSubmit answer = true) (h : s.verify now id answer fresh = .ok r) :
    ∃ c, cutoff now s.captchaTtl = .ok c := by
  unfold verify at h
  rw [ha] at h
  obtain ⟨s₁, hs₁, -⟩ := bind_eq_ok h
  exact sweep_cutoff hs₁

theorem verify_frame {id answer : String} {fresh : Challenge} {r : Except Failure Verdict}
    (h : s.verify now id answer fresh = .ok (r, s')) : ∃ reg, s' = { s with challenges := reg } := by
  cases ha : Challenge.canSubmit answer with
  | false =>
    rw [verify_blank ha] at h
    cases h
    exact ⟨_, rfl⟩
  | true =>
    obtain ⟨c, hc⟩ := verify_cutoff ha h
    obtain ⟨reg, hreg, -⟩ := verify_typed ha hc id fresh
    rw [hreg] at h
    cases h
    exact ⟨reg, rfl⟩

theorem visit_cutoff {token : String} {a : Errand} {r : Answer × Store}
    (h : s.perform now (.visit token a) = .ok r) : ∃ c, cutoff now s.idleTtl = .ok c := by
  have key : ∀ {r}, s.touch now token = .ok r → ∃ c, cutoff now s.idleTtl = .ok c := fun h => by
    obtain ⟨c, hc, -⟩ := bind_eq_ok h
    exact ⟨c, hc⟩
  -- every errand starts with the same look-up
  cases a <;> obtain ⟨r₁, h, -⟩ := map_eq_ok h <;> obtain ⟨r₂, h, -⟩ := bind_eq_ok h <;> exact key h

theorem visit_spec {token : String} {a : Errand} {answer : Answer}
    (h : s.perform now (.visit token a) = .ok (answer, s')) :
    ∃ c r, cutoff now s.idleTtl = .ok c ∧ s' = { s with sessions := r } ∧
      answer = ((s.live? c token).elim a.refusal fun v => (a.carryOut v.gate).1) ∧
      ∀ name, r.get? name =
        if name = token then (s.live? c token).map (Visit.after now a) else s.sessions.get? name := by
  obtain ⟨c, hc⟩ := visit_cutoff h
  obtain ⟨r, hr, hget⟩ := perform_visit hc token a
  rw [hr] at h
  cases h
  exact ⟨c, r, hc, rfl, rfl, hget⟩

/-- **What an operation has done to the sessions.** -/
theorem perform_sessions {op : Operation} {answer : Answer} (h : s.perform now op = .ok (answer, s')) :
    SessionEffect s now s' op answer := by
  cases op with
  | issue fresh =>
    obtain ⟨r, hr, e⟩ := map_eq_ok h
    obtain ⟨c, reg, -, rfl, -⟩ := issue_spec hr
    cases e
    exact .apart (by simp) (by simp) (by simp) rfl
  | verify id ans fresh =>
    obtain ⟨⟨r, s₁⟩, hr, e⟩ := map_eq_ok h
    obtain ⟨reg, rfl⟩ := verify_frame hr
    cases e
    exact .apart (by simp) (by simp) (by simp) rfl
  | login challenge bypass token =>
    obtain ⟨⟨r, s₁⟩, hr, e⟩ := map_eq_ok h
    cases e
    rcases login_cases hr with ⟨e, rfl, hpass⟩ | ⟨rfl, s₁, hpass, hopen⟩
    · obtain ⟨reg, rfl⟩ := passCaptcha_frame hpass
      exact .apart (by simp) (by simp) (by simp) rfl
    · obtain ⟨reg, rfl⟩ := passCaptcha_frame hpass
      obtain ⟨c, reg', hc, rfl, hget⟩ := openSession_spec hopen
      exact .opened hc hget
  | logout token =>
    simp only [perform, Except.ok.injEq, Prod.mk.injEq] at h
    obtain ⟨rfl, rfl⟩ := h
    refine .closed fun name => ?_
    unfold logout
    cases hget : s.sessions.get? token with
    | none =>
      simp only
      split
      · rename_i hname
        rw [hname, hget]
      · rfl
    | some v => exact Registry.get?_erase _ _ _
  | visit token a =>
    obtain ⟨c, reg, hc, rfl, rfl, hget⟩ := visit_spec h
    exact .visited hc hget
  | glance =>
    cases h
    exact .apart (by simp) (by simp) (by simp) rfl

theorem login_challenges {challenge : Option String} {bypass : Bool} {token : String}
    {r : Except Failure String} (h : s.login now challenge bypass token = .ok (r, s')) :
    ChallengeEffect s now s' (.login challenge bypass token) (.token r) := by
  rcases login_cases h with ⟨e, rfl, hpass⟩ | ⟨rfl, s₁, hpass, hopen⟩
  · rcases passCaptcha_cases hpass with ⟨hskip, rfl⟩ | ⟨id, c, reg, rfl, rfl, hc, rfl, hr⟩
    · refine .apart (by simp) (by simp) (fun id token e => ?_) rfl
      cases e
      exact Bool.noConfusion (hskip id rfl)
    · rcases hr with ⟨i, -, -, hr, -⟩ | ⟨-, hget⟩
      · cases hr
      · exact .rejected hc hget
  · obtain ⟨c', reg', -, rfl, -⟩ := openSession_spec hopen
    rcases passCaptcha_cases hpass with ⟨hskip, rfl⟩ | ⟨id, c, reg, rfl, rfl, hc, rfl, hr⟩
    · refine .apart (by simp) (by simp) (fun id token e => ?_) rfl
      cases e
      exact Bool.noConfusion (hskip id rfl)
    · rcases hr with ⟨i, hv, hsolved, -, hget⟩ | ⟨⟨e, hr⟩, -⟩
      · exact .admitted hc hv hsolved hget
      · cases hr

/-- **What an operation has done to the challenges.** -/
theorem perform_challenges {op : Operation} {answer : Answer}
    (h : s.perform now op = .ok (answer, s')) : ChallengeEffect s now s' op answer := by
  cases op with
  | issue fresh =>
    obtain ⟨r, hr, e⟩ := map_eq_ok h
    obtain ⟨c, reg, hc, rfl, hget⟩ := issue_spec hr
    cases e
    exact .issued hc hget
  | verify id ans fresh =>
    obtain ⟨⟨r, s₁⟩, hr, e⟩ := map_eq_ok h
    cases e
    cases ha : Challenge.canSubmit ans with
    | false =>
      rw [verify_blank ha] at hr
      cases hr
      exact .blank ha rfl
    | true =>
      obtain ⟨c, hc⟩ := verify_cutoff ha hr
      obtain ⟨reg, hreg, hget⟩ := verify_typed ha hc id fresh
      rw [hreg] at hr
      cases hv : s.valid? c id with
      | none =>
        rw [hv] at hr hget
        cases hr
        exact .unknown ha hc hv hget
      | some i =>
        rw [hv] at hr hget
        simp only [Option.elim] at hr hget
        cases hok : i.challenge.accepts ans with
        | true =>
          rw [hok] at hr hget
          cases hr
          exact .solved ha hc hv hok hget
        | false =>
          rw [hok] at hr hget
          cases hr
          exact .retried ha hc hv hok hget
  | login challenge bypass token =>
    obtain ⟨⟨r, s₁⟩, hr, e⟩ := map_eq_ok h
    cases e
    exact login_challenges hr
  | logout token =>
    simp only [perform, Except.ok.injEq, Prod.mk.injEq] at h
    obtain ⟨rfl, rfl⟩ := h
    refine .apart (by simp) (by simp) (by simp) ?_
    unfold logout
    split <;> rfl
  | visit token a =>
    obtain ⟨c, reg, -, rfl, -⟩ := visit_spec h
    exact .apart (by simp) (by simp) (by simp) rfl
  | glance =>
    cases h
    exact .apart (by simp) (by simp) (by simp) rfl

/-- **No operation changes the times to live.** -/
theorem perform_ttl {op : Operation} {answer : Answer} (h : s.perform now op = .ok (answer, s')) :
    s'.captchaTtl = s.captchaTtl ∧ s'.idleTtl = s.idleTtl := by
  cases op with
  | issue fresh =>
    obtain ⟨r, hr, e⟩ := map_eq_ok h
    obtain ⟨c, reg, -, rfl, -⟩ := issue_spec hr
    cases e
    exact ⟨rfl, rfl⟩
  | verify id ans fresh =>
    obtain ⟨⟨r, s₁⟩, hr, e⟩ := map_eq_ok h
    obtain ⟨reg, rfl⟩ := verify_frame hr
    cases e
    exact ⟨rfl, rfl⟩
  | login challenge bypass token =>
    obtain ⟨⟨r, s₁⟩, hr, e⟩ := map_eq_ok h
    cases e
    rcases login_cases hr with ⟨e, -, hpass⟩ | ⟨-, s₁, hpass, hopen⟩
    · obtain ⟨reg, rfl⟩ := passCaptcha_frame hpass
      exact ⟨rfl, rfl⟩
    · obtain ⟨reg, rfl⟩ := passCaptcha_frame hpass
      obtain ⟨c, reg', -, rfl, -⟩ := openSession_spec hopen
      exact ⟨rfl, rfl⟩
  | logout token =>
    simp only [perform, Except.ok.injEq, Prod.mk.injEq] at h
    obtain ⟨-, rfl⟩ := h
    unfold logout
    split <;> exact ⟨rfl, rfl⟩
  | visit token a =>
    obtain ⟨c, reg, -, rfl, -⟩ := visit_spec h
    exact ⟨rfl, rfl⟩
  | glance =>
    cases h
    exact ⟨rfl, rfl⟩

end Store

end CommandConsole
