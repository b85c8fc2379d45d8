import CommandConsole.Proofs.Store.Sessions

/-!
# Sessions that were left alone

A session under which no run is going on, and which was left alone for its time to live, has expired.
It stays in the store until someone looks: a login looks at all sessions, an errand at its own. Errands
do not show whether anyone has looked; a logout does, since it takes away what is stored without asking
whether it has expired.

* `Past.stored_iff`: a session is stored exactly when it was opened, was not closed since, and nobody
  has looked at it after it had expired;
* `expired_as_unknown`: what an errand and a logout answer for a session that has expired, beside what
  they answer for a token that was never returned.
-/

namespace CommandConsole

/-! ## 1. What is said of the session under a token -/

/-- The session under the token has expired: no run is going on under it, and its time to live has
    passed since it was last seen. -/
def HasExpired (idleTtl : Nat) (t : String) (past : List Event) (later : Moment) : Prop :=
  ¬ StillBusy t past ∧
    ∃ seen, LastSeen t seen past ∧ (reckonedTtl idleTtl : Int) ≤ later - seen

/-- The event looks whether the session under the token has expired: it is a login that has opened a
    session, or an errand for the token. -/
def Event.LooksAt (t : String) (e : Event) : Prop :=
  e.opened?.isSome = true ∨ ∃ a, e.op = .visit t a

/-- Someone has looked at the session under the token after it had expired. -/
def Swept (idleTtl : Nat) (t : String) : List Event → Prop
  | [] => False
  | e :: past => (e.LooksAt t ∧ HasExpired idleTtl t past e.time) ∨ Swept idleTtl t past

section

variable {captchaTtl idleTtl : Nat} {past : List Event} {now later c : Moment} {s : Store}
  {t u : String} {e : Event}

theorem StillOpen.exists_opens (h : StillOpen t past) : ∃ e ∈ past, e.Opens t :=
  Since.exists_mem h

/-- A session that was opened was seen at some time. -/
theorem StillOpen.exists_lastSeen (h : StillOpen t past) : ∃ seen, LastSeen t seen past := by
  obtain ⟨e, hmem, hopens⟩ := h.exists_opens
  exact since_of_exists Event.time ⟨e, hmem, Or.inl hopens⟩

theorem HasExpired.exists_sees (h : HasExpired idleTtl t past later) : ∃ e ∈ past, e.Sees t := by
  obtain ⟨-, seen, hseen, -⟩ := h
  obtain ⟨e, hmem, he⟩ := Since.exists_mem hseen
  exact ⟨e, hmem, he.1⟩

theorem Swept.exists_sees (h : Swept idleTtl t past) : ∃ e ∈ past, e.Sees t := by
  induction past with
  | nil => exact h.elim
  | cons e past ih =>
    have hbefore : ∃ e' ∈ past, e'.Sees t := h.elim (fun h => h.2.exists_sees) ih
    obtain ⟨e', hmem, he'⟩ := hbefore
    exact ⟨e', List.mem_cons_of_mem _ hmem, he'⟩

/-! ## 2. Which sessions are stored -/

theorem Event.not_opens_of_none (h : e.opened? = none) (t : String) : ¬ e.Opens t := by
  intro he
  rw [Event.Opens, h] at he
  cases he

theorem Answer.opened?_eq_none {answer : Answer} (h : ∀ token, answer ≠ .token (.ok token)) :
    answer.opened? = none := by
  unfold opened?
  split
  · exact absurd rfl (h _)
  · rfl

theorem Event.not_sees_of_quiet (hopen : e.opened? = none) (hvisit : ∀ a, e.op ≠ .visit t a) :
    ¬ e.Sees t := by
  intro hsees
  rcases hsees with hopens | hfinds
  · exact Event.not_opens_of_none hopen t hopens
  · unfold Event.Finds Event.errand? at hfinds
    split at hfinds
    · rename_i token a hop
      split at hfinds
      · rename_i hfound
        exact hvisit a (hfound.1 ▸ hop)
      · cases hfinds
    · cases hfinds

/-- Once a session was seen, the cutoff of sessions exists: whoever has seen it needed one. -/
theorem Past.hasCutoff_of_sees (h : Past captchaTtl idleTtl past now s)
    (hsees : ∃ e ∈ past, e.Sees t) : HasCutoff now idleTtl := by
  induction h with
  | new =>
    obtain ⟨e, he, -⟩ := hsees
    cases he
  | @step past now later s s' op answer before le done ih =>
    obtain ⟨e, hmem, he⟩ := hsees
    rcases List.mem_cons.mp hmem with rfl | hmem
    · cases Store.perform_sessions done with
      | opened hc hget => exact before.ttl.2 ▸ hasCutoff_of_eq_ok hc
      | closed hget => exact (Event.not_sees_of_quiet rfl (by simp [Store.record]) he).elim
      | visited hc hget => exact before.ttl.2 ▸ hasCutoff_of_eq_ok hc
      | apart hlogout hvisit hanswer hs =>
        exact (Event.not_sees_of_quiet (Answer.opened?_eq_none hanswer) (hvisit t) he).elim
    · exact (ih ⟨e, hmem, he⟩).of_le le

/-- Nobody has seen a session under a token that was not yet returned. -/
theorem Past.unseen_of_opens (h : Past captchaTtl idleTtl past now s) (fresh : FreshTokens (e :: past))
    (he : e.Opens t) : ∀ e' ∈ past, ¬ e'.Sees t := by
  intro e' hmem hsees
  have hopened : ∃ e'' ∈ past, e''.Opens t := by
    rcases hsees with hopens | hfinds
    · exact ⟨e', hmem, hopens⟩
    · exact (h.session_told fresh.tail t).opened e' hmem (Or.inl hfinds)
  obtain ⟨e'', hmem', hopens⟩ := hopened
  exact fresh.not_before he e'' hmem' hopens

/-- A session that is open and has not expired is live, and conversely. -/
theorem Past.live?_isSome_iff_not_expired (h : Past captchaTtl idleTtl past now s)
    (fresh : FreshTokens past) (le : now ≤ later) (hopen : StillOpen t past) :
    (s.live? (later - (reckonedTtl idleTtl : Int)) t).isSome = true ↔
      ¬ HasExpired idleTtl t past later := by
  rw [h.live?_isSome_iff fresh le t]
  constructor
  · intro hlive hexp
    obtain ⟨hidle, seen, hseen, hle⟩ := hexp
    rcases hlive.2 with hbusy | ⟨seen', hseen', hlt⟩
    · exact hidle hbusy
    · have heq : seen = seen' := hseen.unique hseen'
      rw [heq] at hle
      exact Int.not_le.mpr hlt hle
  · intro hnot
    refine ⟨hopen, ?_⟩
    by_cases hbusy : StillBusy t past
    · exact Or.inl hbusy
    · obtain ⟨seen, hseen⟩ := hopen.exists_lastSeen
      refine Or.inr ⟨seen, hseen, Int.not_le.mp fun hle => hnot ⟨hbusy, seen, hseen, hle⟩⟩

theorem Store.isSome_get?_of_live? (h : (s.live? c t).isSome = true) :
    (s.sessions.get? t).isSome = true := by
  obtain ⟨v, hv⟩ := Option.isSome_iff_exists.mp h
  rw [(Option.filter_eq_some_iff.mp hv).1]
  rfl

/-- An event that opens no session, does not close this one and is no errand for it changes nothing. -/
theorem unswept_cons_of_quiet (hopen : e.opened? = none) (hcloses : ¬ e.Closes t)
    (hvisit : ∀ a, e.op ≠ .visit t a) :
    StillOpen t (e :: past) ∧ ¬ Swept idleTtl t (e :: past) ↔
      StillOpen t past ∧ ¬ Swept idleTtl t past := by
  have hlooks : ¬ e.LooksAt t := by
    intro he
    rcases he with he | ⟨a, he⟩
    · rw [hopen] at he
      cases he
    · exact hvisit a he
  have hswept : Swept idleTtl t (e :: past) ↔ Swept idleTtl t past :=
    or_iff_right fun h => hlooks h.1
  have hstill : StillOpen t (e :: past) ↔ StillOpen t past :=
    since_cons_of_neither (Event.not_opens_of_none hopen t) hcloses
  rw [hswept, hstill]

/-- An event that looks at the session drops it if it has expired. -/
theorem unswept_cons_of_looks (hopens : ¬ e.Opens t) (hcloses : ¬ e.Closes t) (hlooks : e.LooksAt t) :
    StillOpen t (e :: past) ∧ ¬ Swept idleTtl t (e :: past) ↔
      (StillOpen t past ∧ ¬ Swept idleTtl t past) ∧ ¬ HasExpired idleTtl t past e.time := by
  have hswept : Swept idleTtl t (e :: past) ↔
      HasExpired idleTtl t past e.time ∨ Swept idleTtl t past :=
    or_congr_left (and_iff_right hlooks)
  have hopen : StillOpen t (e :: past) ↔ StillOpen t past := since_cons_of_neither hopens hcloses
  rw [hswept, hopen, not_or, and_assoc, and_comm (a := ¬ HasExpired idleTtl t past e.time)]

/-- A look-up keeps the session if it is stored and has not expired. -/
theorem Past.live?_isSome_iff_unswept (h : Past captchaTtl idleTtl past now s)
    (fresh : FreshTokens past) (le : now ≤ later) (hc : cutoff later s.idleTtl = .ok c)
    (stored : (s.sessions.get? t).isSome = true ↔ StillOpen t past ∧ ¬ Swept idleTtl t past) :
    (s.live? c t).isSome = true ↔
      (StillOpen t past ∧ ¬ Swept idleTtl t past) ∧ ¬ HasExpired idleTtl t past later := by
  rw [h.ttl.2] at hc
  rw [cutoff_eq_ok hc]
  constructor
  · intro hlive
    have hkept := stored.mp (Store.isSome_get?_of_live? hlive)
    exact ⟨hkept, (h.live?_isSome_iff_not_expired fresh le hkept.1).mp hlive⟩
  · exact fun hkept => (h.live?_isSome_iff_not_expired fresh le hkept.1.1).mpr hkept.2

/-- **A session is stored exactly when it was opened, was not closed since, and nobody has looked at
    it after it had expired.** -/
theorem Past.stored_iff (h : Past captchaTtl idleTtl past now s) (fresh : FreshTokens past)
    (t : String) :
    (s.sessions.get? t).isSome = true ↔ StillOpen t past ∧ ¬ Swept idleTtl t past := by
  induction h with
  | new => exact iff_of_false (fun h => Bool.noConfusion h) fun h => h.1
  | @step past now later s s' op answer before le done ih =>
    have ih := ih fresh.tail
    have hlive : ∀ {c}, cutoff later s.idleTtl = .ok c → _ := fun hc =>
      before.live?_isSome_iff_unswept fresh.tail le hc ih
    cases Store.perform_sessions done with
    | @opened challenge bypass token c hc hget =>
      rw [hget]
      by_cases ht : t = token
      · subst ht
        have hopens : (s.record later (.login challenge bypass t) (.token (.ok t))).Opens t := rfl
        have hunseen := before.unseen_of_opens fresh hopens
        rw [if_pos rfl]
        refine iff_of_true rfl ⟨Or.inl hopens, fun hswept => ?_⟩
        obtain ⟨e, hmem, hsees⟩ := hswept.elim (fun h => h.2.exists_sees) Swept.exists_sees
        exact hunseen e hmem hsees
      · rw [if_neg ht, hlive hc]
        exact Iff.symm (unswept_cons_of_looks (fun he => ht (Option.some.inj he).symm)
          (fun he => Operation.noConfusion he) (Or.inl rfl))
    | @closed token r hget =>
      rw [hget]
      by_cases ht : t = token
      · subst ht
        rw [if_pos rfl]
        refine iff_of_false (fun h => Bool.noConfusion h) fun hcase => ?_
        rcases hcase.1 with hopens | ⟨hnot, -⟩
        · cases hopens
        · exact hnot rfl
      · rw [if_neg ht, ih]
        exact Iff.symm (unswept_cons_of_quiet rfl (fun he => ht (Operation.logout.inj he).symm)
          fun a he => Operation.noConfusion he)
    | @visited token a c hc hget =>
      have hopen : (s.record later (.visit token a) ((s.live? c token).elim a.refusal
          fun v => (a.carryOut v.gate).1)).opened? = none := opened?_of_errand rfl
      rw [hget]
      by_cases ht : t = token
      · subst ht
        rw [if_pos rfl, Option.isSome_map, hlive hc]
        exact Iff.symm (unswept_cons_of_looks (Event.not_opens_of_none hopen t)
          (fun he => Operation.noConfusion he) (Or.inr ⟨a, rfl⟩))
      · rw [if_neg ht, ih]
        exact Iff.symm (unswept_cons_of_quiet hopen (fun he => Operation.noConfusion he)
          fun a' he => ht (Operation.visit.inj he).1.symm)
    | apart hlogout hvisit hanswer hs =>
      rw [hs, ih]
      exact Iff.symm (unswept_cons_of_quiet (Answer.opened?_eq_none hanswer) (hlogout t) (hvisit t))

/-! ## 3. Expired and unknown sessions -/

theorem Past.live?_of_expired (h : Past captchaTtl idleTtl past now s) (fresh : FreshTokens past)
    (le : now ≤ later) (hexp : HasExpired idleTtl t past later) :
    s.live? (later - (reckonedTtl idleTtl : Int)) t = none := by
  rw [← Option.not_isSome_iff_eq_none]
  intro hlive
  have hopen : StillOpen t past := ((h.live?_isSome_iff fresh le t).mp hlive).1
  exact (h.live?_isSome_iff_not_expired fresh le hopen).mp hlive hexp

theorem Past.get?_of_unknown (h : Past captchaTtl idleTtl past now s) (fresh : FreshTokens past)
    (unknown : ∀ e ∈ past, ¬ e.Opens u) : s.sessions.get? u = none := by
  rw [← Option.not_isSome_iff_eq_none]
  intro hstored
  obtain ⟨e, hmem, hopens⟩ := ((h.stored_iff fresh u).mp hstored).1.exists_opens
  exact unknown e hmem hopens

theorem Store.live?_of_get?_none (hget : s.sessions.get? t = none) (c : Moment) :
    s.live? c t = none := by
  rw [live?, hget]
  rfl

/-- Where no live session is found, an errand is refused and leaves no other session changed. -/
theorem Store.perform_visit_of_none (hc : cutoff now s.idleTtl = .ok c) (hv : s.live? c t = none)
    (a : Errand) :
    ∃ s', s.perform now (.visit t a) = .ok (a.refusal, s') ∧
      ∀ name, s'.sessions.get? name = if name = t then none else s.sessions.get? name := by
  obtain ⟨r, hr, hget⟩ := perform_visit hc t a
  rw [hv] at hr hget
  exact ⟨_, hr, hget⟩

/-- A logout answers whether anything was stored. -/
theorem Store.logout_answer (s : Store) (now : Moment) (t : String) :
    (s.perform now (.logout t)).map Prod.fst =
      .ok (.done (if (s.sessions.get? t).isSome then .ok () else .error .notLoggedIn)) := by
  rw [perform, logout]
  cases s.sessions.get? t <;> rfl

/-- **A session that has expired, beside a token that was never returned.** Every errand answers the
    same for both, and the same whether or not someone has looked at the session before; afterwards
    nothing is stored under the token, and all other sessions are as they were. A logout says of the
    unknown token that nobody is logged in; of the expired session it says so exactly when that was
    closed before, or someone has looked at it after it had expired. -/
theorem expired_as_unknown (h : Past captchaTtl idleTtl past now s) (fresh : FreshTokens past)
    (le : now ≤ later) (hexp : HasExpired idleTtl t past later)
    (unknown : ∀ e ∈ past, ¬ e.Opens u) :
    (∀ a : Errand,
      (∃ s', s.perform later (.visit t a) = .ok (a.refusal, s') ∧
        ∀ name, s'.sessions.get? name = if name = t then none else s.sessions.get? name) ∧
      ∃ s', s.perform later (.visit u a) = .ok (a.refusal, s') ∧
        ∀ name, s'.sessions.get? name = s.sessions.get? name) ∧
    (s.perform later (.logout u)).map Prod.fst = .ok (.done (.error .notLoggedIn)) ∧
    ((s.perform later (.logout t)).map Prod.fst = .ok (.done (.error .notLoggedIn)) ↔
      ¬ StillOpen t past ∨ Swept idleTtl t past) := by
  have hnone : s.sessions.get? u = none := h.get?_of_unknown fresh unknown
  have hs : cutoff later s.idleTtl = .ok (later - (reckonedTtl idleTtl : Int)) := by
    rw [h.ttl.2, ((h.hasCutoff_of_sees hexp.exists_sees).of_le le).cutoff_eq]
  refine ⟨fun a => ⟨Store.perform_visit_of_none hs (h.live?_of_expired fresh le hexp) a, ?_⟩,
    ?_, ?_⟩
  · obtain ⟨s', hperform, hget⟩ :=
      Store.perform_visit_of_none hs (Store.live?_of_get?_none hnone _) a
    refine ⟨s', hperform, fun name => ?_⟩
    rw [hget]
    split
    · rename_i hname
      rw [hname, hnone]
    · rfl
  · rw [Store.logout_answer, hnone]
    rfl
  · have hstored : ¬ (s.sessions.get? t).isSome = true ↔ ¬ StillOpen t past ∨ Swept idleTtl t past := by
      rw [h.stored_iff fresh t, Classical.not_and_iff_not_or_not, Classical.not_not]
    rw [Store.logout_answer, ← hstored]
    cases s.sessions.get? t <;> simp

/-- A login that has passed over the captcha. -/
def Event.freeLogin (now : Moment) (token : String) : Event :=
  { time := now, op := .login none true token, answer := .token (.ok token), found := false }

/-- A session that was opened and never visited expires when its time to live has passed since the
    login. -/
theorem hasExpired_freeLogin (hle : (reckonedTtl idleTtl : Int) ≤ later - now) (t : String) :
    HasExpired idleTtl t [.freeLogin now t] later :=
  ⟨by simp [StillBusy, Since, Event.Admits, Event.freeLogin], now, Or.inl ⟨Or.inl rfl, rfl⟩, hle⟩

/-- After a second client has logged in, the session of the first is as good as unknown to a logout. -/
theorem expired_as_unknown_swept :
    ∃ s, Past 5000 1000 [.freeLogin 1500 "b", .freeLogin 0 "a"] 1500 s ∧
      HasExpired 1000 "a" [.freeLogin 1500 "b", .freeLogin 0 "a"] 1500 ∧
      (s.perform 1500 (.logout "a")).map Prod.fst = .ok (.done (.error .notLoggedIn)) := by
  have h₁ := @Past.step 5000 1000 _ 0 0 _ _ (.login none true "a") (.token (.ok "a")) (.new 0)
    (by decide) rfl
  have h₂ := @Past.step _ _ _ 0 1500 _ _ (.login none true "b") (.token (.ok "b")) h₁ (by decide) rfl
  have hexp : HasExpired 1000 "a" [.freeLogin 1500 "b", .freeLogin 0 "a"] 1500 := by
    refine ⟨?_, 0, Or.inr ⟨?_, Or.inl ⟨Or.inl rfl, rfl⟩⟩, by decide⟩
    · simp [StillBusy, Since, Event.Admits, Event.freeLogin]
    · simp [Event.Sees, Event.Opens, Event.opened?, Answer.opened?, Event.Finds, Event.errand?,
        Event.freeLogin]
  have hswept : Swept 1000 "a" [.freeLogin 1500 "b", .freeLogin 0 "a"] :=
    Or.inl ⟨Or.inl rfl, hasExpired_freeLogin (by decide) "a"⟩
  have hunknown : ∀ e ∈ [Event.freeLogin 1500 "b", .freeLogin 0 "a"], ¬ e.Opens "c" := by
    simp [Event.Opens, Event.opened?, Answer.opened?, Event.freeLogin]
  exact ⟨_, h₂, hexp, (expired_as_unknown h₂ (by decide) (Int.le_refl _) hexp
    hunknown).2.2.mpr (Or.inr hswept)⟩

/-- One second is the time to live. A session that was left alone for one and a half is logged out with
    success; for a token that was never returned there is nobody to log out, nor is there for the
    session itself once a second client has logged in. -/
theorem logout_of_expired :
    ∃ s s', Past 5000 1000 [.freeLogin 0 "a"] 0 s ∧ HasExpired 1000 "a" [.freeLogin 0 "a"] 1500 ∧
      (s.perform 1500 (.logout "a")).map Prod.fst = .ok (.done (.ok ())) ∧
      (s.perform 1500 (.logout "c")).map Prod.fst = .ok (.done (.error .notLoggedIn)) ∧
      s.perform 1500 (.login none true "b") = .ok (.token (.ok "b"), s') ∧
      (s'.perform 1500 (.logout "a")).map Prod.fst = .ok (.done (.error .notLoggedIn)) := by
  have h := @Past.step 5000 1000 _ 0 0 _ _ (.login none true "a") (.token (.ok "a")) (.new 0)
    (by decide) rfl
  exact ⟨_, _, h, hasExpired_freeLogin (by decide) "a", rfl, rfl, rfl, rfl⟩

end

end CommandConsole
