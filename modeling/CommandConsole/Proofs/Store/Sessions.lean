import CommandConsole.Proofs.Store.History

/-!
# Sessions on their own

All visitors share one store, and expired sessions leave it at different times: one when it is looked
up, all of them when anyone logs in. Here each session is set beside one that is kept alone, which is
told only what happens to its own token and which nobody sweeps.

* `Past.live?_eq_lone`: for every cutoff that is still to come, the session in the store and the one
  that is kept alone are live together, and then they are the same;
* `Past.session_told`: the session that is kept alone, told by the history: whether it is there, its
  gate, when it was seen, and whether a run is going on;
* `visit_as_alone`: what an errand finds, and what it answers.
-/

namespace CommandConsole

/-! ## 1. What happens to one token -/

/-- What happens to the session under one token. -/
inductive Stir where
  | opened
  | closed
  | visited (a : Errand)

namespace Event

/-- What an event is for a token, and when: its login, its logout or an errand. -/
def stir? (t : String) (e : Event) : Option (Moment × Stir) :=
  if e.opened? = some t then some (e.time, .opened)
  else
    match e.op with
    | .logout token => if token = t then some (e.time, .closed) else none
    | .visit token a => if token = t then some (e.time, .visited a) else none
    | _ => none

variable {t : String} {e : Event}

theorem stir?_of_opens (h : e.Opens t) : e.stir? t = some (e.time, .opened) :=
  if_pos h

theorem stir?_of_logout {token : String} (hop : e.op = .logout token) (hopen : e.opened? = none) :
    e.stir? t = if token = t then some (e.time, .closed) else none := by
  unfold stir?
  rw [hopen, if_neg (by simp), hop]

theorem stir?_of_visit {token : String} {a : Errand} (hop : e.op = .visit token a)
    (hopen : e.opened? = none) :
    e.stir? t = if token = t then some (e.time, .visited a) else none := by
  unfold stir?
  rw [hopen, if_neg (by simp), hop]

theorem stir?_of_other (hlogout : ∀ token, e.op ≠ .logout token)
    (hvisit : ∀ token a, e.op ≠ .visit token a) (hopen : ¬ e.Opens t) : e.stir? t = none := by
  unfold stir?
  rw [if_neg (show ¬ e.opened? = some t from hopen)]
  split
  · rename_i hop
    exact absurd hop (hlogout _)
  · rename_i hop
    exact absurd hop (hvisit _ _)
  · rfl

end Event

/-- Everything that has happened to the session under a token. -/
def stirs (t : String) (past : List Event) : List (Moment × Stir) := past.filterMap (Event.stir? t)

theorem stirs_cons_none {e : Event} {t : String} {past : List Event} (h : e.stir? t = none) :
    stirs t (e :: past) = stirs t past :=
  List.filterMap_cons_none h

theorem stirs_cons_some {e : Event} {t : String} {past : List Event} {x : Moment × Stir}
    (h : e.stir? t = some x) : stirs t (e :: past) = x :: stirs t past :=
  List.filterMap_cons_some h

/-- The session under one token after an operation. -/
inductive TokenEffect (s : Store) (now : Moment) (s' : Store) (t : String) (e : Event) : Prop where
  | opened (he : e.Opens t) (hop : ∃ challenge bypass, e.op = .login challenge bypass t)
      (hget : s'.sessions.get? t = some { gate := Gate.new.login, lastSeen := now })
  | closed (he : e.stir? t = some (e.time, .closed)) (hop : e.op = .logout t)
      (hopen : e.opened? = none) (hget : s'.sessions.get? t = none)
  | visited {a : Errand} {c : Moment} (he : e.stir? t = some (e.time, .visited a))
      (hop : e.op = .visit t a) (hc : cutoff now s.idleTtl = .ok c)
      (hanswer : e.answer = (s.live? c t).elim a.refusal fun v => (a.carryOut v.gate).1)
      (hget : s'.sessions.get? t = (s.live? c t).map (Visit.after now a))
  /-- The event is none of the token's; the session stays, or is swept if it has expired. -/
  | apart (he : e.stir? t = none)
      (hget : s'.sessions.get? t = s.sessions.get? t ∨
        ∃ c, cutoff now s.idleTtl = .ok c ∧ s'.sessions.get? t = s.live? c t)

/-- The answer to an errand is no token. -/
theorem opened?_of_errand {e : Event} {a : Errand} {v : Option Visit}
    (h : e.answer = v.elim a.refusal fun v => (a.carryOut v.gate).1) : e.opened? = none := by
  unfold Event.opened?
  rw [h]
  cases v with
  | none => cases a <;> rfl
  | some v => cases a <;> rfl

/-- **What an operation has done to the session under one token.** -/
theorem Store.perform_token {s s' : Store} {now : Moment} {op : Operation} {answer : Answer}
    (h : s.perform now op = .ok (answer, s')) (t : String) :
    TokenEffect s now s' t (s.record now op answer) := by
  cases perform_sessions h with
  | @opened challenge bypass token c hc hget =>
    by_cases ht : t = token
    · subst ht
      exact .opened rfl ⟨challenge, bypass, rfl⟩ (by rw [hget, if_pos rfl])
    · refine .apart (Event.stir?_of_other (fun _ h => by cases h) (fun _ _ h => by cases h)
        fun he => ?_)
        (Or.inr ⟨c, hc, by rw [hget, if_neg ht]⟩)
      exact ht (Option.some.inj he).symm
  | @closed token r hget =>
    have he := Event.stir?_of_logout (t := t) (e := s.record now (.logout token) (.done r)) rfl rfl
    by_cases ht : token = t
    · subst ht
      exact .closed (he.trans (if_pos rfl)) rfl rfl (by rw [hget, if_pos rfl])
    · exact .apart (he.trans (if_neg ht)) (Or.inl (by rw [hget, if_neg (Ne.symm ht)]))
  | @visited token a c hc hget =>
    have he := Event.stir?_of_visit (t := t) (e := s.record now (.visit token a) _) rfl
      (opened?_of_errand (a := a) (v := s.live? c token) rfl)
    by_cases ht : token = t
    · subst ht
      exact .visited (he.trans (if_pos rfl)) rfl hc rfl (by rw [hget, if_pos rfl])
    · exact .apart (he.trans (if_neg ht)) (Or.inl (by rw [hget, if_neg (Ne.symm ht)]))
  | apart hlogout hvisit hanswer hs =>
    refine .apart (Event.stir?_of_other hlogout hvisit fun he => ?_) (Or.inl (by rw [hs]))
    unfold Event.Opens Event.opened? Answer.opened? at he
    split at he
    · rename_i token heq
      exact hanswer token heq
    · cases he

/-! ## 2. The store keeps each session as if it were alone -/

/-- The session that comes of what has happened to it. It is dropped only when it is visited after it
    has expired. -/
def lone (idleTtl : Nat) : List (Moment × Stir) → Option Visit
  | [] => none
  | (now, .opened) :: _ => some { gate := Gate.new.login, lastSeen := now }
  | (_, .closed) :: _ => none
  | (now, .visited a) :: before =>
    ((lone idleTtl before).filter (Visit.isLive (now - (reckonedTtl idleTtl : Int)))).map
      (Visit.after now a)

/-- A sweep hides nothing that would be live later. -/
theorem filter_isLive_of_le {c c' : Moment} (le : c ≤ c') (v : Option Visit) :
    (v.filter (Visit.isLive c)).filter (Visit.isLive c') = v.filter (Visit.isLive c') := by
  cases v with
  | none => rfl
  | some v =>
    cases hlive : v.isLive c' with
    | false => cases hc : v.isLive c <;> simp [Option.filter, hlive, hc]
    | true => simp [Option.filter, hlive, Visit.isLive_of_le le hlive]

section

variable {captchaTtl idleTtl : Nat} {past : List Event} {now later c : Moment} {s : Store}

/-- **For a cutoff that is still to come, a stored session and the lone one are live together and then
    they are the same.** -/
theorem Past.live?_eq_lone (h : Past captchaTtl idleTtl past now s) (t : String)
    (le : now - (reckonedTtl idleTtl : Int) ≤ c) :
    s.live? c t = (lone idleTtl (stirs t past)).filter (Visit.isLive c) := by
  induction h generalizing c with
  | new => rfl
  | @step past now later s s' op answer before mono done ih =>
    have le' : now - (reckonedTtl idleTtl : Int) ≤ later - (reckonedTtl idleTtl : Int) :=
      Int.sub_le_sub_right mono _
    have ih' := ih (Int.le_trans le' le)
    cases Store.perform_token done t with
    | opened he hop hget =>
      rw [stirs_cons_some (Event.stir?_of_opens he)]
      unfold Store.live?
      rw [hget]
      rfl
    | closed he hop hopen hget =>
      rw [stirs_cons_some he]
      unfold Store.live?
      rw [hget]
      rfl
    | @visited a c' he hop hc hanswer hget =>
      rw [before.ttl.2] at hc
      rw [stirs_cons_some he]
      unfold Store.live?
      rw [hget, cutoff_eq_ok hc, ih le']
      rfl
    | apart he hget =>
      rw [stirs_cons_none he]
      rcases hget with hget | ⟨c', hc, hget⟩
      · unfold Store.live?
        rw [hget]
        exact ih'
      · rw [before.ttl.2] at hc
        rw [← ih']
        unfold Store.live?
        rw [hget]
        exact filter_isLive_of_le (cutoff_eq_ok hc ▸ le) _

end

/-! ## 3. A lone session, told by the history -/

/-- A run is going on after an errand if the errand has admitted it, or if it was going on and the
    errand has not released the session. -/
theorem Errand.running_carryOut {a : Errand} {g : Gate} {t : String} {e : Event}
    (hop : e.op = .visit t a) (hanswer : e.answer = (a.carryOut g).1) :
    (a.carryOut g).2.running = true ↔ e.Admits t ∨ (¬ e.Releases t ∧ g.running = true) := by
  unfold Event.Admits Event.Releases
  rw [hop, hanswer]
  cases a with
  | status | setConsent | togglePanel => simp [carryOut, Gate.setConsent, Gate.togglePanel]
  | beginRun input =>
    simp only [carryOut, Gate.beginRun]
    split
    · simp
    · split
      · simp
      · split <;> simp
  | finishRun ticket =>
    simp only [carryOut, Gate.finishRun]
    split <;> simp

/-- What the history says of a lone session. -/
structure SessionTold (idleTtl : Nat) (past : List Event) (now : Moment) (t : String) : Prop where
  /-- A session that is there was opened and not closed since; its gate is the gate that got the
      token's own errands, and its run is one that was admitted and not released since. -/
  there : ∀ v, lone idleTtl (stirs t past) = some v →
    StillOpen t past ∧ v.gate = loneGate t past ∧
      LastSeen t v.lastSeen past ∧
      (v.gate.running = true ↔ StillBusy t past)
  /-- One that was opened, not closed since and is not there has expired, with no run going on. -/
  gone : lone idleTtl (stirs t past) = none → StillOpen t past →
    ¬ StillBusy t past ∧
      ∃ seen, LastSeen t seen past ∧ seen ≤ now - (reckonedTtl idleTtl : Int)
  /-- Nothing has found a session, or admitted a run, for a token that no login has returned. -/
  opened : ∀ e ∈ past, e.Finds t ∨ e.Admits t → ∃ e' ∈ past, e'.Opens t

section

variable {captchaTtl idleTtl : Nat} {past : List Event} {now later c : Moment} {s : Store}
  {t : String} {e : Event}

/-- An event that is none of the token's is nothing to it. -/
theorem Event.quiet_of_stir?_none (h : e.stir? t = none) :
    ¬ e.Opens t ∧ ¬ e.Closes t ∧ e.errand? t = none ∧ ¬ e.Admits t ∧ ¬ e.Releases t := by
  unfold stir? at h
  split at h
  · cases h
  · rename_i hopen
    refine ⟨hopen, ?_⟩
    unfold Closes errand? Admits Releases
    cases hop : e.op with
    | logout token =>
      rw [hop] at h
      simp_all
    | visit token a =>
      rw [hop] at h
      simp_all
    | _ => simp

theorem loneGate_cons_none (h : e.errand? t = none) :
    loneGate t (e :: past) = loneGate t past := by
  unfold loneGate
  rw [List.filterMap_cons_none h]

theorem loneGate_cons_some {a : Errand} (h : e.errand? t = some a) :
    loneGate t (e :: past) = (a.carryOut (loneGate t past)).2 := by
  unfold loneGate
  rw [List.filterMap_cons_some h]
  rfl

/-- Nobody has asked anything of a token that was never returned. -/
theorem loneGate_of_unseen (h : ∀ e ∈ past, ¬ e.Finds t) : loneGate t past = Gate.new.login := by
  have hnone : past.filterMap (Event.errand? t) = [] := by
    refine List.filterMap_eq_nil_iff.mpr fun e he => ?_
    have := h e he
    simpa [Event.Finds] using this
  unfold loneGate
  rw [hnone]
  rfl

/-- What was last seen of a token stays when an event does not see it. -/
theorem lastSeen_cons_of_not_sees {seen : Moment} (h : ¬ e.Sees t) :
    LastSeen t seen (e :: past) ↔ LastSeen t seen past :=
  since_cons_of_neither (fun he => h he.1) h

/-- Each event finds or admits only what was opened before. -/
theorem SessionTold.opened_cons (h : SessionTold idleTtl past now t)
    (he : e.Finds t ∨ e.Admits t → ∃ e' ∈ past, e'.Opens t) :
    ∀ e' ∈ e :: past, e'.Finds t ∨ e'.Admits t → ∃ e'' ∈ e :: past, e''.Opens t := by
  intro e' hmem hfind
  have hpast : ∃ e'' ∈ past, e''.Opens t := by
    rcases List.mem_cons.mp hmem with rfl | hmem
    · exact he hfind
    · exact h.opened e' hmem hfind
  obtain ⟨e'', hmem', hopen⟩ := hpast
  exact ⟨e'', List.mem_cons_of_mem _ hmem', hopen⟩

/-! ### One event -/

theorem SessionTold.new : SessionTold idleTtl [] now t where
  there := by simp [stirs, lone]
  gone := fun _ h => h.elim
  opened := by simp

/-- An event that is none of the token's changes nothing that is said of it. -/
theorem SessionTold.apart (h : SessionTold idleTtl past now t) (le : now ≤ later)
    (he : e.stir? t = none) :
    SessionTold idleTtl (e :: past) later t := by
  obtain ⟨hopen, hclose, herrand, haccept, hrelease⟩ := Event.quiet_of_stir?_none he
  have hfind : ¬ e.Finds t := by simp [Event.Finds, herrand]
  have hsee : ¬ e.Sees t := fun hs => hs.elim hopen hfind
  have hO : StillOpen t (e :: past) ↔ StillOpen t past := since_cons_of_neither hopen hclose
  have hR : StillBusy t (e :: past) ↔ StillBusy t past := since_cons_of_neither haccept hrelease
  refine ⟨fun v hv => ?_, fun hnone hsince => ?_, h.opened_cons fun hf => ?_⟩
  · rw [stirs_cons_none he] at hv
    obtain ⟨hsince, hgate, hseen, hrun⟩ := h.there v hv
    refine ⟨hO.mpr hsince, ?_, (lastSeen_cons_of_not_sees hsee).mpr hseen, hrun.trans hR.symm⟩
    rw [loneGate_cons_none herrand]
    exact hgate
  · rw [stirs_cons_none he] at hnone
    obtain ⟨hrun, seen, hseen, hle⟩ := h.gone hnone (hO.mp hsince)
    exact ⟨fun hr => hrun (hR.mp hr), seen, (lastSeen_cons_of_not_sees hsee).mpr hseen,
      Int.le_trans hle (Int.sub_le_sub_right le _)⟩
  · exact absurd hf (not_or_intro hfind haccept)

/-- A login returns a token of which nothing was heard before. -/
theorem SessionTold.open (h : SessionTold idleTtl past now t) (he : e.Opens t)
    (hop : ∃ challenge bypass, e.op = .login challenge bypass t) (fresh : FreshTokens (e :: past)) :
    SessionTold idleTtl (e :: past) e.time t := by
  have hunseen : ∀ e' ∈ past, ¬ (e'.Finds t ∨ e'.Admits t) := fun e' hmem hf => by
    obtain ⟨e'', hmem', hopen⟩ := h.opened e' hmem hf
    exact fresh.not_before he e'' hmem' hopen
  obtain ⟨challenge, bypass, hop⟩ := hop
  have herrand : e.errand? t = none := by simp [Event.errand?, hop]
  have haccept : ¬ e.Admits t := by simp [Event.Admits, hop]
  refine ⟨fun v hv => ?_, fun hnone => ?_, fun _ _ _ => ⟨e, List.mem_cons_self, he⟩⟩
  · rw [stirs_cons_some (Event.stir?_of_opens he)] at hv
    cases hv
    refine ⟨Or.inl he, ?_, Or.inl ⟨Or.inl he, rfl⟩, fun hrun => Bool.noConfusion hrun, ?_⟩
    · rw [loneGate_cons_none herrand, loneGate_of_unseen fun e' hmem hf => hunseen e' hmem (Or.inl hf)]
    · intro hsince
      obtain ⟨e', hmem, haccept'⟩ := hsince.exists_mem
      rcases List.mem_cons.mp hmem with rfl | hmem
      · exact absurd haccept' haccept
      · exact absurd (Or.inr haccept') (hunseen e' hmem)
  · rw [stirs_cons_some (Event.stir?_of_opens he)] at hnone
    cases hnone

/-- After a logout there is no session, and none that was not closed. -/
theorem SessionTold.close (h : SessionTold idleTtl past now t) (he : e.stir? t = some (e.time, .closed))
    (hop : e.op = .logout t) (hopen : e.opened? = none) : SessionTold idleTtl (e :: past) later t := by
  have hnot : ¬ e.Opens t := by simp [Event.Opens, hopen]
  refine ⟨fun v hv => ?_, fun _ hsince => ?_, h.opened_cons fun hf => ?_⟩
  · rw [stirs_cons_some he] at hv
    cases hv
  · rcases hsince with hs | ⟨hclose, -⟩
    · exact absurd hs hnot
    · exact absurd hop hclose
  · rcases hf with hf | ⟨input, ticket, haccept, -⟩
    · simp [Event.Finds, Event.errand?, hop] at hf
    · rw [hop] at haccept
      cases haccept

section Visited

variable {a : Errand} {v : Visit} (hop : e.op = .visit t a)
include hop

theorem Event.errand?_of_visit : e.errand? t = if e.found = true then some a else none := by
  simp [errand?, hop]

theorem stillOpen_cons_of_visit (hopen : e.opened? = none) :
    StillOpen t (e :: past) ↔ StillOpen t past :=
  since_cons_of_neither (by simp [Event.Opens, hopen]) (by simp [Event.Closes, hop])

/-- An errand that finds its session is the last that has seen it. -/
theorem SessionTold.visit_found (h : SessionTold idleTtl past now t)
    (he : e.stir? t = some (e.time, .visited a))
    (hfound : e.found = true) (hanswer : e.answer = (a.carryOut v.gate).1)
    (hv : (lone idleTtl (stirs t past)).filter
      (Visit.isLive (e.time - (reckonedTtl idleTtl : Int))) = some v) :
    SessionTold idleTtl (e :: past) e.time t := by
  have herrand : e.errand? t = some a := (Event.errand?_of_visit hop).trans (if_pos hfound)
  have hfind : e.Finds t := by simp [Event.Finds, herrand]
  have hO : StillOpen t (e :: past) ↔ StillOpen t past :=
    stillOpen_cons_of_visit hop (opened?_of_errand (a := a) (v := some v) hanswer)
  obtain ⟨hlone, -⟩ := Option.filter_eq_some_iff.mp hv
  obtain ⟨hsince, hgate, -, hrun⟩ := h.there v hlone
  have hstirs : lone idleTtl (stirs t (e :: past)) = some (v.after e.time a) := by
    rw [stirs_cons_some he, lone, hv]
    rfl
  refine ⟨fun v' hv' => ?_, fun hnone => ?_, h.opened_cons fun _ => ?_⟩
  · rw [hstirs] at hv'
    cases hv'
    refine ⟨hO.mpr hsince, ?_, Or.inl ⟨Or.inr hfind, rfl⟩, ?_⟩
    · rw [loneGate_cons_some herrand, ← hgate]
      rfl
    · exact (Errand.running_carryOut hop hanswer).trans
        (or_congr_right (and_congr_right fun _ => hrun))
  · rw [hstirs] at hnone
    cases hnone
  · exact hsince.exists_mem

/-- An errand that finds nothing changes nothing that is said, and drops a session only if it has
    expired. -/
theorem SessionTold.visit_missed (h : SessionTold idleTtl past now t) (le : now ≤ e.time)
    (he : e.stir? t = some (e.time, .visited a)) (hfound : e.found = false)
    (hanswer : e.answer = a.refusal)
    (hv : (lone idleTtl (stirs t past)).filter
      (Visit.isLive (e.time - (reckonedTtl idleTtl : Int))) = none) :
    SessionTold idleTtl (e :: past) e.time t := by
  have herrand : e.errand? t = none :=
    (Event.errand?_of_visit hop).trans (if_neg (by simp [hfound]))
  have hfind : ¬ e.Finds t := by simp [Event.Finds, herrand]
  have hopen : e.opened? = none := opened?_of_errand (a := a) (v := none) hanswer
  have hsee : ¬ e.Sees t := fun hs => hs.elim (by simp [Event.Opens, hopen]) hfind
  have haccept : ¬ e.Admits t := by
    intro hcase
    obtain ⟨input, ticket, hop', hanswer'⟩ := hcase
    rw [hop] at hop'
    cases hop'
    rw [hanswer] at hanswer'
    cases hanswer'
  have hrelease : ¬ e.Releases t := by
    intro hcase
    obtain ⟨ticket, hop', hanswer'⟩ := hcase
    rw [hop] at hop'
    cases hop'
    rw [hanswer] at hanswer'
    cases hanswer'
  have hO : StillOpen t (e :: past) ↔ StillOpen t past := stillOpen_cons_of_visit hop hopen
  have hR : StillBusy t (e :: past) ↔ StillBusy t past := since_cons_of_neither haccept hrelease
  have hstirs : lone idleTtl (stirs t (e :: past)) = none := by
    rw [stirs_cons_some he, lone, hv]
    rfl
  refine ⟨fun v hv' => ?_, fun _ hsince => ?_, h.opened_cons fun hf => ?_⟩
  · rw [hstirs] at hv'
    cases hv'
  · -- it was missing before, or it is dropped now because it has expired
    have hpast : ¬ StillBusy t past ∧
        ∃ seen, LastSeen t seen past ∧ seen ≤ e.time - (reckonedTtl idleTtl : Int) := by
      cases hlone : lone idleTtl (stirs t past) with
      | none =>
        obtain ⟨hrun, seen, hseen, hle⟩ := h.gone hlone (hO.mp hsince)
        exact ⟨hrun, seen, hseen, Int.le_trans hle (Int.sub_le_sub_right le _)⟩
      | some v =>
        obtain ⟨-, -, hseen, hrun⟩ := h.there v hlone
        have hexpired : v.isLive (e.time - (reckonedTtl idleTtl : Int)) = false := by
          rw [hlone] at hv
          simpa [Option.filter] using hv
        rw [Visit.isLive, Bool.or_eq_false_iff, decide_eq_false_iff_not] at hexpired
        exact ⟨fun hr => Bool.noConfusion (hexpired.1.symm.trans (hrun.mpr hr)), v.lastSeen, hseen,
          Int.not_lt.mp hexpired.2⟩
    obtain ⟨hrun, seen, hseen, hle⟩ := hpast
    exact ⟨fun hr => hrun (hR.mp hr), seen, (lastSeen_cons_of_not_sees hsee).mpr hseen, hle⟩
  · exact absurd hf (not_or_intro hfind haccept)

end Visited

/-! ### Every history -/

/-- **What every history says of a lone session.** -/
theorem Past.session_told (h : Past captchaTtl idleTtl past now s) (fresh : FreshTokens past)
    (t : String) :
    SessionTold idleTtl past now t := by
  induction h with
  | new => exact .new
  | @step past now later s s' op answer before le done ih =>
    have ih := ih fresh.tail
    cases Store.perform_token done t with
    | opened he hop hget => exact ih.open he hop fresh
    | closed he hop hopen hget => exact ih.close he hop hopen
    | @visited a c he hop hc hanswer hget =>
      have hfinds : (s.record later op answer).found = (s.live? c t).isSome := by
        rw [← Store.finds_eq hc]
        cases hop
        rfl
      have hlive : s.live? c t = _ := before.live?_eq_lone t (by
        rw [before.ttl.2] at hc
        rw [cutoff_eq_ok hc]
        exact Int.sub_le_sub_right le _)
      rw [before.ttl.2] at hc
      rw [cutoff_eq_ok hc] at hlive hfinds hanswer
      cases hv : s.live? (later - (reckonedTtl idleTtl : Int)) t with
      | none =>
        rw [hv] at hfinds hanswer hlive
        exact ih.visit_missed hop le he hfinds hanswer hlive.symm
      | some v =>
        rw [hv] at hfinds hanswer hlive
        exact ih.visit_found hop he hfinds hanswer hlive.symm
    | apart he hget => exact ih.apart le he

/-! ## 4. Errands -/

/-- A live session in the store is one that the history tells of. -/
theorem Past.live?_isSome_iff (h : Past captchaTtl idleTtl past now s) (fresh : FreshTokens past)
    (le : now ≤ later) (t : String) :
    (s.live? (later - (reckonedTtl idleTtl : Int)) t).isSome = true ↔
      StillOpen t past ∧
        (StillBusy t past ∨
          ∃ seen, LastSeen t seen past ∧ later - seen < (reckonedTtl idleTtl : Int)) := by
  have told := h.session_told fresh t
  rw [h.live?_eq_lone t (Int.sub_le_sub_right le _)]
  cases hlone : lone idleTtl (stirs t past) with
  | none =>
    refine iff_of_false (by simp) ?_
    intro hcase
    obtain ⟨hsince, hwhy⟩ := hcase
    obtain ⟨hrun, seen, hseen, hle⟩ := told.gone hlone hsince
    rcases hwhy with hr | ⟨seen', hseen', hlt⟩
    · exact hrun hr
    · have heq : seen = seen' := hseen.unique hseen'
      unfold Moment at *
      omega
  | some v =>
    obtain ⟨hsince, -, hseen, hrun⟩ := told.there v hlone
    rw [Option.isSome_filter, Option.any_some, Visit.isLive, Bool.or_eq_true, decide_eq_true_iff, hrun]
    refine ⟨fun hlive => ⟨hsince, hlive.imp_right fun hlt => ⟨v.lastSeen, hseen, ?_⟩⟩, ?_⟩
    · unfold Moment at *
      omega
    · intro hcase
      rcases hcase with ⟨-, hr | ⟨seen, hseen', hlt⟩⟩
      · exact Or.inl hr
      · have heq : v.lastSeen = seen := hseen.unique hseen'
        refine Or.inr ?_
        unfold Moment at *
        omega

/-- A live session in the store has the gate that got the token's own errands. -/
theorem Past.gate_of_live? (h : Past captchaTtl idleTtl past now s) (fresh : FreshTokens past)
    (le : now ≤ later) {t : String} {v : Visit}
    (hv : s.live? (later - (reckonedTtl idleTtl : Int)) t = some v) : v.gate = loneGate t past := by
  rw [h.live?_eq_lone t (Int.sub_le_sub_right le _)] at hv
  obtain ⟨hlone, -⟩ := Option.filter_eq_some_iff.mp hv
  exact ((h.session_told fresh t).there v hlone).2.1

/-- **An errand sees its own session as if it were alone.** It finds one if and only if a login has
    returned the token, it was not logged out since, and either a run is going on under it or it was
    seen within the time to live. What it answers is what a gate answers that got only the token's own
    errands. Two histories in which the same has happened to the token, whatever else has happened,
    cannot be told apart by it. -/
theorem visit_as_alone (h : Past captchaTtl idleTtl past now s) (fresh : FreshTokens past)
    (le : now ≤ later) (hc : cutoff later idleTtl = .ok c) (t : String) (a : Errand) :
    (s.finds later t = true ↔
      StillOpen t past ∧
        (StillBusy t past ∨
          ∃ seen, LastSeen t seen past ∧ later - seen < (reckonedTtl idleTtl : Int))) ∧
    (∃ s', s.perform later (.visit t a) =
      .ok (if s.finds later t = true then (a.carryOut (loneGate t past)).1 else a.refusal, s')) ∧
    ∀ {captchaTtl' : Nat} {past' : List Event} {now' : Moment} {s' : Store},
      Past captchaTtl' idleTtl past' now' s' → now' ≤ later → stirs t past' = stirs t past →
        s'.finds later t = s.finds later t ∧
          (s'.perform later (.visit t a)).map Prod.fst =
            (s.perform later (.visit t a)).map Prod.fst := by
  have hc' := hc
  rw [cutoff_eq_ok hc] at hc'
  have hs : cutoff later s.idleTtl = .ok (later - (reckonedTtl idleTtl : Int)) := by
    rw [h.ttl.2]
    exact hc'
  obtain ⟨r, hperform, -⟩ := Store.perform_visit hs t a
  rw [Store.finds_eq hs]
  refine ⟨h.live?_isSome_iff fresh le t, ⟨{ s with sessions := r }, hperform.trans ?_⟩,
    fun h' le' hstirs => ?_⟩
  · cases hv : s.live? (later - (reckonedTtl idleTtl : Int)) t with
    | none => rfl
    | some v =>
      rw [← h.gate_of_live? fresh le hv]
      rfl
  · rename_i s'
    have hs' : cutoff later s'.idleTtl = .ok (later - (reckonedTtl idleTtl : Int)) := by
      rw [h'.ttl.2]
      exact hc'
    obtain ⟨r', hperform', -⟩ := Store.perform_visit hs' t a
    have hsame : s'.live? (later - (reckonedTtl idleTtl : Int)) t
        = s.live? (later - (reckonedTtl idleTtl : Int)) t := by
      rw [h'.live?_eq_lone t (Int.sub_le_sub_right le' _),
        h.live?_eq_lone t (Int.sub_le_sub_right le _), hstirs]
    rw [Store.finds_eq hs', hperform', hperform, hsame]
    exact ⟨rfl, rfl⟩

/-- A session in which a run is going on is found long after its time, also when someone else has
    logged in meanwhile. -/
theorem visit_as_alone_running :
    ∃ s, Past 5000 1000
        [⟨9000, .login none true "b", .token (.ok "b"), false⟩,
          ⟨5, .visit "a" (.beginRun "x"), .ticket (.ok ⟨1⟩), true⟩,
          ⟨0, .login none true "a", .token (.ok "a"), false⟩] 9000 s ∧
      s.finds 9000 "a" = true := by
  have h₁ := @Past.step 5000 1000 _ 0 0 _ _ (.login none true "a") (.token (.ok "a")) (.new 0)
    (by decide) rfl
  have h₂ := @Past.step _ _ _ 0 5 _ _ (.visit "a" (.beginRun "x")) (.ticket (.ok ⟨1⟩)) h₁
    (by decide) rfl
  have h₃ := @Past.step _ _ _ 5 9000 _ _ (.login none true "b") (.token (.ok "b")) h₂
    (by decide) rfl
  refine ⟨_, h₃, (visit_as_alone h₃ (by decide) (Int.le_refl _) rfl "a" .status).1.mpr ⟨?_, Or.inl ?_⟩⟩
  · exact Or.inr ⟨fun h => Operation.noConfusion h,
      Or.inr ⟨fun h => Operation.noConfusion h, Or.inl rfl⟩⟩
  · exact Or.inr ⟨fun h => Operation.noConfusion h.choose_spec.1, Or.inl ⟨"x", ⟨1⟩, rfl, rfl⟩⟩

end

end CommandConsole
