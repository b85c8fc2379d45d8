import CommandConsole.Proofs.Store.Sessions

/-!
# Tickets of runs

A ticket carries the generation of the login under which its run was admitted. A session of the store
is in its first login for as long as it is stored, so every ticket is the same one, whichever session
and whichever run it was issued for. Which run a finish ends is therefore told by the token alone.

* `Past.first_login`: the generation of every stored session is the first;
* `Past.issued_first`: so is the generation of every ticket that was issued;
* `Past.isRunning_iff`: a run is going on under a token if and only if the history says so;
* `finish_frees_iff`: when the end of a run frees the slot of its session, and what else it does;
* `finish_by_other_tickets`: a ticket that was used already, or was issued for another session, ends
  a run that it was not issued for.
-/

namespace CommandConsole

/-! ## 1. Runs that are going on -/

/-- A session is stored under the token, and a run is going on in it. -/
def Store.isRunning (s : Store) (t : String) : Bool :=
  (s.sessions.get? t).any fun v => v.gate.running

/-- A run was admitted under the token with a ticket equal to this one. -/
def Event.Issues (t : String) (ticket : RunTicket) (e : Event) : Prop :=
  ∃ input, e.op = .visit t (.beginRun input) ∧ e.answer = .ticket (.ok ticket)

/-- The session under the token was released, closed, or replaced by a new one. -/
def Event.Ends (t : String) (e : Event) : Prop := e.Releases t ∨ e.Closes t ∨ e.Opens t

/-- A run was admitted under the token with a ticket equal to this one, and nothing has ended it. -/
def Underway (t : String) (ticket : RunTicket) (past : List Event) : Prop :=
  Since (Event.Issues t ticket) (Event.Ends t) past

theorem Event.admits_iff {t : String} {e : Event} : e.Admits t ↔ ∃ ticket, e.Issues t ticket := by
  unfold Admits Issues
  exact exists_comm

/-- A run is going on where a session is live, whatever the cutoff is. -/
theorem Store.any_running_live? (s : Store) (c : Moment) (t : String) :
    ((s.live? c t).any fun v => v.gate.running) = s.isRunning t := by
  unfold live? isRunning
  cases s.sessions.get? t with
  | none => rfl
  | some v =>
    cases hrun : v.gate.running with
    | true => simp [Option.filter, Visit.isLive_of_running hrun, hrun]
    | false => cases hlive : v.isLive c <;> simp [Option.filter, hlive, hrun]

section

variable {captchaTtl idleTtl : Nat} {past : List Event} {now later : Moment} {s s' : Store}
  {t : String} {e : Event}

/-! ## 2. Every session is in its first login -/

/-- **The generation of every stored session is the first.** -/
theorem Past.first_login (h : Past captchaTtl idleTtl past now s) {v : Visit}
    (hv : s.sessions.get? t = some v) : v.gate.loggedIn = true ∧ v.gate.generation = 1 := by
  induction h generalizing v with
  | new => cases hv
  | step _ _ done ih =>
    cases Store.perform_token done t with
    | opened _ _ hget =>
      rw [hget] at hv
      cases hv
      exact ⟨rfl, rfl⟩
    | closed _ _ _ hget =>
      rw [hget] at hv
      cases hv
    | @visited a _ _ _ _ _ hget =>
      rw [hget] at hv
      obtain ⟨w, hw, rfl⟩ := Option.map_eq_some_iff.mp hv
      obtain ⟨hin, hgen⟩ := ih (Option.filter_eq_some_iff.mp hw).1
      obtain ⟨hin', hgen'⟩ := a.carryOut_login w.gate
      exact ⟨hin'.trans hin, hgen'.trans hgen⟩
    | apart _ hget =>
      rcases hget with hget | ⟨_, _, hget⟩
      · exact ih (hget ▸ hv)
      · exact ih (Option.filter_eq_some_iff.mp (hget ▸ hv)).1

/-- A ticket comes from the gate that is found under its token. -/
theorem Past.issues_first (h : Past captchaTtl idleTtl past now s) {op : Operation} {answer : Answer}
    {ticket : RunTicket} (done : s.perform later op = .ok (answer, s'))
    (he : (s.record later op answer).Issues t ticket) : ticket = ⟨1⟩ := by
  obtain ⟨input, hop, hanswer⟩ := he
  change op = .visit t (.beginRun input) at hop
  change answer = .ticket (.ok ticket) at hanswer
  subst hop hanswer
  obtain ⟨c, _, _, _, hanswer, _⟩ := Store.visit_spec done
  cases hv : s.live? c t with
  | none =>
    rw [hv] at hanswer
    cases hanswer
  | some v =>
    rw [hv] at hanswer
    obtain ⟨-, -, hgen, -⟩ := Gate.beginRun_eq_ok (Answer.ticket.inj hanswer).symm
    have hfirst := (h.first_login (Option.filter_eq_some_iff.mp hv).1).2
    cases ticket
    exact congrArg RunTicket.mk (hgen.trans hfirst)

/-- **All tickets are one**: the store issues none but that of the first generation. -/
theorem Past.issued_first (h : Past captchaTtl idleTtl past now s) {ticket : RunTicket}
    (hmem : e ∈ past) (he : e.Issues t ticket) : ticket = ⟨1⟩ := by
  induction h with
  | new => cases hmem
  | step before _ done ih =>
    rcases List.mem_cons.mp hmem with rfl | hmem
    · exact before.issues_first done he
    · exact ih hmem

/-! ## 3. The flag of a session, told by the history -/

/-- An event that ends a run and admits none leaves none underway. -/
theorem not_underway_of_ends {ticket : RunTicket} (hends : e.Ends t)
    (hvisit : ∀ a, e.op ≠ .visit t a) : ¬ Underway t ticket (e :: past) := by
  rintro (⟨input, hop, -⟩ | ⟨hnot, -⟩)
  · exact hvisit _ hop
  · exact hnot hends

theorem underway_cons_of_visit {ticket : RunTicket} {a : Errand} (hop : e.op = .visit t a)
    (hopen : e.opened? = none) :
    Underway t ticket (e :: past) ↔
      e.Issues t ticket ∨ (¬ e.Releases t ∧ Underway t ticket past) := by
  have hends : e.Ends t ↔ e.Releases t := by
    simp [Event.Ends, Event.Closes, Event.Opens, hop, hopen]
  rw [← hends]
  exact Iff.rfl

/-- An event that is none of the token's leaves what is underway. -/
theorem underway_cons_of_quiet {ticket : RunTicket} (he : e.stir? t = none) :
    Underway t ticket (e :: past) ↔ Underway t ticket past := by
  obtain ⟨hopens, hcloses, -, hadmits, hreleases⟩ := Event.quiet_of_stir?_none he
  have hissues : ¬ e.Issues t ticket := fun h => hadmits (Event.admits_iff.mpr ⟨ticket, h⟩)
  have hends : ¬ e.Ends t := by simp [Event.Ends, hopens, hcloses, hreleases]
  exact since_cons_of_neither hissues hends

/-- After an errand a run is going on if the errand has admitted it, or if it was going on and the
    errand has not released the session; where no live session is found there is none. -/
theorem Store.isRunning_of_visit {a : Errand} {c : Moment} (hop : e.op = .visit t a)
    (hanswer : e.answer = (s.live? c t).elim a.refusal fun v => (a.carryOut v.gate).1)
    (hget : s'.sessions.get? t = (s.live? c t).map (Visit.after now a)) :
    s'.isRunning t = true ↔ e.Admits t ∨ (¬ e.Releases t ∧ s.isRunning t = true) := by
  rw [isRunning, hget, ← s.any_running_live? c t]
  cases hv : s.live? c t with
  | none =>
    rw [hv] at hanswer
    refine iff_of_false Bool.false_ne_true ?_
    rintro (⟨_, _, hop', hanswer'⟩ | ⟨_, hrun⟩)
    · cases hop.symm.trans hop'
      cases hanswer.symm.trans hanswer'
    · cases hrun
  | some v =>
    rw [hv] at hanswer
    exact Errand.running_carryOut hop hanswer

/-- **A run is going on under a token if and only if** one was admitted under it and, since then, no
    finish under it has succeeded and it was neither logged out nor returned by a login. -/
theorem Past.isRunning_iff (h : Past captchaTtl idleTtl past now s) (t : String) :
    s.isRunning t = true ↔ Underway t ⟨1⟩ past := by
  induction h with
  | new => exact iff_of_false Bool.false_ne_true id
  | @step past now later s s' op answer before _ done ih =>
    cases Store.perform_token done t with
    | opened he hop hget =>
      obtain ⟨_, _, hop⟩ := hop
      refine iff_of_false ?_ (not_underway_of_ends (Or.inr (Or.inr he)) (by simp [hop]))
      rw [Store.isRunning, hget]
      exact Bool.false_ne_true
    | closed _ hop _ hget =>
      refine iff_of_false ?_ (not_underway_of_ends (Or.inr (Or.inl hop)) (by simp [hop]))
      rw [Store.isRunning, hget]
      exact Bool.false_ne_true
    | visited _ hop _ hanswer hget =>
      have hfirst : (s.record later op answer).Admits t ↔ (s.record later op answer).Issues t ⟨1⟩ :=
        Event.admits_iff.trans ⟨fun ⟨_, he⟩ => before.issues_first done he ▸ he, fun he => ⟨_, he⟩⟩
      rw [Store.isRunning_of_visit hop hanswer hget, hfirst, ih,
        underway_cons_of_visit hop (opened?_of_errand hanswer)]
    | apart he hget =>
      rw [underway_cons_of_quiet he, ← ih]
      rcases hget with hget | ⟨c, -, hget⟩
      · rw [Store.isRunning, hget, Store.isRunning]
      · rw [Store.isRunning, hget, s.any_running_live? c t]

/-! ## 4. The end of a run -/

/-- What the end of a run under a token comes to, and what it does to the sessions. -/
structure Finish (past : List Event) (s : Store) (later : Moment) (t : String) (ticket : RunTicket)
    (r : Except Failure Unit) (s' : Store) : Prop where
  /-- It succeeds wherever a live session is found, with the ticket of the first generation. -/
  granted : r = .ok () ↔ s.finds later t = true ∧ ticket = ⟨1⟩
  /-- Otherwise the session has ended for it, and the flag stays. -/
  refused : r ≠ .ok () → r = .error .sessionEnded ∧ s'.isRunning t = s.isRunning t
  /-- No run is going on after a success. -/
  idle : r = .ok () → s'.isRunning t = false
  /-- It frees the slot of a run that is going on under this token, with an equal ticket. -/
  frees : s.isRunning t = true ∧ s'.isRunning t = false ↔ Underway t ticket past
  /-- The sessions under other tokens are not touched. -/
  others : ∀ u, u ≠ t → s'.sessions.get? u = s.sessions.get? u

/-- A run is underway with a ticket if and only if the flag is set and the ticket is the first. -/
theorem Past.underway_iff (h : Past captchaTtl idleTtl past now s) {ticket : RunTicket} :
    Underway t ticket past ↔ s.isRunning t = true ∧ ticket = ⟨1⟩ := by
  constructor
  · intro hrun
    obtain ⟨e, hmem, he⟩ := hrun.exists_mem
    obtain rfl := h.issued_first hmem he
    exact ⟨(h.isRunning_iff t).mpr hrun, rfl⟩
  · rintro ⟨hrun, rfl⟩
    exact (h.isRunning_iff t).mp hrun

/-- A gate in its first login lets a run be ended by the ticket of the first generation alone. -/
theorem Gate.finishRun_first {g : Gate} (hin : g.loggedIn = true) (hgen : g.generation = 1)
    (ticket : RunTicket) :
    (ticket = ⟨1⟩ ∧ g.finishRun ticket = (.ok (), { g with running := false })) ∨
      (ticket ≠ ⟨1⟩ ∧ g.finishRun ticket = (.error .sessionEnded, g)) := by
  obtain ⟨-, hticket, hg⟩ | ⟨hnot, hg⟩ := g.finishRun_cases ticket
  · exact Or.inl ⟨congrArg RunTicket.mk (hticket.trans hgen), hg⟩
  · refine Or.inr ⟨?_, hg⟩
    rintro rfl
    exact hnot ⟨hin, hgen.symm⟩

/-- **The ways in which the end of a run can go**: no live session is found, and none is stored
    afterwards; or one is found, and the ticket decides. -/
theorem Past.finish_cases (h : Past captchaTtl idleTtl past now s) {ticket : RunTicket}
    {r : Except Failure Unit}
    (done : s.perform later (.visit t (.finishRun ticket)) = .ok (.done r, s')) :
    (s.finds later t = false ∧ s.isRunning t = false ∧ r = .error .sessionEnded ∧
      s'.isRunning t = false) ∨
    (s.finds later t = true ∧ ticket ≠ ⟨1⟩ ∧ r = .error .sessionEnded ∧
      s'.isRunning t = s.isRunning t) ∨
    (s.finds later t = true ∧ ticket = ⟨1⟩ ∧ r = .ok () ∧ s'.isRunning t = false) := by
  obtain ⟨c, reg, hc, rfl, hanswer, hget⟩ := Store.visit_spec done
  have hafter : Store.isRunning { s with sessions := reg } t =
      ((s.live? c t).map (Visit.after later (.finishRun ticket))).any fun v => v.gate.running := by
    rw [Store.isRunning, hget, if_pos rfl]
  rw [Store.finds_eq hc, hafter, ← s.any_running_live? c t]
  cases hv : s.live? c t with
  | none =>
    rw [hv] at hanswer
    exact Or.inl ⟨rfl, rfl, Answer.done.inj hanswer, rfl⟩
  | some v =>
    rw [hv] at hanswer
    have hr : r = (v.gate.finishRun ticket).1 := Answer.done.inj hanswer
    obtain ⟨hin, hgen⟩ := h.first_login (Option.filter_eq_some_iff.mp hv).1
    refine Or.inr ?_
    simp only [Option.map_some, Option.any_some, Visit.after, Errand.carryOut, hr]
    obtain ⟨hticket, hg⟩ | ⟨hticket, hg⟩ := Gate.finishRun_first hin hgen ticket
    · rw [hg]
      exact Or.inr ⟨rfl, hticket, rfl, rfl⟩
    · rw [hg]
      exact Or.inl ⟨rfl, hticket, rfl, rfl⟩

theorem Past.finish (h : Past captchaTtl idleTtl past now s) {ticket : RunTicket}
    {r : Except Failure Unit}
    (done : s.perform later (.visit t (.finishRun ticket)) = .ok (.done r, s')) :
    Finish past s later t ticket r s' := by
  have hothers : ∀ u, u ≠ t → s'.sessions.get? u = s.sessions.get? u := by
    obtain ⟨_, _, _, rfl, _, hget⟩ := Store.visit_spec done
    exact fun u hu => (hget u).trans (if_neg hu)
  obtain ⟨hfinds, hrun, rfl, hrun'⟩ | ⟨hfinds, hticket, rfl, hrun'⟩ | ⟨hfinds, hticket, rfl, hrun'⟩ :=
    h.finish_cases done
  · refine ⟨?_, fun _ => ⟨rfl, hrun'.trans hrun.symm⟩, fun _ => hrun', ?_, hothers⟩
    · simp [hfinds]
    · simp [h.underway_iff, hrun]
  · refine ⟨?_, fun _ => ⟨rfl, hrun'⟩, fun hok => ?_, ?_, hothers⟩
    · simp [hticket]
    · cases hok
    · simp [h.underway_iff, hrun', hticket]
  · refine ⟨?_, fun hnot => absurd rfl hnot, fun _ => hrun', ?_, hothers⟩
    · simp [hfinds, hticket]
    · simp [h.underway_iff, hrun', hticket]

/-- **When the end of a run frees a slot.** All tickets are equal. While the cutoff exists a finish
    comes to an answer, and it frees the slot of a run that is going on if and only if that run was
    admitted under the same token and its ticket is equal to the one presented. -/
theorem finish_frees_iff (h : Past captchaTtl idleTtl past now s) (t : String) (ticket : RunTicket) :
    (∀ e ∈ past, ∀ u issued, e.Issues u issued → issued = ⟨1⟩) ∧
    (HasCutoff later idleTtl →
      ∃ r s', s.perform later (.visit t (.finishRun ticket)) = .ok (.done r, s')) ∧
    ∀ r s', s.perform later (.visit t (.finishRun ticket)) = .ok (.done r, s') →
      Finish past s later t ticket r s' := by
  refine ⟨fun e hmem u issued he => h.issued_first hmem he, fun hcut => ?_, fun r s' => h.finish⟩
  obtain ⟨reg, hperform, -⟩ :=
    Store.perform_visit (s := s) (h.ttl.2 ▸ hcut.cutoff_eq) t (.finishRun ticket)
  rw [hperform]
  cases s.live? _ t with
  | none => exact ⟨_, _, rfl⟩
  | some v => exact ⟨_, _, rfl⟩

/-- Two clients have a run each, and the ticket of the second frees the slot of the first. -/
theorem finish_frees_under_equal_ticket :
    ∃ past s s', Past 300000 1800000 past 3 s ∧ s.isRunning "a" = true ∧
      s.perform 4 (.visit "a" (.finishRun ⟨1⟩)) = .ok (.done (.ok ()), s') ∧
      s'.isRunning "a" = false := by
  have h₁ := @Past.step 300000 1800000 _ 0 0 _ _ (.login none true "a") (.token (.ok "a")) (.new 0)
    (by decide) rfl
  have h₂ := @Past.step _ _ _ 0 1 _ _ (.login none true "b") (.token (.ok "b")) h₁ (by decide) rfl
  have h₃ := @Past.step _ _ _ 1 2 _ _ (.visit "a" (.beginRun "x")) (.ticket (.ok ⟨1⟩)) h₂
    (by decide) rfl
  have h₄ := @Past.step _ _ _ 2 3 _ _ (.visit "b" (.beginRun "x")) (.ticket (.ok ⟨1⟩)) h₃
    (by decide) rfl
  obtain ⟨-, hanswers, hfinish⟩ := @finish_frees_iff _ _ _ 3 4 _ h₄ "a" ⟨1⟩
  obtain ⟨r, s', done⟩ := hanswers (by decide)
  have told := hfinish r s' done
  obtain rfl := told.granted.mpr ⟨rfl, rfl⟩
  exact ⟨_, _, s', h₄, rfl, done, told.idle rfl⟩

/-- **A ticket ends runs that it was not issued for.** One that was used already ends the next run of
    its session, and one that was issued for another session ends the run of this one. -/
theorem finish_by_other_tickets :
    (∃ s₁ s₂ s₃ s₄ s₅ first second,
      (Store.new 300000 1800000).perform 0 (.login none true "a") = .ok (.token (.ok "a"), s₁) ∧
      s₁.perform 1 (.visit "a" (.beginRun "x")) = .ok (.ticket (.ok first), s₂) ∧
      s₂.perform 2 (.visit "a" (.finishRun first)) = .ok (.done (.ok ()), s₃) ∧
      s₃.perform 3 (.visit "a" (.beginRun "x")) = .ok (.ticket (.ok second), s₄) ∧
      s₄.isRunning "a" = true ∧
      s₄.perform 4 (.visit "a" (.finishRun first)) = .ok (.done (.ok ()), s₅) ∧
      s₅.isRunning "a" = false) ∧
    ∃ s₁ s₂ s₃ s₄ s₅ own other,
      (Store.new 300000 1800000).perform 0 (.login none true "a") = .ok (.token (.ok "a"), s₁) ∧
      s₁.perform 1 (.login none true "b") = .ok (.token (.ok "b"), s₂) ∧
      s₂.perform 2 (.visit "a" (.beginRun "x")) = .ok (.ticket (.ok own), s₃) ∧
      s₃.perform 3 (.visit "b" (.beginRun "x")) = .ok (.ticket (.ok other), s₄) ∧
      s₄.isRunning "a" = true ∧
      s₄.perform 4 (.visit "a" (.finishRun other)) = .ok (.done (.ok ()), s₅) ∧
      s₅.isRunning "a" = false :=
  ⟨⟨_, _, _, _, _, _, _, rfl, rfl, rfl, rfl, rfl, rfl, rfl⟩,
    _, _, _, _, _, _, _, rfl, rfl, rfl, rfl, rfl, rfl, rfl⟩

end

end CommandConsole
