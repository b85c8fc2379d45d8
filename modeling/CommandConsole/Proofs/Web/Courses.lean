import CommandConsole.Proofs.Web.RunProtocol

/-!
# The courses of the running console

The console that runs serves a request in one go and delivers what is due whenever time passes. Whatever
it does is one of the courses in which every client may step in between.

* `Console.serve_visits`: a request for anything but a run is a few operations of the store;
* `Reachable.send`, `Reachable.advance`, `Reachable.await`: each step of the running console is a course;
* `Operated.sound`: what every course keeps, the running console keeps.
-/

namespace CommandConsole.Web

/-! ## 1. Requests for anything but a run -/

/-- Operations of the store that neither begin nor end a run, the latest first, and the console to which
    they lead. -/
inductive Visits (c : Console) : List Move → Console → Prop where
  | none : Visits c [] c
  | next {moves : List Move} {c' : Console} {now : Moment} {op : Operation} {answer : Answer}
      {s : Store} (before : Visits c moves c') (done : c'.store.perform now op = .ok (answer, s))
      (plain : ∀ token a, op = .visit token a → a.isPlain = true) :
      Visits c (.visit op answer :: moves) { c' with store := s }

/-- The tokens that logins have returned. -/
def openedTokens (moves : List Move) : List String := moves.filterMap Move.opened?

/-- The request was answered after such operations; at most one login was among them, and it has
    returned the token that was drawn. -/
def Served (fresh : String) (c : Console) (reply : Reply) (c' : Console) : Prop :=
  ∃ response moves, reply = .answered response ∧ Visits c moves c' ∧
    (openedTokens moves).Sublist [fresh]

namespace Console

variable {c c' c₁ : Console} {o : Occasion} {r : Request} {reply : Reply} {fresh : String}
  {moves : List Move} {s : Store}

theorem served_of_reply {response : Response} (h : c.reply response = .ok (reply, c')) :
    Served fresh c reply c' := by
  cases h
  exact ⟨response, [], rfl, .none, List.nil_sublist _⟩

theorem served_of_result {α : Type} {result : Except Failure α} {render : α → Response}
    (hv : Visits c moves { c₁ with store := s }) (hmoves : (openedTokens moves).Sublist [fresh])
    (h : c₁.replyResult (result, s) render = .ok (reply, c')) : Served fresh c reply c' := by
  cases result with
  | error e =>
    cases h
    exact ⟨_, moves, rfl, hv, hmoves⟩
  | ok a =>
    cases h
    exact ⟨_, moves, rfl, hv, hmoves⟩

/-- Asking for the status of a session is one operation more. -/
theorem served_of_status (now : Moment) (token : Option String) (render : SessionStatus → Response)
    (hv : Visits c moves c₁) (hmoves : (openedTokens moves).Sublist [fresh])
    (h : (c₁.store.status now token >>= fun x => c₁.replyWith x.2 (render x.1)) = .ok (reply, c')) :
    Served fresh c reply c' := by
  obtain ⟨⟨status, s⟩, hstatus, h⟩ := bind_eq_ok h
  cases h
  cases token with
  | none =>
    have hdone : c₁.store.perform now .glance = .ok (.status status, s) := by
      rw [Store.perform, hstatus]
      rfl
    exact ⟨_, _, rfl, hv.next hdone (fun _ _ h => by cases h), hmoves⟩
  | some token =>
    have hdone : c₁.store.perform now (.visit token .status) = .ok (.status status, s) := by
      rw [Store.perform, hstatus]
      rfl
    refine ⟨_, _, rfl, hv.next hdone (fun _ _ heq => ?_), hmoves⟩
    cases heq
    rfl

/-- **A request for anything but a run is a few operations of the store.** -/
theorem serve_visits {route : Route} (hroute : route ≠ .run)
    (h : c.serve o r route = .ok (reply, c')) : Served o.token c reply c' := by
  cases route with
  | page | asset | health | commands => exact served_of_reply h
  | captcha =>
    obtain ⟨⟨view, s⟩, hissue, h⟩ := bind_eq_ok h
    have hdone : c.store.perform o.now (.issue o.challenge) = .ok (.challenge view, s) := by
      rw [Store.perform, hissue]
      rfl
    cases h
    exact ⟨_, _, rfl, Visits.none.next hdone (fun _ _ h => by cases h), List.nil_sublist _⟩
  | captchaAnswer =>
    unfold serve judge at h
    simp only at h
    split at h
    · exact served_of_reply h
    · rename_i q _
      obtain ⟨⟨result, s⟩, hverify, h⟩ := bind_eq_ok h
      have hdone : c.store.perform o.now (.verify q.id q.answer o.challenge)
          = .ok (.verdict result, s) := by
        rw [Store.perform, hverify]
        rfl
      exact served_of_result (Visits.none.next hdone (fun _ _ h => by cases h))
        (List.nil_sublist _) h
  | session =>
    exact served_of_status o.now r.token? (fun status => .ofJson 200 (Wire.toJson status)) .none
      (List.nil_sublist _) h
  | login =>
    unfold serve login at h
    simp only at h
    split at h
    · exact served_of_reply h
    · rename_i skip _
      obtain ⟨⟨result, s⟩, hlogin, h⟩ := bind_eq_ok h
      have hdone : c.store.perform o.now (.login (namedChallenge r) (c.bypasses skip) o.token)
          = .ok (.token result, s) := by
        rw [Store.perform, hlogin]
        rfl
      have hv := Visits.none.next hdone (fun _ _ h => by cases h)
      rcases Store.login_cases hlogin with ⟨e, rfl, -⟩ | ⟨rfl, -⟩
      · cases h
        exact ⟨_, _, rfl, hv, List.nil_sublist _⟩
      · exact served_of_status o.now (some o.token)
          (fun status =>
            .ofJson 200 (Wire.toJson ({ token := o.token, status := status } : LoginAnswer)))
          hv (List.Sublist.refl _) h
  | logout =>
    unfold serve logout withToken at h
    simp only at h
    split at h
    · exact served_of_reply h
    · rename_i token _
      have hdone : c.store.perform o.now (.logout token)
          = .ok (.done (c.store.logout token).1, (c.store.logout token).2) := rfl
      exact served_of_result (Visits.none.next hdone (fun _ _ h => by cases h))
        (List.nil_sublist _) h
  | consent =>
    unfold serve keepConsent at h
    simp only at h
    split at h
    · exact served_of_reply h
    · rename_i q _
      unfold withToken at h
      split at h
      · exact served_of_reply h
      · rename_i token _
        obtain ⟨⟨result, s⟩, hconsent, h⟩ := bind_eq_ok h
        have hdone : c.store.perform o.now (.visit token (.setConsent q.choice))
            = .ok (.done result, s) := by
          rw [Store.perform, hconsent]
          rfl
        have hv : Visits c _ { c with store := s } := Visits.none.next hdone fun _ _ heq => by
          cases heq
          rfl
        cases result with
        | error e =>
          cases h
          exact ⟨_, _, rfl, hv, List.nil_sublist _⟩
        | ok u =>
          exact served_of_status o.now (some token) (fun status => .ofJson 200 (Wire.toJson status)) hv
            (List.nil_sublist _) h
  | panel =>
    unfold serve turnPanel withToken at h
    simp only at h
    split at h
    · exact served_of_reply h
    · rename_i token _
      obtain ⟨⟨result, s⟩, hpanel, h⟩ := bind_eq_ok h
      have hdone : c.store.perform o.now (.visit token .togglePanel) = .ok (.panel result, s) := by
        rw [Store.perform, hpanel]
        rfl
      refine served_of_result (Visits.none.next hdone fun _ _ heq => ?_) (List.nil_sublist _) h
      cases heq
      rfl
  | run => exact absurd rfl hroute
  | evaluate =>
    unfold serve evaluateNow at h
    simp only at h
    split at h
    · exact served_of_reply h
    · split at h <;> exact served_of_reply h

end Console

/-- A request is served by such operations, unless it asks for a run. -/
theorem Console.respond_cases {c c' : Console} {o : Occasion} {r : Request} {reply : Reply}
    (h : c.respond o r = .ok (reply, c')) :
    Served o.token c reply c' ∨ c.run o r = .ok (reply, c') := by
  unfold respond at h
  simp only at h
  split at h
  · exact Or.inl (served_of_reply h)
  · split at h
    · exact Or.inl (served_of_reply h)
    · rename_i route _
      split at h
      · by_cases hroute : route = .run
        · subst hroute
          exact Or.inr h
        · exact Or.inl (serve_visits hroute h)
      · exact Or.inl (served_of_reply h)

/-! ## 2. Steps of the running console -/

/-- Further steps lead to the state; their logins return tokens that were drawn, in their order. -/
def Continues (settings : Settings) (captchaTtl idleTtl : Nat) (moves : List Move)
    (drawn : List String) (t : Traffic) : Prop :=
  ∃ more, Reachable settings captchaTtl idleTtl (more ++ moves) t ∧ (openedTokens more).Sublist drawn

section

variable {settings : Settings} {captchaTtl idleTtl : Nat} {moves : List Move} {t t' : Traffic}
  {drawn : List String} {now : Moment}

theorem openedTokens_append (more moves : List Move) :
    openedTokens (more ++ moves) = openedTokens more ++ openedTokens moves :=
  List.filterMap_append

theorem Reachable.stay (h : Reachable settings captchaTtl idleTtl moves t) :
    Continues settings captchaTtl idleTtl moves [] t :=
  ⟨[], h, List.nil_sublist _⟩

/-- Steps without a login may follow. -/
theorem Continues.after (more : List Move)
    (h : Continues settings captchaTtl idleTtl (more ++ moves) [] t)
    (hmore : (openedTokens more).Sublist drawn) :
    Continues settings captchaTtl idleTtl moves drawn t := by
  obtain ⟨more', hr, hmore'⟩ := h
  refine ⟨more' ++ more, ?_, ?_⟩
  · rw [List.append_assoc]
    exact hr
  · rw [openedTokens_append, List.sublist_nil.mp hmore']
    exact hmore

theorem Continues.after_quiet {m : Move}
    (h : Continues settings captchaTtl idleTtl (m :: moves) [] t) (hm : m.opened? = none) :
    Continues settings captchaTtl idleTtl moves drawn t :=
  Continues.after [m] h (by simp [openedTokens, hm])

/-- The operations of one request are steps of a course. -/
theorem Reachable.visits {more : List Move} {c : Console}
    (h : Reachable settings captchaTtl idleTtl moves t) (hv : Visits t.console more c) :
    Reachable settings captchaTtl idleTtl (more ++ moves) { t with console := c } := by
  induction hv with
  | none => exact h
  | next before done plain ih => exact ih.visit plain done

theorem Traffic.answer_flights (t : Traffic) (gs : List Flight) (n : Nat) (r : Response) :
    ({ t with flights := gs } : Traffic).answer n r = { t.answer n r with flights := gs } := by
  have hclient : ({ t with flights := gs } : Traffic).client? n = t.client? n := rfl
  unfold answer
  rw [hclient]
  cases t.client? n with
  | none => rfl
  | some c => rfl

theorem Traffic.answer_uptime (t : Traffic) (n : Nat) (r : Response) :
    (t.answer n r).uptime = t.uptime := by
  unfold answer
  split <;> rfl

/-- Delivering what is due, one run after the other, is a course. -/
theorem Reachable.deliverAll {p : Flight → Bool} {due gs : List Flight}
    (h : Reachable settings captchaTtl idleTtl moves { t with flights := gs })
    (hp : gs.filter p = due) (hdue : ∀ f ∈ due, f.dueAt t.uptime ≤ t.uptime)
    (done : Traffic.deliverAll now { t with flights := gs.filter fun f => !p f } due = .ok t') :
    Continues settings captchaTtl idleTtl moves [] t' := by
  induction due generalizing t moves gs with
  | nil =>
    have hall : gs.filter (fun f => !p f) = gs :=
      List.filter_eq_self.mpr fun f hf => by simpa using List.filter_eq_nil_iff.mp hp f hf
    rw [hall] at done
    cases done
    exact h.stay
  | cons f fs ih =>
    obtain ⟨g₁, g₂, rfl, hg₁, hf, hfs⟩ := List.filter_eq_cons_iff.mp hp
    obtain ⟨⟨response, console⟩, hdeliver, hrest⟩ := bind_eq_ok done
    have hstep := h.finish rfl (hdue f List.mem_cons_self) hdeliver
    have hskip : (g₁ ++ f :: g₂).filter (fun f => !p f) = (g₁ ++ g₂).filter fun f => !p f := by
      rw [List.filter_append, List.filter_append, List.filter_cons_of_neg (by simp [hf])]
    have hnone : g₁.filter p = [] := List.filter_eq_nil_iff.mpr hg₁
    -- the state after this delivery, whichever flights are left
    let t₁ := ({ t with console := console } : Traffic).answer f.client
      (Console.sent f.request response)
    have hstep' : Reachable settings captchaTtl idleTtl (.finish f.client :: moves)
        { t₁ with flights := g₁ ++ g₂ } :=
      Traffic.answer_flights { t with console := console } (g₁ ++ g₂) _ _ ▸ hstep
    have hrest' : Traffic.deliverAll now
        { t₁ with flights := (g₁ ++ g₂).filter fun f => !p f } fs = .ok t' := by
      rw [← hskip, ← Traffic.answer_flights]
      exact hrest
    refine (ih hstep' (by rw [List.filter_append, hnone, List.nil_append, hfs]) ?_
      hrest').after_quiet rfl
    intro f' hf'
    rw [Traffic.answer_uptime]
    exact hdue f' (List.mem_cons_of_mem _ hf')

theorem Reachable.settle (h : Reachable settings captchaTtl idleTtl moves t)
    (done : t.settle now = .ok t') : Continues settings captchaTtl idleTtl moves [] t' :=
  h.deliverAll rfl (fun f hf => by simpa using (List.mem_filter.mp hf).2) done

/-- **Letting time pass is a course.** -/
theorem Reachable.advance {ms : Nat} (h : Reachable settings captchaTtl idleTtl moves t)
    (done : t.advance now ms = .ok t') : Continues settings captchaTtl idleTtl moves [] t' :=
  ((h.wait ms).settle done).after_quiet rfl

/-- **Sending a request is a course**, and a login returns the token that was drawn for it. -/
theorem Reachable.send {o : Occasion} {r : Request} {n : Nat}
    (h : Reachable settings captchaTtl idleTtl moves t) (done : t.send o r = .ok (n, t')) :
    Continues settings captchaTtl idleTtl moves [o.token] t' := by
  obtain ⟨⟨reply, console⟩, hrespond, hrest⟩ := bind_eq_ok done
  rcases Console.respond_cases hrespond with ⟨response, more, rfl, hv, hmore⟩ | hrun
  · cases hrest
    exact Continues.after more (((h.visits hv).reply _).stay.after_quiet rfl) hmore
  · cases reply with
    | answered response =>
      cases hrest
      exact (h.refuse hrun).stay.after_quiet rfl
    | held run =>
      obtain ⟨t₁, hsettle, hrest⟩ := bind_eq_ok hrest
      cases hrest
      exact ((h.accept hrun).settle hsettle).after_quiet rfl

/-- Waiting lets time pass, or does not, and then fetches the response if it is there. -/
theorem Traffic.await_cases {n : Nat} {r : Option Response} (done : t.await now n = .ok (r, t')) :
    ∃ t₁, (t₁ = t ∨ ∃ ms, t.advance now ms = .ok t₁) ∧ (t' = t₁ ∨ t' = t₁.drop n) := by
  unfold await at done
  split at done
  · split at done
    · obtain ⟨t₁, hadvance, hfetch⟩ := bind_eq_ok done
      refine ⟨t₁, Or.inr ⟨_, hadvance⟩, ?_⟩
      dsimp only at hfetch
      split at hfetch <;> cases hfetch
      · exact Or.inr rfl
      · exact Or.inl rfl
    · refine ⟨t, Or.inl rfl, ?_⟩
      dsimp only [bind, Except.bind] at done
      split at done <;> cases done
      · exact Or.inr rfl
      · exact Or.inl rfl
  · refine ⟨t, Or.inl rfl, ?_⟩
    dsimp only [bind, Except.bind] at done
    split at done <;> cases done
    · exact Or.inr rfl
    · exact Or.inl rfl

/-- **Waiting for a response is a course.** -/
theorem Reachable.await {n : Nat} {r : Option Response}
    (h : Reachable settings captchaTtl idleTtl moves t) (done : t.await now n = .ok (r, t')) :
    Continues settings captchaTtl idleTtl moves [] t' := by
  obtain ⟨t₁, hpass, hfetch⟩ := Traffic.await_cases done
  have fetch : ∀ {moves₁ : List Move}, Reachable settings captchaTtl idleTtl moves₁ t₁ →
      Continues settings captchaTtl idleTtl moves₁ [] t' := by
    intro moves₁ h₁
    rcases hfetch with rfl | rfl
    · exact h₁.stay
    · exact (h₁.drop n).stay.after_quiet rfl
  rcases hpass with rfl | ⟨ms, hadvance⟩
  · exact fetch h
  · obtain ⟨more, h₁, hmore⟩ := h.advance hadvance
    exact Continues.after more (fetch h₁) hmore

/-! ## 3. Everything the running console comes to -/

/-- What the running console has come to, with the tokens that were drawn for its requests, the latest
    first. -/
inductive Operated (settings : Settings) : List String → Traffic → Prop where
  | new : Operated settings [] (.new settings)
  | send {drawn : List String} {t t' : Traffic} {o : Occasion} {r : Request} {n : Nat}
      (before : Operated settings drawn t) (done : t.send o r = .ok (n, t')) :
      Operated settings (o.token :: drawn) t'
  | advance {drawn : List String} {t t' : Traffic} {now : Moment} {ms : Nat}
      (before : Operated settings drawn t) (done : t.advance now ms = .ok t') :
      Operated settings drawn t'
  | await {drawn : List String} {t t' : Traffic} {now : Moment} {n : Nat} {r : Option Response}
      (before : Operated settings drawn t) (done : t.await now n = .ok (r, t')) :
      Operated settings drawn t'
  | drop {drawn : List String} {t : Traffic} (n : Nat) (before : Operated settings drawn t) :
      Operated settings drawn (t.drop n)

theorem Continues.reachable {drawn' : List String}
    (h : Continues settings captchaTtl idleTtl moves drawn' t)
    (hmoves : (openedTokens moves).Sublist drawn) :
    ∃ moves', Reachable settings captchaTtl idleTtl moves' t ∧
      (openedTokens moves').Sublist (drawn' ++ drawn) := by
  obtain ⟨more, hr, hmore⟩ := h
  refine ⟨more ++ moves, hr, ?_⟩
  rw [openedTokens_append]
  exact hmore.append hmoves

/-- **Whatever the running console has come to, a course leads there.** -/
theorem Operated.reachable (h : Operated settings drawn t) :
    ∃ moves, Reachable settings settings.captchaTtl settings.sessionIdleTtl moves t ∧
      (openedTokens moves).Sublist drawn := by
  induction h with
  | new => exact ⟨[], .new, List.nil_sublist _⟩
  | send before done ih =>
    obtain ⟨moves, hr, hmoves⟩ := ih
    exact (hr.send done).reachable hmoves
  | advance before done ih =>
    obtain ⟨moves, hr, hmoves⟩ := ih
    exact (hr.advance done).reachable hmoves
  | await before done ih =>
    obtain ⟨moves, hr, hmoves⟩ := ih
    exact (hr.await done).reachable hmoves
  | drop n before ih =>
    obtain ⟨moves, hr, hmoves⟩ := ih
    exact ⟨.drop n :: moves, hr.drop n, hmoves⟩

/-- **The running console keeps its sessions and its runs in flight together**, if no token is drawn
    twice. -/
theorem Operated.sound (h : Operated settings drawn t) (fresh : drawn.Nodup) :
    ∃ moves, Reachable settings settings.captchaTtl settings.sessionIdleTtl moves t ∧
      Sound settings.sessionIdleTtl moves t := by
  obtain ⟨moves, hr, hmoves⟩ := h.reachable
  have hfresh : NoRepeat Move.opened? moves := fresh.sublist hmoves
  exact ⟨moves, hr, hr.sound hfresh⟩

end

end CommandConsole.Web
