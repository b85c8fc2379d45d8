import CommandConsole.Proofs.Store.History
import CommandConsole.Proofs.Web.Runs

/-!
# The run protocol

Several clients use one console at once. Runs are admitted by requests, held back for their delay and
delivered one by one; between any two of these steps everybody may do anything else: log in or out, ask
for the status, choose, turn the panel over, drop a request that still waits, or let time pass. Expiry
goes by the calendar, which a step may read at any moment that has a cutoff.

* `Reachable`: the courses that all this can take, one step at a time;
* `Sound`, `Reachable.sound`: what every course keeps between the sessions and the runs in flight;
* `run_protocol`: a session has at most one run in flight, its flag says whether there is one, and a run
  in flight comes to its outcome unless its session was logged out meanwhile.
-/

namespace CommandConsole.Web

/-! ## 1. Courses -/

/-- One step of a course. Clients go by their numbers. -/
inductive Move where
  | visit (op : Operation) (answer : Answer)
  | reply (client : Nat)
  | refuse (client : Nat)
  | accept (client : Nat)
  | finish (client : Nat)
  | drop (client : Nat)
  | wait (ms : Nat)

namespace Move

/-- The token that a login has returned. -/
def opened? : Move → Option String
  | visit _ answer => answer.opened?
  | _ => none

/-- The token that was logged out. -/
def closed? : Move → Option String
  | visit (.logout token) _ => some token
  | _ => none

/-- The client whose run was accepted. -/
def accepted? : Move → Option Nat
  | accept client => some client
  | _ => none

end Move

/-- The courses of a console on which nothing had happened, the latest step first, with the state to
    which each leads. -/
inductive Reachable (settings : Settings) (captchaTtl idleTtl : Nat) : List Move → Traffic → Prop where
  | new : Reachable settings captchaTtl idleTtl []
      { console := { settings := settings, store := .new captchaTtl idleTtl }
        uptime := 0
        clients := []
        flights := [] }
  /-- Any operation of the store that neither begins nor ends a run. -/
  | visit {moves : List Move} {t : Traffic} {now : Moment} {op : Operation} {answer : Answer}
      {s : Store} (before : Reachable settings captchaTtl idleTtl moves t)
      (plain : ∀ token a, op = .visit token a → a.isPlain = true)
      (done : t.console.store.perform now op = .ok (answer, s)) :
      Reachable settings captchaTtl idleTtl (.visit op answer :: moves)
        { t with console := { t.console with store := s } }
  /-- The response to a client that has asked for anything but a run. -/
  | reply {moves : List Move} {t : Traffic} (response : Response)
      (before : Reachable settings captchaTtl idleTtl moves t) :
      Reachable settings captchaTtl idleTtl (.reply t.clients.length :: moves)
        { t with clients := t.clients ++ [.answered response] }
  /-- A request for a run that is answered at once. -/
  | refuse {moves : List Move} {t : Traffic} {o : Occasion} {r : Request} {response : Response}
      {console : Console} (before : Reachable settings captchaTtl idleTtl moves t)
      (done : t.console.run { o with uptime := t.uptime } r = .ok (.answered response, console)) :
      Reachable settings captchaTtl idleTtl (.refuse t.clients.length :: moves)
        { t with
          console := console
          clients := t.clients ++ [.answered (Console.sent r response)] }
  /-- A request for a run that is held back. -/
  | accept {moves : List Move} {t : Traffic} {o : Occasion} {r : Request} {run : HeldRun}
      {console : Console} (before : Reachable settings captchaTtl idleTtl moves t)
      (done : t.console.run { o with uptime := t.uptime } r = .ok (.held run, console)) :
      Reachable settings captchaTtl idleTtl (.accept t.clients.length :: moves)
        { t with
          console := console
          clients := t.clients ++ [.waiting]
          flights := t.flights ++ [{ client := t.clients.length, request := r, run := run }] }
  /-- The delivery of any run that is due. -/
  | finish {moves : List Move} {t : Traffic} {now : Moment} {f : Flight} {fs fs' : List Flight}
      {response : Response} {console : Console}
      (before : Reachable settings captchaTtl idleTtl moves t) (held : t.flights = fs ++ f :: fs')
      (due : f.dueAt t.uptime ≤ t.uptime)
      (done : t.console.deliver now f.run = .ok (response, console)) :
      Reachable settings captchaTtl idleTtl (.finish f.client :: moves)
        (({ t with console := console, flights := fs ++ fs' } : Traffic).answer f.client
          (Console.sent f.request response))
  /-- A client goes away. -/
  | drop {moves : List Move} {t : Traffic} (n : Nat)
      (before : Reachable settings captchaTtl idleTtl moves t) :
      Reachable settings captchaTtl idleTtl (.drop n :: moves) (t.drop n)
  /-- Time passes. -/
  | wait {moves : List Move} {t : Traffic} (ms : Nat)
      (before : Reachable settings captchaTtl idleTtl moves t) :
      Reachable settings captchaTtl idleTtl (.wait ms :: moves) { t with uptime := t.uptime + ms }

/-- The token of a run was logged out after the run was admitted. -/
def LoggedOut (f : Flight) (moves : List Move) : Prop :=
  Since (fun m => m.closed? = some f.run.token) (fun m => m.accepted? = some f.client) moves

/-! ## 2. What every course keeps -/

/-- What holds of a run in flight. -/
structure InFlight (moves : List Move) (s : Store) (clients : Nat) (f : Flight) : Prop where
  number : f.client < clients
  ticket : f.run.ticket.generation = 1
  issued : ∃ m ∈ moves, m.opened? = some f.run.token
  /-- It was asked for with this token, and its outcome is settled. -/
  asked : ∃ q due, Console.readBody RunRequest.reader f.request = .ok q ∧
    f.request.token? = some f.run.token ∧
    f.run.pending = .ok { outcome := evaluate q.input, dueAt := due }
  /-- Once its token was logged out there is no session for it. -/
  closed : LoggedOut f moves → s.sessions.get? f.run.token = none
  /-- Until then its session is stored and busy. -/
  kept : ¬ LoggedOut f moves →
    ∃ v, s.sessions.get? f.run.token = some v ∧ v.gate.running = true

/-- The tokens of the runs in flight. -/
def Traffic.flightTokens (t : Traffic) : List String := t.flights.map fun f => f.run.token

/-- What holds between the sessions and the runs in flight. -/
structure Sound (idleTtl : Nat) (moves : List Move) (t : Traffic) : Prop where
  ttl : t.console.store.idleTtl = idleTtl
  issued : ∀ token v, t.console.store.sessions.get? token = some v →
    ∃ m ∈ moves, m.opened? = some token
  /-- Every stored session is in its first login. -/
  gate : ∀ token v, t.console.store.sessions.get? token = some v →
    v.gate.loggedIn = true ∧ v.gate.generation = 1
  /-- A session is busy with a run in flight. -/
  busy : ∀ token v, t.console.store.sessions.get? token = some v → v.gate.running = true →
    ∃ f ∈ t.flights, f.run.token = token
  once : t.flightTokens.Nodup
  flight : ∀ f ∈ t.flights, InFlight moves t.console.store t.clients.length f

section

variable {settings : Settings} {captchaTtl idleTtl : Nat} {moves : List Move} {t t' : Traffic}
  {m : Move} {s s' : Store} {f : Flight} {now : Moment}

/-- A step that has nothing to do with a run in flight. -/
theorem InFlight.frame {n n' : Nat} (h : InFlight moves s n f)
    (hget : s'.sessions.get? f.run.token = s.sessions.get? f.run.token)
    (hclose : m.closed? ≠ some f.run.token) (haccept : m.accepted? ≠ some f.client) (hn : n ≤ n') :
    InFlight (m :: moves) s' n' f := by
  have hout : LoggedOut f (m :: moves) ↔ LoggedOut f moves := since_cons_of_neither hclose haccept
  obtain ⟨m', hmem, hissued⟩ := h.issued
  refine ⟨Nat.lt_of_lt_of_le h.number hn, h.ticket, ⟨m', List.mem_cons_of_mem _ hmem, hissued⟩,
    h.asked, fun ho => ?_, fun ho => ?_⟩
  · rw [hget]
    exact h.closed (hout.mp ho)
  · rw [hget]
    exact h.kept fun ho' => ho (hout.mpr ho')

theorem Sound.new : Sound idleTtl []
    { console := { settings := settings, store := .new captchaTtl idleTtl }
      uptime := 0
      clients := []
      flights := [] } where
  ttl := rfl
  issued := by simp [Store.new]
  gate := by simp [Store.new]
  busy := by simp [Store.new]
  once := List.nodup_nil
  flight := by simp

/-! ### Steps that neither begin nor end a run -/

/-- What such a step does to the sessions: it may open one, close one, and drop those that are idle. -/
structure Tame (s s' : Store) (m : Move) : Prop where
  ttl : s'.idleTtl = s.idleTtl
  after : ∀ token v', s'.sessions.get? token = some v' →
    (m.opened? = some token ∧ v'.gate = Gate.new.login) ∨
      ∃ v, s.sessions.get? token = some v ∧ v'.gate.loggedIn = v.gate.loggedIn ∧
        v'.gate.generation = v.gate.generation ∧ v'.gate.running = v.gate.running
  keeps : ∀ token v, s.sessions.get? token = some v → v.gate.running = true → m.closed? ≠ some token →
    m.opened? ≠ some token → ∃ v', s'.sessions.get? token = some v' ∧ v'.gate.running = true
  closes : ∀ token, m.closed? = some token → s'.sessions.get? token = none

/-- The sessions are as they were. -/
theorem Tame.same (hs : s'.sessions = s.sessions) (httl : s'.idleTtl = s.idleTtl)
    (hclose : m.closed? = none) : Tame s s' m where
  ttl := httl
  after token v' hv' := by
    rw [hs] at hv'
    exact Or.inr ⟨v', hv', rfl, rfl, rfl⟩
  keeps token v hv hrunning _ _ := by
    rw [hs]
    exact ⟨v, hv, hrunning⟩
  closes token hc := by
    rw [hclose] at hc
    cases hc

/-- An errand that leaves the flag as it was. -/
theorem Tame.of_visit {token : String} {a : Errand} {answer : Answer}
    (h : s.perform now (.visit token a) = .ok (answer, s'))
    (hrun : ∀ g : Gate, (a.carryOut g).1 = answer → (a.carryOut g).2.running = g.running)
    (hclose : m.closed? = none) : Tame s s' m := by
  obtain ⟨c, r, hc, rfl, hanswer, hget⟩ := Store.visit_spec h
  refine ⟨rfl, fun name v' hv' => ?_, fun name v hv hrunning _ _ => ?_,
    fun name hcl => ?_⟩
  · refine Or.inr ?_
    change r.get? name = some v' at hv'
    rw [hget] at hv'
    by_cases hname : name = token
    · subst hname
      rw [if_pos rfl] at hv'
      obtain ⟨v, hlive, rfl⟩ := Option.map_eq_some_iff.mp hv'
      rw [hlive] at hanswer
      obtain ⟨hin, hgen⟩ := Errand.carryOut_login a v.gate
      exact ⟨v, (Option.filter_eq_some_iff.mp hlive).1, hin, hgen, hrun v.gate hanswer.symm⟩
    · rw [if_neg hname] at hv'
      exact ⟨v', hv', rfl, rfl, rfl⟩
  · show ∃ v', r.get? name = some v' ∧ v'.gate.running = true
    rw [hget]
    by_cases hname : name = token
    · subst hname
      have hlive : s.live? c name = some v :=
        Option.filter_eq_some_iff.mpr ⟨hv, Visit.isLive_of_running hrunning c⟩
      rw [hlive] at hanswer ⊢
      exact ⟨_, if_pos rfl, (hrun v.gate hanswer.symm).trans hrunning⟩
    · exact ⟨v, (if_neg hname).trans hv, hrunning⟩
  · rw [hclose] at hcl
    cases hcl

/-- Every operation of the store that neither begins nor ends a run. -/
theorem Tame.of_perform {op : Operation} {answer : Answer}
    (h : s.perform now op = .ok (answer, s'))
    (plain : ∀ token a, op = .visit token a → a.isPlain = true) : Tame s s' (.visit op answer) := by
  have httl := (Store.perform_ttl h).2
  cases Store.perform_sessions h with
  | @opened challenge bypass token c hc hget =>
    refine ⟨httl, fun name v' hv' => ?_, fun name v hv hrunning _ hopen => ?_, ?_⟩
    · rw [hget] at hv'
      by_cases hname : name = token
      · rw [if_pos hname] at hv'
        cases hv'
        exact Or.inl ⟨congrArg some hname.symm, rfl⟩
      · rw [if_neg hname] at hv'
        exact Or.inr ⟨v', (Option.filter_eq_some_iff.mp hv').1, rfl, rfl, rfl⟩
    · have hname : ¬ name = token := fun e => hopen (congrArg some e.symm)
      refine ⟨v, ?_, hrunning⟩
      rw [hget, if_neg hname]
      exact Option.filter_eq_some_iff.mpr ⟨hv, Visit.isLive_of_running hrunning c⟩
    · intro name hclose
      cases hclose
  | @closed token r hget =>
    refine ⟨httl, fun name v' hv' => ?_, fun name v hv hrunning hclose _ => ?_, ?_⟩
    · rw [hget] at hv'
      by_cases hname : name = token
      · rw [if_pos hname] at hv'
        cases hv'
      · rw [if_neg hname] at hv'
        exact Or.inr ⟨v', hv', rfl, rfl, rfl⟩
    · have hname : ¬ name = token := fun e => hclose (congrArg some e.symm)
      exact ⟨v, by rw [hget, if_neg hname, hv], hrunning⟩
    · intro name hclose
      cases hclose
      rw [hget, if_pos rfl]
  | @visited token a c hc hget =>
    exact .of_visit h (fun g _ => Errand.carryOut_running (plain token a rfl) g) rfl
  | apart hlogout hvisit hanswer hs =>
    refine .same hs httl ?_
    cases op with
    | logout token => exact absurd rfl (hlogout token)
    | _ => rfl

/-- **A step that neither begins nor ends a run keeps what holds.** -/
theorem Sound.tame (h : Sound idleTtl moves t) (fresh : NoRepeat Move.opened? (m :: moves))
    (tame : Tame t.console.store t'.console.store m) (haccept : m.accepted? = none)
    (hflights : t'.flights = t.flights) (hclients : t.clients.length ≤ t'.clients.length) :
    Sound idleTtl (m :: moves) t' := by
  refine ⟨tame.ttl.trans h.ttl, fun token v' hv' => ?_, fun token v' hv' => ?_,
    fun token v' hv' hrunning => ?_, ?_, fun f hf => ?_⟩
  · rcases tame.after token v' hv' with ⟨hopen, -⟩ | ⟨v, hv, -⟩
    · exact ⟨m, List.mem_cons_self, hopen⟩
    · obtain ⟨m', hmem, hissued⟩ := h.issued token v hv
      exact ⟨m', List.mem_cons_of_mem _ hmem, hissued⟩
  · rcases tame.after token v' hv' with ⟨-, hgate⟩ | ⟨v, hv, hin, hgen, -⟩
    · rw [hgate]
      exact ⟨rfl, rfl⟩
    · rw [hin, hgen]
      exact h.gate token v hv
  · rw [hflights]
    rcases tame.after token v' hv' with ⟨-, hgate⟩ | ⟨v, hv, -, -, hrun⟩
    · rw [hgate] at hrunning
      cases hrunning
    · exact h.busy token v hv (hrun.symm.trans hrunning)
  · unfold Traffic.flightTokens
    rw [hflights]
    exact h.once
  · rw [hflights] at hf
    have old := h.flight f hf
    obtain ⟨m', hmem, hissued⟩ := old.issued
    have hopen : m.opened? ≠ some f.run.token := fun ho => fresh.not_before ho m' hmem hissued
    refine ⟨Nat.lt_of_lt_of_le old.number hclients, old.ticket,
      ⟨m', List.mem_cons_of_mem _ hmem, hissued⟩, old.asked, fun hout => ?_, fun hout => ?_⟩
    · rcases hout with hclose | ⟨-, hout⟩
      · exact tame.closes _ hclose
      · have hnone := old.closed hout
        cases hget : t'.console.store.sessions.get? f.run.token with
        | none => rfl
        | some v' =>
          rcases tame.after _ v' hget with ⟨ho, -⟩ | ⟨v, hv, -⟩
          · exact absurd ho hopen
          · rw [hnone] at hv
            cases hv
    · have hclose : m.closed? ≠ some f.run.token := fun hc => hout (Or.inl hc)
      obtain ⟨v, hv, hrunning⟩ := old.kept fun ho => hout (Or.inr ⟨by simp [haccept], ho⟩)
      exact tame.keeps _ v hv hrunning hclose hopen

/-! ### Admission and delivery -/

/-- Under the token of a session that is stored and idle no run is in flight. -/
theorem Sound.no_flight (h : Sound idleTtl moves t) {token : String} {v : Visit}
    (hv : t.console.store.sessions.get? token = some v) (hidle : v.gate.running = false) :
    ∀ f ∈ t.flights, f.run.token ≠ token := by
  intro f hf heq
  have old := h.flight f hf
  by_cases hout : LoggedOut f moves
  · have hnone := old.closed hout
    rw [heq, hv] at hnone
    cases hnone
  · obtain ⟨v', hv', hrunning⟩ := old.kept hout
    rw [heq, hv] at hv'
    cases hv'
    rw [hidle] at hrunning
    cases hrunning

/-- The flag of one session was set or cleared: every session is still one that was issued, in its
    first login. -/
theorem Sound.flagged (h : Sound idleTtl moves t) {token : String} {v : Visit} {reg : Registry Visit}
    {running : Bool} (hv : t.console.store.sessions.get? token = some v)
    (hget : ∀ name, reg.get? name =
      if name = token then some { gate := { v.gate with running := running }, lastSeen := now }
      else t.console.store.sessions.get? name) (m : Move) :
    (∀ name v', reg.get? name = some v' → ∃ m' ∈ m :: moves, m'.opened? = some name) ∧
      ∀ name v', reg.get? name = some v' → v'.gate.loggedIn = true ∧ v'.gate.generation = 1 := by
  have old : ∀ name v', reg.get? name = some v' → ∃ v₀,
      t.console.store.sessions.get? name = some v₀ ∧ v'.gate.loggedIn = v₀.gate.loggedIn ∧
        v'.gate.generation = v₀.gate.generation := by
    intro name v' hv'
    rw [hget] at hv'
    by_cases hname : name = token
    · rw [if_pos hname] at hv'
      cases hv'
      exact ⟨v, hname ▸ hv, rfl, rfl⟩
    · rw [if_neg hname] at hv'
      exact ⟨v', hv', rfl, rfl⟩
  refine ⟨fun name v' hv' => ?_, fun name v' hv' => ?_⟩
  · obtain ⟨v₀, hv₀, -⟩ := old name v' hv'
    obtain ⟨m', hmem, hissued⟩ := h.issued name v₀ hv₀
    exact ⟨m', List.mem_cons_of_mem _ hmem, hissued⟩
  · obtain ⟨v₀, hv₀, hin, hgen⟩ := old name v' hv'
    rw [hin, hgen]
    exact h.gate name v₀ hv₀

/-- **The admission of a run keeps what holds.** -/
theorem Sound.accept (h : Sound idleTtl moves t) {o : Occasion} {r : Request} {run : HeldRun}
    {console : Console} (done : t.console.run o r = .ok (.held run, console)) :
    Sound idleTtl (.accept t.clients.length :: moves)
      { t with
        console := console
        clients := t.clients ++ [.waiting]
        flights := t.flights ++ [{ client := t.clients.length, request := r, run := run }] } := by
  obtain ⟨q, v, reg, hbody, htoken, hv, hidle, hticket, hpending, rfl, hget⟩ := Console.run_held done
  have hother := h.no_flight hv hidle
  have hclose : ∀ name, (Move.accept t.clients.length).closed? ≠ some name := fun name h => by cases h
  obtain ⟨hissued, hgate⟩ := h.flagged hv hget (.accept t.clients.length)
  refine ⟨h.ttl, hissued, hgate, fun name v' hv' hrunning => ?_, ?_, fun f hf => ?_⟩
  · by_cases hname : name = run.token
    · exact ⟨_, List.mem_append_right _ List.mem_cons_self, hname.symm⟩
    · have hv₀ : t.console.store.sessions.get? name = some v' :=
        ((hget name).trans (if_neg hname)).symm.trans hv'
      obtain ⟨f, hf, htok⟩ := h.busy name v' hv₀ hrunning
      exact ⟨f, List.mem_append_left _ hf, htok⟩
  · rw [Traffic.flightTokens, List.map_append, List.nodup_append]
    refine ⟨h.once, List.pairwise_singleton _ _, fun token htok token' htok' => ?_⟩
    obtain ⟨f, hf, rfl⟩ := List.mem_map.mp htok
    rw [List.mem_singleton.mp htok']
    exact hother f hf
  · rcases List.mem_append.mp hf with hf | hf
    · -- an earlier run has another token and another number
      have old := h.flight f hf
      refine old.frame ((hget _).trans (if_neg (hother f hf))) (hclose _) (fun haccept => ?_) (by simp)
      exact Nat.ne_of_lt old.number (Option.some.inj haccept).symm
    · cases List.mem_singleton.mp hf
      obtain ⟨m, hmem, hopen⟩ := h.issued run.token v hv
      have hfresh : ¬ LoggedOut ⟨t.clients.length, r, run⟩ (.accept t.clients.length :: moves) := by
        intro hcase
        rcases hcase with hc | ⟨haccept, -⟩
        · exact hclose _ hc
        · exact haccept rfl
      exact
        { number := by simp
          ticket := hticket.trans (h.gate run.token v hv).2
          issued := ⟨m, List.mem_cons_of_mem _ hmem, hopen⟩
          asked := ⟨q, _, hbody, htoken, hpending⟩
          closed := fun hout => absurd hout hfresh
          kept := fun _ => ⟨_, (hget _).trans (if_pos rfl), rfl⟩ }

/-- A response changes nothing but what its client waits for. -/
theorem Traffic.answer_frame (t : Traffic) (n : Nat) (r : Response) :
    (t.answer n r).console = t.console ∧ (t.answer n r).flights = t.flights ∧
      (t.answer n r).clients.length = t.clients.length := by
  unfold answer
  split
  · exact ⟨rfl, rfl, List.length_set⟩
  · exact ⟨rfl, rfl, rfl⟩

/-- What holds does not depend on what the clients have been told. -/
theorem Sound.answer (h : Sound idleTtl moves t) (n : Nat) (r : Response) :
    Sound idleTtl moves (t.answer n r) := by
  obtain ⟨hconsole, hflights, hclients⟩ := t.answer_frame n r
  refine ⟨?_, ?_, ?_, ?_, ?_, ?_⟩
  · rw [hconsole]
    exact h.ttl
  · rw [hconsole]
    exact h.issued
  · rw [hconsole]
    exact h.gate
  · rw [hconsole, hflights]
    exact h.busy
  · unfold Traffic.flightTokens
    rw [hflights]
    exact h.once
  · rw [hconsole, hflights, hclients]
    exact h.flight

/-- A delivery needs a cutoff. -/
theorem Console.deliver_cutoff {c : Console} {run : HeldRun} {r : Response × Console}
    (h : c.deliver now run = .ok r) : ∃ k, cutoff now c.store.idleTtl = .ok k := by
  obtain ⟨⟨answer, s'⟩, hfinish, -⟩ := bind_eq_ok h
  have hperform : c.store.perform now (.visit run.token (.finishRun run.ticket))
      = .ok (.done answer, s') := by
    rw [Store.perform, hfinish]
    rfl
  exact Store.visit_cutoff hperform

/-- **The delivery of a run keeps what holds.** -/
theorem Sound.finish (h : Sound idleTtl moves t) {fs fs' : List Flight} {response : Response}
    {console : Console} (held : t.flights = fs ++ f :: fs')
    (done : t.console.deliver now f.run = .ok (response, console)) :
    Sound idleTtl (.finish f.client :: moves)
      { t with console := console, flights := fs ++ fs' } := by
  obtain ⟨k, hk⟩ := Console.deliver_cutoff done
  have mine := h.flight f (by simp [held])
  have hperm : t.flights.Perm (f :: (fs ++ fs')) := by
    rw [held]
    exact List.perm_middle
  obtain ⟨hother, honce⟩ := List.nodup_cons.mp
    ((hperm.map fun f : Flight => f.run.token).nodup h.once)
  have hsub : ∀ f' ∈ fs ++ fs', f' ∈ t.flights := fun f' hf' =>
    hperm.mem_iff.mpr (List.mem_cons_of_mem _ hf')
  have hne : ∀ f' ∈ fs ++ fs', f'.run.token ≠ f.run.token := fun f' hf' heq =>
    hother (List.mem_map.mpr ⟨f', hf', heq⟩)
  have hclose : ∀ name, (Move.finish f.client).closed? ≠ some name := fun name h => by cases h
  have haccept : ∀ n, (Move.finish f.client).accepted? ≠ some n := fun n h => by cases h
  by_cases hout : LoggedOut f moves
  · -- the session is gone, and so nothing happens
    have hnone := mine.closed hout
    rw [Console.deliver_of_missing hk hnone] at done
    cases done
    refine ⟨h.ttl, fun name v hv => ?_, h.gate, fun name v hv hrunning => ?_, honce, fun f' hf' => ?_⟩
    · obtain ⟨m, hmem, hissued⟩ := h.issued name v hv
      exact ⟨m, List.mem_cons_of_mem _ hmem, hissued⟩
    · obtain ⟨f', hf', htok⟩ := h.busy name v hv hrunning
      rcases List.mem_cons.mp (hperm.mem_iff.mp hf') with heq | hf'
      · rw [← htok, heq, hnone] at hv
        cases hv
      · exact ⟨f', hf', htok⟩
    · exact (h.flight f' (hsub f' hf')).frame rfl (hclose _) (haccept _) (Nat.le_refl _)
  · -- the session is stored and busy, and is released
    obtain ⟨v, hv, hrunning⟩ := mine.kept hout
    obtain ⟨hin, hgen⟩ := h.gate _ v hv
    obtain ⟨q, due, -, -, hpending⟩ := mine.asked
    obtain ⟨reg, hdeliver, hget⟩ := Console.deliver_of_running hk hv hrunning hin
      (mine.ticket.trans hgen.symm) hpending
    rw [hdeliver] at done
    cases done
    obtain ⟨hissued, hgate⟩ := h.flagged hv hget (.finish f.client)
    refine ⟨h.ttl, hissued, hgate, fun name v' hv' hrunning' => ?_, honce, fun f' hf' => ?_⟩
    · have hname : name ≠ f.run.token := by
        intro heq
        subst heq
        rw [hget, if_pos rfl] at hv'
        cases hv'
        cases hrunning'
      have hv₀ : t.console.store.sessions.get? name = some v' :=
        ((hget name).trans (if_neg hname)).symm.trans hv'
      obtain ⟨f', hf', htok⟩ := h.busy name v' hv₀ hrunning'
      rcases List.mem_cons.mp (hperm.mem_iff.mp hf') with heq | hf'
      · exact absurd (htok.symm.trans (congrArg (fun f : Flight => f.run.token) heq)) hname
      · exact ⟨f', hf', htok⟩
    · exact (h.flight f' (hsub f' hf')).frame ((hget _).trans (if_neg (hne f' hf'))) (hclose _)
        (haccept _) (Nat.le_refl _)

/-! ### Every course -/

/-- **Every course keeps what holds between the sessions and the runs in flight.** -/
theorem Reachable.sound (h : Reachable settings captchaTtl idleTtl moves t)
    (fresh : NoRepeat Move.opened? moves) : Sound idleTtl moves t := by
  induction h with
  | new => exact .new
  | visit before plain done ih =>
    exact (ih fresh.tail).tame fresh (.of_perform done plain) rfl rfl (Nat.le_refl _)
  | reply response before ih =>
    exact (ih fresh.tail).tame fresh (.same rfl rfl rfl) rfl rfl (by simp)
  | @refuse moves t o r response console before done ih =>
    refine (ih fresh.tail).tame fresh ?_ rfl rfl (by simp)
    rcases Console.run_answered done with rfl | ⟨token, input, e, s', hperform, rfl⟩
    · exact .same rfl rfl rfl
    · refine .of_visit hperform (fun g hanswer => ?_) rfl
      rw [Errand.carryOut, Gate.beginRun_eq_error (Answer.ticket.inj hanswer)]
  | accept before done ih => exact (ih fresh.tail).accept done
  | finish before held due done ih => exact ((ih fresh.tail).finish held done).answer _ _
  | drop n before ih =>
    refine (ih fresh.tail).tame fresh (.same rfl rfl rfl) rfl rfl ?_
    simp [Traffic.drop]
  | wait ms before ih =>
    exact (ih fresh.tail).tame fresh (.same rfl rfl rfl) rfl rfl (Nat.le_refl _)

/-! ## 3. Runs and their ends -/

/-- The flag of a stored session says whether a run is in flight under its token. -/
theorem Sound.running_iff (h : Sound idleTtl moves t) {token : String} {v : Visit}
    (hv : t.console.store.sessions.get? token = some v) :
    v.gate.running = true ↔ token ∈ t.flightTokens := by
  refine ⟨fun hrunning => ?_, fun hmem => ?_⟩
  · obtain ⟨f, hf, htok⟩ := h.busy token v hv hrunning
    exact List.mem_map.mpr ⟨f, hf, htok⟩
  · obtain ⟨f, hf, htok⟩ := List.mem_map.mp hmem
    cases hrun : v.gate.running with
    | true => rfl
    | false => exact absurd htok (h.no_flight hv hrun f hf)

/-- **A session has at most one run in flight, and a run in flight ends with its outcome unless its
    session was logged out.** The flag of a stored session is set if and only if exactly one run is in
    flight under its token. A delivery at any moment comes to a response: the outcome of the line that
    was asked for, if no logout of the token lies between the admission of the run and now; else that
    the session has ended, and then the console stays as it is. -/
theorem run_protocol (h : Reachable settings captchaTtl idleTtl moves t)
    (fresh : NoRepeat Move.opened? moves) :
    (∀ token, t.flightTokens.count token ≤ 1 ∧
      ∀ v, t.console.store.sessions.get? token = some v →
        (v.gate.running = true ↔ t.flightTokens.count token = 1)) ∧
    ∀ f ∈ t.flights, ∀ {now k : Moment}, cutoff now idleTtl = .ok k →
      ∃ q response console, Console.readBody RunRequest.reader f.request = .ok q ∧
        f.request.token? = some f.run.token ∧
        t.console.deliver now f.run = .ok (response, console) ∧
        (response = Console.outcomeResponse (evaluate q.input) ↔ ¬ LoggedOut f moves) ∧
        (response = .ofFailure .sessionEnded ↔ LoggedOut f moves) ∧
        (LoggedOut f moves → console = t.console) := by
  have sound := h.sound fresh
  refine ⟨fun token => ⟨List.nodup_iff_count.mp sound.once token, fun v hv => ?_⟩,
    fun f hf now k hk => ?_⟩
  · rw [sound.running_iff hv, sound.once.count]
    split <;> simp [*]
  · have mine := sound.flight f hf
    obtain ⟨q, due, hbody, htoken, hpending⟩ := mine.asked
    rw [← sound.ttl] at hk
    -- an outcome and the end of a session have different statuses
    have hne : ∀ o, Console.outcomeResponse o ≠ .ofFailure .sessionEnded := fun o heq =>
      absurd (show (200 : Nat) = 410 from congrArg Response.status heq) (by decide)
    by_cases hout : LoggedOut f moves
    · exact ⟨q, _, _, hbody, htoken, Console.deliver_of_missing hk (mine.closed hout),
        iff_of_false (fun heq => hne _ heq.symm) (fun hn => hn hout), iff_of_true rfl hout,
        fun _ => rfl⟩
    · obtain ⟨v, hv, hrunning⟩ := mine.kept hout
      obtain ⟨hin, hgen⟩ := sound.gate _ v hv
      obtain ⟨reg, hdeliver, -⟩ := Console.deliver_of_running hk hv hrunning hin
        (mine.ticket.trans hgen.symm) hpending
      exact ⟨q, _, _, hbody, htoken, hdeliver, iff_of_true rfl hout,
        iff_of_false (hne _) hout, fun ho => absurd ho hout⟩

/-- A run comes to its outcome though its client has gone away and its session was left alone for
    long. -/
theorem run_protocol_dropped :
    ∃ t f console, Reachable .default 5000 1000
        [.drop 0, .accept 0, .visit (.login none true "a") (.token (.ok "a"))] t ∧
      f ∈ t.flights ∧
      t.console.deliver 9000000 f.run = .ok (Console.outcomeResponse (evaluate "x"), console) := by
  obtain ⟨r, hread, htoken⟩ : ∃ r : Request,
      (Console.readBody RunRequest.reader r).toOption = some ⟨"x"⟩ ∧ r.token? = some "a" :=
    ⟨{ method := "POST"
       target := "/api/run"
       headers := [("content-type", "application/json"), (sessionHeader, "a")]
       body := [123, 34, 105, 110, 112, 117, 116, 34, 58, 34, 120, 34, 125] },
      by decide +kernel, by decide +kernel⟩
  have hbody : Console.readBody RunRequest.reader r = .ok ⟨"x"⟩ := by
    cases h : Console.readBody RunRequest.reader r with
    | ok q =>
      rw [h] at hread
      exact congrArg Except.ok (Option.some.inj hread)
    | error e =>
      rw [h] at hread
      cases hread
  have h₁ := @Reachable.visit .default 5000 1000 _ _ 0 (.login none true "a") (.token (.ok "a")) _
    .new (fun _ _ h => by cases h) rfl
  have h₂ := @Reachable.accept .default 5000 1000 _ _ ⟨0, 0, ⟨"c", 1, 1⟩, "b"⟩ r _ _ h₁
    (by rw [Console.run, hbody]; simp only [Console.withToken, htoken]; rfl)
  have h₃ := Reachable.drop 0 h₂
  obtain ⟨q, response, console, hq, -, hdeliver, hresponse, -⟩ :=
    (run_protocol h₃ (by decide)).2 _ (List.mem_singleton_self _)
      (show cutoff 9000000 1000 = .ok _ from rfl)
  have hx : q = ⟨"x"⟩ := Except.ok.inj (hq.symm.trans hbody)
  refine ⟨_, _, console, h₃, List.mem_singleton_self _, ?_⟩
  rw [hdeliver, hresponse.mpr ?_, hx]
  intro hcase
  rcases hcase with h | ⟨-, h | ⟨hn, -⟩⟩
  · cases h
  · cases h
  · exact hn rfl

end

end CommandConsole.Web
