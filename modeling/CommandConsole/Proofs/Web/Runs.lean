import CommandConsole.Proofs.Session.Gate
import CommandConsole.Proofs.Store.Effect
import CommandConsole.Web.Traffic

/-!
# Runs at the gate and in the console

What a run needs to be admitted, and what its delivery comes to, one request or one delivery at a time.

* `Errand.carryOut_running`: a plain errand leaves the flag of a gate;
* `Console.run_cases`: what a request for a run comes to;
* `Console.deliver_of_missing`, `Console.deliver_of_running`: what a delivery comes to, by what is
  stored under the token of the run.
-/

namespace CommandConsole

/-! ## 1. Errands -/

/-- An errand that neither begins nor ends a run. -/
def Errand.isPlain : Errand → Bool
  | .beginRun _ => false
  | .finishRun _ => false
  | _ => true

theorem Errand.carryOut_running {a : Errand} (h : a.isPlain = true) (g : Gate) :
    (a.carryOut g).2.running = g.running := by
  cases a with
  | status | setConsent | togglePanel => rfl
  | beginRun | finishRun => cases h

namespace Web

/-! ## 2. Requests for a run, and their delivery -/

namespace Console

variable {c c' : Console}

/-- **What a request for a run comes to.** It is answered before the store is asked, or the store has
    answered it: with a failure, or with a ticket under which the run is held. -/
theorem run_cases {o : Occasion} {r : Request} {reply : Reply} (h : c.run o r = .ok (reply, c')) :
    (∃ response, reply = .answered response ∧ c' = c) ∨
      ∃ q token s' answer, readBody RunRequest.reader r = .ok q ∧ r.token? = some token ∧
        c.store.perform o.now (.visit token (.beginRun q.input)) = .ok (.ticket answer, s') ∧
        c' = { c with store := s' } ∧
        reply = match answer with
          | .error e => .answered (.ofFailure e)
          | .ok ticket => .held
            { token := token, ticket := ticket, pending := c.trigger.start o.uptime q.input } := by
  unfold run at h
  cases hbody : readBody RunRequest.reader r with
  | error refusal =>
    rw [hbody] at h
    cases h
    exact Or.inl ⟨_, rfl, rfl⟩
  | ok q =>
    rw [hbody] at h
    simp only [withToken] at h
    cases htoken : r.token? with
    | none =>
      rw [htoken] at h
      cases h
      exact Or.inl ⟨_, rfl, rfl⟩
    | some token =>
      rw [htoken] at h
      obtain ⟨⟨answer, s'⟩, hbegin, h⟩ := bind_eq_ok h
      refine Or.inr ⟨q, token, s', answer, rfl, rfl, by rw [Store.perform, hbegin]; rfl, ?_⟩
      cases answer with
      | error e =>
        cases h
        exact ⟨rfl, rfl⟩
      | ok ticket =>
        cases h
        exact ⟨rfl, rfl⟩

/-- A request that is answered has left the store alone, or was refused by it. -/
theorem run_answered {o : Occasion} {r : Request} {response : Response}
    (h : c.run o r = .ok (.answered response, c')) :
    c' = c ∨ ∃ token input e s', c.store.perform o.now (.visit token (.beginRun input))
        = .ok (.ticket (.error e), s') ∧ c' = { c with store := s' } := by
  rcases run_cases h with ⟨-, -, hsame⟩ | ⟨q, token, s', answer, -, -, hperform, hc', hreply⟩
  · exact Or.inl hsame
  · cases answer with
    | error e => exact Or.inr ⟨token, q.input, e, s', hperform, hc'⟩
    | ok ticket => cases hreply

/-- **A request that is held back** has found the session of its token idle and leaves it busy; its
    outcome is settled. -/
theorem run_held {o : Occasion} {r : Request} {run : HeldRun} (h : c.run o r = .ok (.held run, c')) :
    ∃ q v reg, readBody RunRequest.reader r = .ok q ∧ r.token? = some run.token ∧
      c.store.sessions.get? run.token = some v ∧ v.gate.running = false ∧
      run.ticket.generation = v.gate.generation ∧
      run.pending = .ok { outcome := evaluate q.input, dueAt := o.uptime + c.trigger.delay } ∧
      c' = { c with store := { c.store with sessions := reg } } ∧
      ∀ name, reg.get? name =
        if name = run.token then some { gate := { v.gate with running := true }, lastSeen := o.now }
        else c.store.sessions.get? name := by
  rcases run_cases h with ⟨response, hreply, -⟩ |
    ⟨q, token, s', answer, hbody, htoken, hperform, hc', hreply⟩
  · cases hreply
  cases answer with
  | error e => cases hreply
  | ok ticket =>
    cases hreply
    obtain ⟨k, reg, -, rfl, hanswer, hget⟩ := Store.visit_spec hperform
    cases hlive : c.store.live? k token with
    | none =>
      rw [hlive] at hanswer
      cases hanswer
    | some v =>
      rw [hlive] at hanswer hget
      have hbegin : (v.gate.beginRun q.input).1 = .ok ticket := (Answer.ticket.inj hanswer).symm
      obtain ⟨hidle, hcan, hticket, hgate⟩ := Gate.beginRun_eq_ok hbegin
      have hpending : c.trigger.start o.uptime q.input
          = .ok { outcome := evaluate q.input, dueAt := o.uptime + c.trigger.delay } := by
        unfold Trigger.start Trigger.evaluateNow
        rw [if_pos hcan]
        rfl
      refine ⟨q, v, reg, hbody, htoken, (Option.filter_eq_some_iff.mp hlive).1, hidle, hticket,
        hpending, hc', fun name => ?_⟩
      rw [hget, Option.map_some, Visit.after, Errand.carryOut, hgate]

/-- A run whose session is not stored is delivered to nobody, and nothing is touched. -/
theorem deliver_of_missing {now k : Moment} {run : HeldRun} (hk : cutoff now c.store.idleTtl = .ok k)
    (hget : c.store.sessions.get? run.token = none) :
    c.deliver now run = .ok (.ofFailure .sessionEnded, c) := by
  unfold deliver Store.finishRun Store.atGate Store.touch
  rw [hk]
  simp only [bind, Except.bind, hget]
  rfl

/-- A run whose session is stored and busy is delivered, however long the session was left alone, and
    the session is released. -/
theorem deliver_of_running {now k : Moment} {run : HeldRun} {v : Visit} {p : Pending}
    (hk : cutoff now c.store.idleTtl = .ok k) (hget : c.store.sessions.get? run.token = some v)
    (hrunning : v.gate.running = true) (hin : v.gate.loggedIn = true)
    (hgen : run.ticket.generation = v.gate.generation) (hp : run.pending = .ok p) :
    ∃ reg, c.deliver now run =
        .ok (outcomeResponse p.outcome, { c with store := { c.store with sessions := reg } }) ∧
      ∀ name, reg.get? name =
        if name = run.token then some { gate := { v.gate with running := false }, lastSeen := now }
        else c.store.sessions.get? name := by
  have hlive : c.store.live? k run.token = some v :=
    Option.filter_eq_some_iff.mpr ⟨hget, Visit.isLive_of_running hrunning k⟩
  obtain ⟨reg, hreg, hgets⟩ := Store.atGate_spec hk run.token .sessionEnded
    fun g => g.finishRun run.ticket
  rw [hlive] at hreg hgets
  simp only [Option.elim, Option.map, Gate.finishRun_of_ticket hin hgen] at hreg hgets
  refine ⟨reg, ?_, hgets⟩
  unfold deliver Store.finishRun
  rw [hreg]
  simp only [bind, Except.bind, hp]
  rfl

end Console

end Web

end CommandConsole
