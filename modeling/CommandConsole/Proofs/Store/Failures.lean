import CommandConsole.Proofs.Store.Expired
import CommandConsole.Proofs.Store.Tickets

/-!
# Operations that fail

An operation of the store can fail after it has swept the challenges, after it has looked a session up,
which marks the session as seen or drops it, or at the gate of a session. Whichever way it fails, what is
live stays as it was.

* `SweptAt`: what a sweep does to a value that is filed;
* `Past.sessions_of_failed`, `Store.challenges_of_failed`: what a failed operation has done to each
  session and to each challenge;
* `failure_spares_live`: nothing live is removed or changed and nothing is added, except that a session
  is marked as seen when its gate has refused a run.
-/

namespace CommandConsole

/-! ## 1. What a failure may change -/

/-- The failure with which an operation was answered. -/
def Answer.failure? : Answer → Option Failure
  | .verdict (.error why) | .token (.error why) | .done (.error why) | .panel (.error why)
  | .ticket (.error why) => some why
  | _ => none

section

variable {α : Type} {keep : α → Bool} {old new : Option α} {a : α}

/-- What is filed under a name is as it was, or it did not pass the test of a sweep and is gone. -/
def SweptAt (keep : α → Bool) (old new : Option α) : Prop :=
  new = old ∨ (∃ a, old = some a ∧ keep a = false) ∧ new = none

theorem sweptAt_filter (keep : α → Bool) (old : Option α) : SweptAt keep old (old.filter keep) := by
  cases old with
  | none => exact Or.inl rfl
  | some a =>
    cases ha : keep a with
    | false => exact Or.inr ⟨⟨a, rfl, ha⟩, by simp [Option.filter, ha]⟩
    | true => exact Or.inl (by simp [Option.filter, ha])

/-- A value that passes the test stays. -/
theorem SweptAt.eq_of_filter (h : SweptAt keep old new) (ha : old.filter keep = some a) :
    new = some a := by
  obtain ⟨hold, hkeep⟩ := Option.filter_eq_some_iff.mp ha
  rcases h with rfl | ⟨⟨b, hb, hlost⟩, -⟩
  · exact hold
  · rw [hold] at hb
    cases hb
    rw [hkeep] at hlost
    cases hlost

/-- A sweep adds nothing. -/
theorem SweptAt.eq_none (h : SweptAt keep old new) (hold : old = none) : new = none := by
  rcases h with rfl | ⟨-, hnew⟩
  · exact hold
  · exact hnew

end

/-- What an operation that has failed may have done to the session under a token: to drop it if it has
    expired, or to mark it as seen if it is live and its gate has refused a run. -/
def SessionSpared (cutoff now : Moment) (op : Operation) (t : String) (old new : Option Visit) : Prop :=
  SweptAt (Visit.isLive cutoff) old new ∨
    ∃ v input, op = .visit t (.beginRun input) ∧ old.filter (Visit.isLive cutoff) = some v ∧
      new = some { v with lastSeen := now }

section

variable {captchaTtl idleTtl : Nat} {past : List Event} {now later c : Moment} {s s' : Store}
  {op : Operation} {answer : Answer} {why : Failure} {t : String} {a : Errand} {v : Visit}

/-! ## 2. Each session and each challenge -/

/-- The ways in which an errand can fail at a gate: it refuses to begin a run, and stays as it was, or it
    refuses to end one. -/
theorem Errand.failed_cases (failed : (a.carryOut v.gate).1.failure? = some why) :
    (∃ input, a = .beginRun input ∧ (a.carryOut v.gate).2 = v.gate) ∨
      ∃ ticket, a = .finishRun ticket ∧ ∃ e, (v.gate.finishRun ticket).1 = .error e := by
  cases a with
  | status | setConsent | togglePanel => cases failed
  | beginRun input =>
    refine Or.inl ⟨input, rfl, ?_⟩
    cases hanswer : (v.gate.beginRun input).1 with
    | error e => exact Gate.beginRun_eq_error hanswer
    | ok ticket =>
      rw [carryOut, hanswer] at failed
      cases failed
  | finishRun ticket =>
    refine Or.inr ⟨ticket, rfl, ?_⟩
    cases hanswer : (v.gate.finishRun ticket).1 with
    | error e => exact ⟨e, rfl⟩
    | ok _ =>
      rw [carryOut, hanswer] at failed
      cases failed

/-- A stored session lets its run be ended by every ticket that was issued under its token. -/
theorem Past.finish_granted (h : Past captchaTtl idleTtl past now s) {ticket : RunTicket}
    (hissued : ∃ e ∈ past, e.Issues t ticket) (hv : s.sessions.get? t = some v) :
    (v.gate.finishRun ticket).1 = .ok () := by
  obtain ⟨e, hmem, he⟩ := hissued
  obtain rfl := h.issued_first hmem he
  obtain ⟨hin, hgen⟩ := h.first_login hv
  rw [Gate.finishRun_of_ticket hin hgen.symm]

/-- A logout fails only where nothing is stored. -/
theorem Store.get?_of_logout_failed {r : Except Failure Unit}
    (done : s.perform later (.logout t) = .ok (.done r, s')) (failed : r = .error why) :
    s.sessions.get? t = none := by
  have hanswer := s.logout_answer later t
  rw [done, failed] at hanswer
  cases hget : s.sessions.get? t with
  | none => rfl
  | some v =>
    rw [hget] at hanswer
    cases hanswer

/-- **What a failed operation has done to each session.** Tickets are presented only for the token under
    which they were issued. -/
theorem Past.sessions_of_failed (h : Past captchaTtl idleTtl past now s)
    (own : ∀ t ticket, op = .visit t (.finishRun ticket) → ∃ e ∈ past, e.Issues t ticket)
    (done : s.perform later op = .ok (answer, s')) (failed : answer.failure? = some why)
    (t : String) :
    SessionSpared (later - (reckonedTtl s.idleTtl : Int)) later op t (s.sessions.get? t)
      (s'.sessions.get? t) := by
  cases Store.perform_sessions done with
  | opened => cases failed
  | @closed token r hget =>
    refine Or.inl (Or.inl ?_)
    rw [hget]
    split
    · rename_i ht
      cases r with
      | error e => rw [ht, Store.get?_of_logout_failed done rfl]
      | ok _ => cases failed
    · rfl
  | @visited token a c hc hget =>
    obtain rfl := cutoff_eq_ok hc
    by_cases ht : t = token
    · subst ht
      rw [hget, if_pos rfl]
      cases hv : s.live? (later - (reckonedTtl s.idleTtl : Int)) t with
      | none =>
        refine Or.inl ?_
        rw [Option.map_none, ← hv]
        exact sweptAt_filter _ _
      | some v =>
        rw [hv] at failed
        rcases Errand.failed_cases failed with ⟨input, rfl, hgate⟩ | ⟨ticket, rfl, e, hrefused⟩
        · refine Or.inr ⟨v, input, rfl, hv, ?_⟩
          rw [Option.map_some, Visit.after, hgate]
        · -- the ticket was issued under this token, so the gate does not refuse it
          rw [h.finish_granted (own t ticket rfl) (Option.filter_eq_some_iff.mp hv).1] at hrefused
          cases hrefused
    · rw [hget, if_neg ht]
      exact Or.inl (Or.inl rfl)
  | apart _ _ _ hs =>
    rw [hs]
    exact Or.inl (Or.inl rfl)

/-- **What a failed operation has done to each challenge**: to drop it if it has expired. -/
theorem Store.challenges_of_failed (done : s.perform later op = .ok (answer, s'))
    (failed : answer.failure? = some why) (id : String) :
    SweptAt (Issued.isValid (later - (reckonedTtl s.captchaTtl : Int))) (s.challenges.get? id)
      (s'.challenges.get? id) := by
  cases perform_challenges done with
  | issued | solved | retried | admitted => cases failed
  | blank _ hs =>
    rw [hs]
    exact Or.inl rfl
  | unknown _ hc _ hget | rejected hc hget =>
    obtain rfl := cutoff_eq_ok hc
    rw [hget]
    exact sweptAt_filter _ _
  | apart _ _ _ hs =>
    rw [hs]
    exact Or.inl rfl

/-- A login that is refused leaves the sessions alone, also those that have expired. -/
theorem Store.sessions_of_login_failed {challenge : Option String} {bypass : Bool} {token : String}
    (done : s.perform later (.login challenge bypass token) = .ok (answer, s'))
    (failed : answer.failure? = some why) : s'.sessions = s.sessions := by
  cases perform_sessions done with
  | opened => cases failed
  | apart _ _ _ hs => exact hs

/-! ## 3. What is live -/

/-- What an operation that has failed has done to a store. -/
structure Undisturbed (s : Store) (now : Moment) (op : Operation) (s' : Store) : Prop where
  /-- Each session is as it was, or had expired and is gone, or is marked as seen since its gate has
      refused a run. -/
  sessions : ∀ t, SessionSpared (now - (reckonedTtl s.idleTtl : Int)) now op t (s.sessions.get? t)
    (s'.sessions.get? t)
  /-- Each challenge is as it was, or had expired and is gone. -/
  challenges : ∀ id, SweptAt (Issued.isValid (now - (reckonedTtl s.captchaTtl : Int)))
    (s.challenges.get? id) (s'.challenges.get? id)
  /-- A live session is still there with the same gate. -/
  live : ∀ t v, s.live? (now - (reckonedTtl s.idleTtl : Int)) t = some v →
    ∃ seen, s'.sessions.get? t = some { v with lastSeen := seen }
  /-- A challenge that has not expired is still there, with its operands, its moment and its mark. -/
  valid : ∀ id i, s.valid? (now - (reckonedTtl s.captchaTtl : Int)) id = some i →
    s'.challenges.get? id = some i
  /-- No session was opened. -/
  noneOpened : ∀ t, s.sessions.get? t = none → s'.sessions.get? t = none
  /-- No challenge was put. -/
  nonePut : ∀ id, s.challenges.get? id = none → s'.challenges.get? id = none
  /-- A login that was refused has left all sessions as they were. -/
  login : ∀ challenge bypass token, op = .login challenge bypass token → s'.sessions = s.sessions

/-- **An operation that fails disturbs nothing live.** In every state that the store can reach, whatever
    is asked of it and fails, every live session keeps its gate, every challenge that has not expired
    stays as it is, and nothing is added. What has expired may go, and a live session whose gate refuses
    a run is marked as seen. -/
theorem failure_spares_live (h : Past captchaTtl idleTtl past now s)
    (own : ∀ t ticket, op = .visit t (.finishRun ticket) → ∃ e ∈ past, e.Issues t ticket)
    (done : s.perform later op = .ok (answer, s')) (failed : answer.failure? = some why) :
    Undisturbed s later op s' where
  sessions := h.sessions_of_failed own done failed
  challenges := Store.challenges_of_failed done failed
  live t v hv := by
    rcases h.sessions_of_failed own done failed t with hswept | ⟨w, _, _, hw, hnew⟩
    · exact ⟨v.lastSeen, hswept.eq_of_filter hv⟩
    · obtain rfl : v = w := Option.some.inj (hv.symm.trans hw)
      exact ⟨later, hnew⟩
  valid id _ hi := (Store.challenges_of_failed done failed id).eq_of_filter hi
  noneOpened t ht := by
    rcases h.sessions_of_failed own done failed t with hswept | ⟨w, _, _, hw, -⟩
    · exact hswept.eq_none ht
    · rw [ht] at hw
      cases hw
  nonePut id hid := (Store.challenges_of_failed done failed id).eq_none hid
  login := by
    rintro challenge bypass token rfl
    exact Store.sessions_of_login_failed done failed

/-- A run whose session was logged out meanwhile is ended with its own ticket and has nobody to be
    delivered to; the session of a second client, in which a run is going on too, is not disturbed. -/
theorem failure_spares_live_finish :
    ∃ past s s', Past 5000 1000 past 4 s ∧
      s.perform 9000 (.visit "a" (.finishRun ⟨1⟩)) = .ok (.done (.error .sessionEnded), s') ∧
      ∃ seen, s'.sessions.get? "b"
        = some { gate := { Gate.new.login with running := true }, lastSeen := seen } := by
  have h₁ := @Past.step 5000 1000 _ 0 0 _ _ (.login none true "a") (.token (.ok "a")) (.new 0)
    (by decide) rfl
  have h₂ := @Past.step _ _ _ 0 1 _ _ (.login none true "b") (.token (.ok "b")) h₁ (by decide) rfl
  have h₃ := @Past.step _ _ _ 1 2 _ _ (.visit "a" (.beginRun "x")) (.ticket (.ok ⟨1⟩)) h₂
    (by decide) rfl
  have h₄ := @Past.step _ _ _ 2 3 _ _ (.visit "b" (.beginRun "x")) (.ticket (.ok ⟨1⟩)) h₃
    (by decide) rfl
  have h₅ := @Past.step _ _ _ 3 4 _ _ (.logout "a") (.done (.ok ())) h₄ (by decide) rfl
  have spared := @failure_spares_live _ _ _ _ 9000 _ _ (.visit "a" (.finishRun ⟨1⟩))
    (.done (.error .sessionEnded)) .sessionEnded h₅
    (fun t ticket hop => by
      cases hop
      exact ⟨_, List.mem_cons_of_mem _ (List.mem_cons_of_mem _ List.mem_cons_self), "x", rfl, rfl⟩)
    rfl rfl
  exact ⟨_, _, _, h₅, rfl, spared.live "b" _ rfl⟩

end

end CommandConsole
