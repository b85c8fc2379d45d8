import Mathlib.Data.Set.Card
import CommandConsole.Proofs.Store.Admission
import CommandConsole.Proofs.Store.Expired
import CommandConsole.Proofs.Store.Faults
import CommandConsole.Proofs.Store.Tickets

/-!
# What the sweeps leave

Sessions that have expired go with the next login, challenges that have expired with the next operation
that consults them. Between two sweeps what has expired may still be stored, and nothing else is told
apart from it; but it does not outlive the next sweep.

* `SinceLogin`: what a store has come to since a login that has opened a session;
* `SinceLogin.live_of_stored`: every session that is stored was opened by that login or was live then;
* `Past.since_latest_login`: since the latest login of a history the store has come to be what it is;
* `Store.challenges_swept`: what an operation that consults the challenges has left of them;
* `stale_gone_after_sweep`: these together, and what a login leaves stored, counted.
-/

namespace CommandConsole

/-! ## 1. Counting what is filed -/

namespace Registry

variable {α : Type} {r : Registry α} {name : String}

theorem mem_names_iff : name ∈ r.names ↔ (r.get? name).isSome = true := by
  rw [get?, List.lookup_isSome_iff, names, List.mem_map]
  simp only [beq_iff_eq, eq_comm (a := name)]

/-- A registry files one value under each name that is in use. -/
theorem size_eq_ncard (r : Registry α) : r.size = {name | (r.get? name).isSome = true}.ncard := by
  have hnames : {name | (r.get? name).isSome = true} = (r.names.toFinset : Set String) := by
    ext name
    simp [mem_names_iff]
  rw [hnames, Set.ncard_coe_finset, names, List.toFinset_card_of_nodup r.nodup, List.length_map, size]

end Registry

section

variable {captchaTtl idleTtl : Nat} {past : List Event} {now later time c : Moment} {s s' met : Store}
  {op : Operation} {answer : Answer} {t token id : String} {i : Issued}

/-! ## 2. Sessions since the latest login -/

/-- The store has come from `met` by a login at this moment that has returned this token, and by
    operations since then none of which has opened a session. -/
inductive SinceLogin (met : Store) (time : Moment) (token : String) : Moment → Store → Prop where
  | opened {challenge : Option String} {bypass : Bool} {s : Store}
      (done : met.perform time (.login challenge bypass token) = .ok (.token (.ok token), s)) :
      SinceLogin met time token time s
  | later {now later : Moment} {s s' : Store} {op : Operation} {answer : Answer}
      (before : SinceLogin met time token now s) (le : now ≤ later)
      (done : s.perform later op = .ok (answer, s')) (quiet : answer.opened? = none) :
      SinceLogin met time token later s'

/-- **A login leaves exactly the new session and those that are live.** -/
theorem Store.get?_of_opened {challenge : Option String} {bypass : Bool}
    (done : s.perform later (.login challenge bypass token) = .ok (.token (.ok token), s'))
    (t : String) :
    s'.sessions.get? t = if t = token then some { gate := Gate.new.login, lastSeen := later }
      else s.live? (later - (reckonedTtl s.idleTtl : Int)) t := by
  cases perform_sessions done with
  | opened hc hget =>
    obtain rfl := cutoff_eq_ok hc
    exact hget t
  | apart _ _ hanswer _ => exact absurd rfl (hanswer token)

/-- An operation that opens no session adds none. -/
theorem Store.stored_of_quiet (done : s.perform later op = .ok (answer, s'))
    (quiet : answer.opened? = none) (hstored : (s'.sessions.get? t).isSome = true) :
    (s.sessions.get? t).isSome = true := by
  cases perform_sessions done with
  | opened => cases quiet
  | closed hget =>
    rw [hget] at hstored
    split at hstored
    · cases hstored
    · exact hstored
  | visited hc hget =>
    rw [hget] at hstored
    split at hstored
    · rename_i ht
      rw [Option.isSome_map] at hstored
      exact ht ▸ Store.isSome_get?_of_live? hstored
    · exact hstored
  | apart _ _ _ hs => exact hs ▸ hstored

/-- **Every session that is stored was opened by the latest login or was live at its moment.** -/
theorem SinceLogin.live_of_stored (h : SinceLogin met time token now s)
    (hstored : (s.sessions.get? t).isSome = true) :
    t = token ∨ (met.live? (time - (reckonedTtl met.idleTtl : Int)) t).isSome = true := by
  induction h with
  | opened done =>
    rw [Store.get?_of_opened done] at hstored
    split at hstored
    · rename_i ht
      exact Or.inl ht
    · exact Or.inr hstored
  | later _ _ done quiet ih => exact ih (Store.stored_of_quiet done quiet hstored)

/-- A login that has returned a token is a login for that token. -/
theorem Store.opened?_eq_some (done : s.perform later op = .ok (answer, s'))
    (hopen : answer.opened? = some token) :
    answer = .token (.ok token) ∧ ∃ challenge bypass, op = .login challenge bypass token := by
  cases perform_sessions done with
  | opened =>
    cases hopen
    exact ⟨rfl, _, _, rfl⟩
  | closed => cases hopen
  | @visited token' a c _ _ =>
    have hnone : (s.record later (.visit token' a) ((s.live? c token').elim a.refusal
        fun v => (a.carryOut v.gate).1)).opened? = none := opened?_of_errand rfl
    exact absurd (hopen.symm.trans hnone) (by simp)
  | apart _ _ hanswer _ =>
    rw [Answer.opened?_eq_none hanswer] at hopen
    cases hopen

/-- A store has no session before the first login that opens one. -/
theorem Past.none_stored_of_no_login (h : Past captchaTtl idleTtl past now s)
    (hno : ∀ e ∈ past, e.opened? = none) (t : String) : s.sessions.get? t = none := by
  induction h with
  | new => rfl
  | step _ _ done ih =>
    obtain ⟨hquiet, hno⟩ := List.forall_mem_cons.mp hno
    rw [← Option.not_isSome_iff_eq_none]
    intro hstored
    have hbefore := Store.stored_of_quiet done hquiet hstored
    rw [ih hno] at hbefore
    cases hbefore

/-- **Since the latest login of its history** that has opened a session the store has come to be what it
    is. The induction is on the history, latest event first: the login is that event, or it is further
    back and the event has opened nothing. -/
theorem Past.since_latest_login (h : Past captchaTtl idleTtl past now s) {since before : List Event}
    {e : Event} (hpast : past = since ++ e :: before) (hopen : e.Opens token)
    (hsince : ∀ e' ∈ since, e'.opened? = none) :
    ∃ earlier met, Past captchaTtl idleTtl before earlier met ∧ earlier ≤ e.time ∧
      SinceLogin met e.time token now s := by
  induction h generalizing since with
  | new => exact absurd hpast (by simp)
  | @step past now later s s' op answer hbefore le done ih =>
    cases since with
    | nil =>
      obtain ⟨rfl, rfl⟩ := List.cons.inj hpast
      obtain ⟨rfl, challenge, bypass, rfl⟩ := Store.opened?_eq_some done hopen
      exact ⟨now, s, hbefore, le, .opened done⟩
    | cons e' since =>
      obtain ⟨rfl, htail⟩ := List.cons.inj hpast
      obtain ⟨hquiet, hsince⟩ := List.forall_mem_cons.mp hsince
      obtain ⟨earlier, met, hmet, hle, hmetSince⟩ := ih htail hsince
      exact ⟨earlier, met, hmet, hle, hmetSince.later le done hquiet⟩

/-! ## 3. Challenges after a sweep -/

/-- The challenge is lost by an operation: a login has used it up, or a wrong answer was submitted
    to it. -/
def Event.Loses (id : String) (i : Issued) (e : Event) : Prop :=
  e.Uses id ∨ ∃ typed fresh, e.op = .verify id typed fresh ∧ i.challenge.accepts typed = false

/-- What has become of a challenge that had not expired, over an operation that has put no other in its
    place: a wrong answer or a login has cost it, or it is kept, if perhaps marked as solved. -/
inductive Fate (e : Event) (id : String) : Option Issued → Option Issued → Prop where
  | absent : Fate e id none none
  | lost {i : Issued} (lost : e.Loses id i) : Fate e id (some i) none
  | kept {i : Issued} (solved : Bool) (kept : ¬ e.Loses id i) :
      Fate e id (some i) (some { i with solved := solved })

/-- What an operation that consults the challenges has left of them. -/
structure ChallengesSwept (s : Store) (now : Moment) (e : Event) (s' : Store) : Prop where
  /-- Of the challenges that were filed before, those that had not expired. -/
  others : ∀ id, ¬ e.Puts id → Fate e id (s.valid? (now - (reckonedTtl s.captchaTtl : Int)) id)
    (s'.challenges.get? id)
  /-- A challenge that was put now is filed as it was put. -/
  put : ∀ ch, e.put? = some ch → s'.challenges.get? ch.id = some (.ofChallenge now ch)

/-- A challenge that is stored after a sweep was put by the operation or has not expired. -/
theorem ChallengesSwept.isValid {e : Event} (h : ChallengesSwept s now e s')
    (hget : s'.challenges.get? id = some i) :
    e.Puts id ∨ i.isValid (now - (reckonedTtl s.captchaTtl : Int)) = true := by
  by_cases hput : e.Puts id
  · exact Or.inl hput
  · have hfate := h.others id hput
    rw [hget] at hfate
    cases hv : s.valid? (now - (reckonedTtl s.captchaTtl : Int)) id with
    | none =>
      rw [hv] at hfate
      cases hfate
    | some old =>
      rw [hv] at hfate
      cases hfate
      exact Or.inr (Option.filter_eq_some_iff.mp hv).2

/-- A challenge that has not expired is missing after a sweep only if the operation has cost it. -/
theorem ChallengesSwept.loses {e : Event} (h : ChallengesSwept s now e s')
    (hv : s.valid? (now - (reckonedTtl s.captchaTtl : Int)) id = some i)
    (hget : s'.challenges.get? id = none) : e.Loses id i := by
  have hput : ¬ e.Puts id := fun hput => by
    obtain ⟨ch, hch, rfl⟩ := Option.map_eq_some_iff.mp hput
    rw [h.put ch hch] at hget
    cases hget
  have hfate := h.others id hput
  rw [hv, hget] at hfate
  cases hfate
  assumption

@[simp] theorem Event.loses_record :
    (s.record now op answer).Loses id i ↔
      (∃ token, op = .login (some id) false token ∧ answer = .token (.ok token)) ∨
        ∃ typed fresh, op = .verify id typed fresh ∧ i.challenge.accepts typed = false := Iff.rfl

theorem Fate.of_sweep {e : Event} {v : Option Issued} (h : ∀ i, v = some i → ¬ e.Loses id i) :
    Fate e id v v := by
  cases v with
  | none => exact .absent
  | some i => exact .kept i.solved (h i rfl)

/-- What has become of each challenge over a sweep after which one of those left was dealt with. -/
theorem Fate.of_one {e : Event} {id' : String} {new : Option Issued} (hv : s.valid? c id' = some i)
    (hone : Fate e id' (some i) new) (hothers : ∀ id j, id ≠ id' → ¬ e.Loses id j) (id : String) :
    Fate e id (s.valid? c id) (if id = id' then new else s.valid? c id) := by
  by_cases hid : id = id'
  · rw [if_pos hid, hid, hv]
    exact hone
  · rw [if_neg hid]
    exact .of_sweep fun j _ => hothers id j hid

/-- An operation that is about no challenge does not consult the challenges. -/
theorem Store.not_asked (hissue : ∀ fresh, op ≠ .issue fresh)
    (hverify : ∀ id answer fresh, op ≠ .verify id answer fresh)
    (hlogin : ∀ id token, op ≠ .login (some id) false token) :
    Perishable.challenges ∉ s.asked later op := by
  cases op with
  | issue fresh => exact absurd rfl (hissue fresh)
  | verify id answer fresh => exact absurd rfl (hverify id answer fresh)
  | login challenge bypass token =>
    cases bypass with
    | true => simp [asked]
    | false =>
      cases challenge with
      | none => simp [asked]
      | some id => exact absurd rfl (hlogin id token)
  | logout | visit | glance => simp [asked]

/-- **What an operation that consults the challenges leaves of them.** -/
theorem Store.challenges_swept (done : s.perform later op = .ok (answer, s'))
    (hasked : Perishable.challenges ∈ s.asked later op) :
    ChallengesSwept s later (s.record later op answer) s' := by
  cases perform_challenges done with
  | @issued fresh c hc hget =>
    obtain rfl := cutoff_eq_ok hc
    refine ⟨fun id hput => ?_, fun ch hch => ?_⟩
    · rw [hget, if_neg fun hid => hput (congrArg some hid.symm)]
      exact .of_sweep (by simp)
    · cases hch
      rw [hget, if_pos rfl]
  | @blank id' typed fresh ha _ => simp [asked, ha] at hasked
  | @unknown id' typed fresh c ha hc hv hget =>
    obtain rfl := cutoff_eq_ok hc
    refine ⟨fun id _ => ?_, fun ch hch => by cases hch⟩
    rw [hget]
    refine .of_sweep fun i hi hlost => ?_
    -- the challenge that was answered is not one of those that have not expired
    obtain ⟨_, hop, -⟩ | ⟨_, _, hop, -⟩ := hlost
    · cases hop
    · cases hop
      rw [hv] at hi
      cases hi
  | @solved id' typed fresh c i ha hc hv hok hget =>
    obtain rfl := cutoff_eq_ok hc
    refine ⟨fun id _ => ?_, fun ch hch => by cases hch⟩
    rw [hget]
    exact .of_one hv (.kept true (by simp [hok])) (fun id j hid => by simp [Ne.symm hid]) id
  | @retried id' typed fresh c i ha hc hv hok hget =>
    obtain rfl := cutoff_eq_ok hc
    refine ⟨fun id hput => ?_, fun ch hch => ?_⟩
    · rw [hget, if_neg fun hid => hput (congrArg some hid.symm)]
      exact .of_one hv (.lost (Or.inr ⟨typed, fresh, rfl, hok⟩))
        (fun id j hid => by simp [Ne.symm hid]) id
    · cases hch
      rw [hget, if_pos rfl]
  | @admitted id' token c i hc hv hsolved hget =>
    obtain rfl := cutoff_eq_ok hc
    refine ⟨fun id _ => ?_, fun ch hch => by cases hch⟩
    rw [hget]
    exact .of_one hv (.lost (Or.inl ⟨token, rfl, rfl⟩)) (fun id j hid => by simp [Ne.symm hid]) id
  | @rejected id' token why c hc hget =>
    obtain rfl := cutoff_eq_ok hc
    refine ⟨fun id _ => ?_, fun ch hch => by cases hch⟩
    rw [hget]
    exact .of_sweep (by simp)
  | apart hissue hverify hlogin _ => exact absurd hasked (not_asked hissue hverify hlogin)

/-! ## 4. What is stored -/

/-- What is stored in the state to which this history leads, and what the next operation that sweeps
    leaves of it. -/
structure SweptState (captchaTtl idleTtl : Nat) (past : List Event) (now : Moment) (s : Store) :
    Prop where
  /-- Every session that is stored is in its first login. -/
  gates : ∀ t v, s.sessions.get? t = some v → v.gate.loggedIn = true ∧ v.gate.generation = 1
  /-- Before any login has opened a session none is stored. -/
  noLogin : (∀ e ∈ past, e.opened? = none) → ∀ t, s.sessions.get? t = none
  /-- Every session that is stored was opened by the latest login of the history or was live at its
      moment, in the state that the events before it have led to. -/
  sinceLogin : ∀ {since before : List Event} {e : Event} {token : String},
    past = since ++ e :: before → e.Opens token → (∀ e' ∈ since, e'.opened? = none) →
      ∃ earlier met, Past captchaTtl idleTtl before earlier met ∧ earlier ≤ e.time ∧
        SinceLogin met e.time token now s ∧
        ∀ t, (s.sessions.get? t).isSome = true →
          t = token ∨ (met.live? (e.time - (reckonedTtl idleTtl : Int)) t).isSome = true
  /-- After a login the new session is stored and those that are live, and nothing else. -/
  afterLogin : ∀ later challenge bypass token s',
    s.perform later (.login challenge bypass token) = .ok (.token (.ok token), s') →
      (∀ t, s'.sessions.get? t = if t = token then some { gate := Gate.new.login, lastSeen := later }
        else s.live? (later - (reckonedTtl idleTtl : Int)) t) ∧
      s'.sessionCount =
        {t | t = token ∨ (s.live? (later - (reckonedTtl idleTtl : Int)) t).isSome = true}.ncard
  /-- After an operation that consults the challenges, those that are stored have not expired or were put
      by it; and those that have not expired are stored, but for what the operation has cost. -/
  afterChallenge : ∀ later op answer s', s.perform later op = .ok (answer, s') →
    Perishable.challenges ∈ s.asked later op →
      ChallengesSwept s later (s.record later op answer) s' ∧
      (∀ id i, s'.challenges.get? id = some i → (s.record later op answer).Puts id ∨
        i.isValid (later - (reckonedTtl captchaTtl : Int)) = true) ∧
      ∀ id i, s.valid? (later - (reckonedTtl captchaTtl : Int)) id = some i →
        s'.challenges.get? id = none → (s.record later op answer).Loses id i

/-- What a login leaves stored is counted by the session that it opens and those that are live. -/
theorem Store.sessionCount_of_opened {challenge : Option String} {bypass : Bool}
    (done : s.perform later (.login challenge bypass token) = .ok (.token (.ok token), s')) :
    s'.sessionCount =
      {t | t = token ∨ (s.live? (later - (reckonedTtl s.idleTtl : Int)) t).isSome = true}.ncard := by
  rw [sessionCount, Registry.size_eq_ncard]
  congr 1
  ext t
  rw [Set.mem_ofPred_eq, Set.mem_ofPred_eq, get?_of_opened done]
  by_cases ht : t = token <;> simp [ht]

/-- **What has expired does not outlive the next sweep**, in every state that the store can reach. A
    session that is stored was opened by the latest login or was live at its moment, so right after a
    login exactly the new session and the live ones are stored. Right after an operation that consults the
    challenges what is stored has not expired, and of what has not expired nothing is missing but what
    the operation has used up or was wrongly answered. -/
theorem stale_gone_after_sweep (h : Past captchaTtl idleTtl past now s) :
    SweptState captchaTtl idleTtl past now s where
  gates _ _ hv := h.first_login hv
  noLogin := h.none_stored_of_no_login
  sinceLogin hpast hopen hsince := by
    obtain ⟨earlier, met, hmet, le, hmetSince⟩ := h.since_latest_login hpast hopen hsince
    exact ⟨earlier, met, hmet, le, hmetSince, fun t ht => hmet.ttl.2 ▸ hmetSince.live_of_stored ht⟩
  afterLogin _ _ _ _ _ done :=
    h.ttl.2 ▸ ⟨Store.get?_of_opened done, Store.sessionCount_of_opened done⟩
  afterChallenge _ _ _ _ done hasked := by
    have swept := Store.challenges_swept done hasked
    rw [← h.ttl.1]
    exact ⟨swept, fun _ _ => swept.isValid, fun _ _ => swept.loses⟩

/-- Two sessions are stored, the second opened by the latest login and the first live at its moment. Of the
    two, left alone for longer than their time, the one in which a run is going on is still there after
    the next login, and the other is gone. -/
theorem stale_gone_after_sweep_running :
    ∃ past s s', Past 5000 1000 past 2 s ∧
      (∃ before earlier met, Past 5000 1000 before earlier met ∧ SinceLogin met 1 "b" 2 s ∧
        ∀ t, (s.sessions.get? t).isSome = true →
          t = "b" ∨ (met.live? (1 - (reckonedTtl 1000 : Int)) t).isSome = true) ∧
      s.perform 9000 (.login none true "c") = .ok (.token (.ok "c"), s') ∧
      (s'.sessions.get? "a").isSome = true ∧ s'.sessions.get? "b" = none := by
  have h₁ := @Past.step 5000 1000 _ 0 0 _ _ (.login none true "a") (.token (.ok "a")) (.new 0)
    (by decide) rfl
  have h₂ := @Past.step _ _ _ 0 1 _ _ (.login none true "b") (.token (.ok "b")) h₁ (by decide) rfl
  have h₃ := @Past.step _ _ _ 1 2 _ _ (.visit "a" (.beginRun "x")) (.ticket (.ok ⟨1⟩)) h₂
    (by decide) rfl
  have swept := stale_gone_after_sweep h₃
  obtain ⟨earlier, met, hmet, -, hsince, hlive⟩ :=
    @swept.sinceLogin [_] _ _ _ rfl rfl (List.forall_mem_singleton.mpr rfl)
  have left := (swept.afterLogin 9000 none true "c" _ rfl).1
  refine ⟨_, _, _, h₃, ⟨_, earlier, met, hmet, hsince, hlive⟩, rfl, ?_, ?_⟩
  · rw [left]
    rfl
  · rw [left]
    rfl

end

end CommandConsole
