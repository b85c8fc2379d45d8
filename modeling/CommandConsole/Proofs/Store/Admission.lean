import CommandConsole.Proofs.Store.History

/-!
# Which challenges open a session

A challenge is filed, judged, swept and used up in one store that everybody uses. Here its fate is
told by the history alone, in which nothing is ever swept: when it was put, which answers it was given,
and whether a login has used it up.

* `Captcha.Told`, `Past.captcha_told`: what is filed under an identifier, told by the history;
* `Captcha.Told.of_valid`, `Captcha.Told.not_live`: a challenge is valid in the store if and only if
  the history says that it is live;
* `captcha_admission`: what answers and logins come to.
-/

namespace CommandConsole

/-! ## 1. What an event is for a challenge -/

namespace Event

/-- The challenge that was put: one that was asked for, or the next after a wrong answer. -/
def put? (e : Event) : Option Challenge :=
  match e.op, e.answer with
  | .issue fresh, .challenge _ => some fresh
  | .verify _ _ fresh, .verdict (.ok (.retry _)) => some fresh
  | _, _ => none

/-- The identifier under which a challenge was put. -/
def putId? (e : Event) : Option String := e.put?.map Challenge.id

/-- A challenge was put under the identifier. -/
def Puts (id : String) (e : Event) : Prop := e.putId? = some id

/-- An answer with something in it was submitted to the challenge. -/
def Submits (id answer : String) (e : Event) : Prop :=
  Challenge.canSubmit answer = true ∧ ∃ next, e.op = .verify id answer next

/-- A login has used the challenge up. -/
def Uses (id : String) (e : Event) : Prop :=
  ∃ token, e.op = .login (some id) false token ∧ e.answer = .token (.ok token)

end Event

/-- No identifier was put twice. -/
abbrev FreshChallenges (past : List Event) : Prop := NoRepeat Event.putId? past

namespace Captcha

/-- The answer is right for the challenge that was put under the identifier. -/
def Right (id answer : String) (past : List Event) : Prop :=
  ∃ e ∈ past, ∃ ch, e.put? = some ch ∧ ch.id = id ∧ ch.accepts answer = true

/-- The challenge was put less than a time to live ago. -/
def Recent (ttl : Nat) (id : String) (past : List Event) (now : Moment) : Prop :=
  ∃ e ∈ past, e.Puts id ∧ now - e.time < (ttl : Int)

/-- A login has used the challenge up. -/
def Used (id : String) (past : List Event) : Prop := ∃ e ∈ past, e.Uses id

/-- A wrong answer was submitted to the challenge while it was live. -/
def Spoilt (ttl : Nat) (id : String) : List Event → Prop
  | [] => False
  | e :: past =>
    Spoilt ttl id past ∨ ∃ answer, e.Submits id answer ∧ ¬ Right id answer past ∧
      Recent ttl id past e.time ∧ ¬ Spoilt ttl id past ∧ ¬ Used id past

/-- The challenge was put less than a time to live ago, no wrong answer was submitted to it while it
    was live, and no login has used it up. -/
def Live (ttl : Nat) (id : String) (past : List Event) (now : Moment) : Prop :=
  Recent ttl id past now ∧ ¬ Spoilt ttl id past ∧ ¬ Used id past

/-- A right answer was submitted to the challenge. -/
def Answered (id : String) : List Event → Prop
  | [] => False
  | e :: past => Answered id past ∨ ∃ answer, e.Submits id answer ∧ Right id answer past

/-! ## 2. What later events leave as it was -/

variable {ttl : Nat} {id answer : String} {e : Event} {past : List Event}

theorem used_cons : Used id (e :: past) ↔ e.Uses id ∨ Used id past := by
  simp [Used]

theorem spoilt_append (h : Spoilt ttl id past) (more : List Event) :
    Spoilt ttl id (more ++ past) := by
  induction more with
  | nil => exact h
  | cons e more ih => exact Or.inl ih

theorem used_append (h : Used id past) (more : List Event) : Used id (more ++ past) := by
  obtain ⟨e, hmem, hused⟩ := h
  exact ⟨e, List.mem_append_right _ hmem, hused⟩

/-- A challenge that was spoilt or used up never comes back to life. -/
theorem not_live_append (h : Spoilt ttl id past ∨ Used id past) (more : List Event) (now : Moment) :
    ¬ Live ttl id (more ++ past) now := by
  intro hcase
  obtain ⟨-, hspoilt, hused⟩ := hcase
  rcases h with h | h
  · exact hspoilt (spoilt_append h more)
  · exact hused (used_append h more)

/-- Of a challenge that was never put there is nothing to tell. -/
theorem put_of_told (h : Spoilt ttl id past ∨ Answered id past) : ∃ e ∈ past, e.Puts id := by
  have right_put : ∀ {answer : String} {past : List Event}, Right id answer past →
      ∃ e ∈ past, e.Puts id := by
    intro answer past hcase
    obtain ⟨e, hmem, ch, hput, rfl, -⟩ := hcase
    exact ⟨e, hmem, by simp [Event.Puts, Event.putId?, hput]⟩
  induction past with
  | nil => exact h.elim False.elim False.elim
  | cons e past ih =>
    have hpast : ∃ e ∈ past, e.Puts id := by
      rcases h with (h | ⟨_, -, -, ⟨e', hmem, hput, -⟩, -⟩) | (h | ⟨_, -, hright⟩)
      · exact ih (Or.inl h)
      · exact ⟨e', hmem, hput⟩
      · exact ih (Or.inr h)
      · exact right_put hright
    obtain ⟨e', hmem, hput⟩ := hpast
    exact ⟨e', List.mem_cons_of_mem _ hmem, hput⟩

end Captcha

/-! ## 3. What is filed, told by the history -/

section

variable {captchaTtl idleTtl : Nat} {past : List Event} {now later c : Moment} {s s' : Store}
  {id : String} {e : Event}

theorem Event.puts_of_put? {ch : Challenge} (h : e.put? = some ch) : e.Puts ch.id := by
  unfold Puts putId?
  rw [h]
  rfl

@[simp] theorem Event.submits_record {op : Operation} {answer : Answer} {typed : String} :
    (s.record now op answer).Submits id typed ↔
      Challenge.canSubmit typed = true ∧ ∃ next, op = .verify id typed next := Iff.rfl

@[simp] theorem Event.uses_record {op : Operation} {answer : Answer} :
    (s.record now op answer).Uses id ↔
      ∃ token, op = .login (some id) false token ∧ answer = .token (.ok token) := Iff.rfl

theorem Event.putId?_of_other (hissue : ∀ fresh, e.op ≠ .issue fresh)
    (hverify : ∀ id answer fresh, e.op ≠ .verify id answer fresh) : e.putId? = none := by
  unfold putId? put?
  split
  · rename_i hop _
    exact absurd hop (hissue _)
  · rename_i hop _
    exact absurd hop (hverify _ _ _)
  · rfl

/-- Only the challenge that was put decides which answers are right. -/
theorem right_iff (fresh : FreshChallenges past) (he : e ∈ past) {ch : Challenge}
    (hput : e.put? = some ch) (answer : String) :
    Captcha.Right ch.id answer past ↔ ch.accepts answer = true := by
  refine ⟨?_, fun hok => ⟨e, he, ch, hput, rfl, hok⟩⟩
  intro hcase
  obtain ⟨e', he', ch', hput', hid, hok⟩ := hcase
  have hputs : e'.putId? = some ch.id := hid ▸ Event.puts_of_put? hput'
  have heq : e' = e := fresh.unique he' he hputs (Event.puts_of_put? hput)
  rw [heq, hput] at hput'
  cases hput'
  exact hok

namespace Captcha

/-- What the history says of the challenge under an identifier. -/
structure Told (ttl : Nat) (past : List Event) (now : Moment) (s : Store) (id : String) : Prop where
  /-- One that is filed was put, was neither spoilt nor used up, and is marked if it was answered. -/
  there : ∀ i, s.challenges.get? id = some i →
    (∃ e ∈ past, e.put? = some i.challenge ∧ e.time = i.issuedAt) ∧ i.challenge.id = id ∧
      ¬ Spoilt ttl id past ∧ ¬ Used id past ∧ (i.solved = true ↔ Answered id past)
  /-- One that was put and is not filed was spoilt or used up, or has expired. -/
  gone : s.challenges.get? id = none → ∀ e ∈ past, e.Puts id →
    Spoilt ttl id past ∨ Used id past ∨ e.time ≤ now - (ttl : Int)
  /-- One that was used up was put. -/
  put : Used id past → ∃ e ∈ past, e.Puts id

variable {ttl : Nat}

theorem Told.new (s : Store) (h : s.challenges = .empty) : Told ttl [] now s id where
  there i hi := by
    rw [h] at hi
    cases hi
  gone _ e he := by cases he
  put := by simp [Used]

/-- A challenge that is not valid is not live. -/
theorem Told.not_live (h : Told ttl past now s id) (fresh : FreshChallenges past) (le : now ≤ later)
    (hv : s.valid? (later - (ttl : Int)) id = none) : ¬ Live ttl id past later := by
  intro hcase
  obtain ⟨⟨e, hmem, hput, hlt⟩, hspoilt, hused⟩ := hcase
  cases hget : s.challenges.get? id with
  | none =>
    rcases h.gone hget e hmem hput with h' | h' | hle
    · exact hspoilt h'
    · exact hused h'
    · unfold Moment at *
      omega
  | some i =>
    obtain ⟨⟨e', hmem', hput', htime⟩, hid, -⟩ := h.there i hget
    have heq : e = e' := fresh.unique hmem hmem' hput (hid ▸ Event.puts_of_put? hput')
    have hold : ¬ later - (ttl : Int) < i.issuedAt := by
      rw [Store.valid?, hget] at hv
      simpa [Option.filter, Issued.isValid] using hv
    rw [← htime, ← heq] at hold
    unfold Moment at *
    omega

/-- A valid challenge is live; the history knows its answer, and whether it was given. -/
theorem Told.of_valid (h : Told ttl past now s id) (fresh : FreshChallenges past) {i : Issued}
    (hv : s.valid? (later - (ttl : Int)) id = some i) :
    Live ttl id past later ∧ (∀ answer, Right id answer past ↔ i.challenge.accepts answer = true) ∧
      (i.solved = true ↔ Answered id past) := by
  obtain ⟨hget, hvalid⟩ := Option.filter_eq_some_iff.mp hv
  obtain ⟨⟨e, hmem, hput, htime⟩, hid, hspoilt, hused, hsolved⟩ := h.there i hget
  rw [Issued.isValid, decide_eq_true_iff, ← htime] at hvalid
  have hputs : e.Puts id := hid ▸ Event.puts_of_put? hput
  refine ⟨⟨⟨e, hmem, hputs, ?_⟩, hspoilt, hused⟩, fun answer => ?_, hsolved⟩
  · unfold Moment at *
    omega
  · rw [← hid]
    exact right_iff fresh hmem hput answer

theorem Told.put_cons (h : Told ttl past now s id) (huse : e.Uses id → ∃ e' ∈ past, e'.Puts id) :
    Used id (e :: past) → ∃ e' ∈ e :: past, e'.Puts id := by
  intro hused
  have hpast : ∃ e' ∈ past, e'.Puts id := by
    rcases used_cons.mp hused with hu | hu
    · exact huse hu
    · exact h.put hu
  obtain ⟨e', hmem, hput⟩ := hpast
  exact ⟨e', List.mem_cons_of_mem _ hmem, hput⟩

/-! ### One event -/

/-- A challenge that is not valid, and not filed afterwards, is gone for good. -/
theorem Told.absent (h : Told ttl past now s id) (fresh : FreshChallenges past) (le : now ≤ later)
    (hput : ¬ e.Puts id) (huse : ¬ e.Uses id) (hv : s.valid? (later - (ttl : Int)) id = none)
    (hget : s'.challenges.get? id = none) : Told ttl (e :: past) later s' id := by
  have hdead := h.not_live fresh le hv
  refine ⟨fun i hi => ?_, fun _ e' hmem hput' => ?_, h.put_cons fun hu => absurd hu huse⟩
  · rw [hget] at hi
    cases hi
  · rcases List.mem_cons.mp hmem with rfl | hmem
    · exact absurd hput' hput
    · by_cases hspoilt : Spoilt ttl id past
      · exact Or.inl (Or.inl hspoilt)
      · by_cases hused : Used id past
        · exact Or.inr (Or.inl (used_cons.mpr (Or.inr hused)))
        · have hold : ¬ later - e'.time < (ttl : Int) :=
            fun hlt => hdead ⟨⟨e', hmem, hput', hlt⟩, hspoilt, hused⟩
          refine Or.inr (Or.inr ?_)
          unfold Moment at *
          omega

/-- What is neither answered nor used up stays as it is while it is filed. -/
theorem Told.present (h : Told ttl past now s id)
    (hsubmit : ∀ answer, ¬ e.Submits id answer) (huse : ¬ e.Uses id) {i : Issued}
    (hs : s.challenges.get? id = some i) (hget : s'.challenges.get? id = some i) :
    Told ttl (e :: past) later s' id := by
  refine ⟨fun i' hi' => ?_, fun hnone => ?_, h.put_cons fun hu => absurd hu huse⟩
  · rw [hget] at hi'
    cases hi'
    obtain ⟨⟨e', hmem, hput', htime⟩, hid, hspoilt, hused, hsolved⟩ := h.there i hs
    refine ⟨⟨e', List.mem_cons_of_mem _ hmem, hput', htime⟩, hid, ?_, ?_, hsolved.trans ?_⟩
    · intro hcase
      rcases hcase with h' | ⟨answer, h', -⟩
      · exact hspoilt h'
      · exact hsubmit answer h'
    · intro h'
      exact (used_cons.mp h').elim huse hused
    · refine ⟨Or.inl, ?_⟩
      intro hcase
      rcases hcase with h' | ⟨answer, h', -⟩
      · exact h'
      · exact absurd h' (hsubmit answer)
  · rw [hget] at hnone
    cases hnone

/-- An event that is none of the challenge's, with or without a sweep. -/
theorem Told.apart (h : Told ttl past now s id) (fresh : FreshChallenges past) (le : now ≤ later)
    (hput : ¬ e.Puts id) (hsubmit : ∀ answer, ¬ e.Submits id answer) (huse : ¬ e.Uses id)
    (hget : s'.challenges.get? id = s.challenges.get? id ∨
      s'.challenges.get? id = s.valid? (later - (ttl : Int)) id) :
    Told ttl (e :: past) later s' id := by
  cases hs' : s'.challenges.get? id with
  | none =>
    refine h.absent fresh le hput huse ?_ hs'
    rcases hget with hget | hget
    · unfold Store.valid?
      rw [← hget, hs']
      rfl
    · rw [← hget, hs']
  | some i =>
    refine h.present hsubmit huse ?_ hs'
    rcases hget with hget | hget
    · rw [← hget, hs']
    · exact (Option.filter_eq_some_iff.mp (hget.symm.trans hs')).1

/-- Nothing has happened to a challenge before it was put. -/
theorem Told.untouched (h : Told ttl past now s id) (hnew : ∀ e' ∈ past, ¬ e'.Puts id)
    (hsubmit : ∀ answer, ¬ e.Submits id answer) (huse : ¬ e.Uses id) :
    ¬ Spoilt ttl id (e :: past) ∧ ¬ Used id (e :: past) ∧ ¬ Answered id (e :: past) := by
  have hnone : ¬ ∃ e' ∈ past, e'.Puts id := by
    intro hput
    obtain ⟨e', hmem, hput⟩ := hput
    exact hnew e' hmem hput
  refine ⟨?_, ?_, ?_⟩
  · intro hcase
    rcases hcase with h' | ⟨answer, h', -⟩
    · exact hnone (put_of_told (Or.inl h'))
    · exact hsubmit answer h'
  · intro h'
    exact (used_cons.mp h').elim huse fun hu => hnone (h.put hu)
  · intro hcase
    rcases hcase with h' | ⟨answer, h', -⟩
    · exact hnone (@put_of_told ttl id past (Or.inr h'))
    · exact hsubmit answer h'

/-- A challenge that is put now is filed as it was put. -/
theorem Told.putNow (h : Told ttl past now s id) (fresh : FreshChallenges (e :: past))
    (ch : Challenge) (hput : e.put? = some ch) (hid : ch.id = id)
    (hsubmit : ∀ answer, ¬ e.Submits id answer) (huse : ¬ e.Uses id)
    (hget : s'.challenges.get? id = some (.ofChallenge e.time ch)) :
    Told ttl (e :: past) e.time s' id := by
  have hputs : e.Puts id := hid ▸ Event.puts_of_put? hput
  obtain ⟨hspoilt, hused, hanswered⟩ := h.untouched (fresh.not_before hputs) hsubmit huse
  refine ⟨fun i hi => ?_, fun hnone => ?_, fun _ => ⟨e, List.mem_cons_self, hputs⟩⟩
  · rw [hget] at hi
    cases hi
    exact ⟨⟨e, List.mem_cons_self, hput, rfl⟩, hid, hspoilt, hused,
      iff_of_false (fun h => by cases h) hanswered⟩
  · rw [hget] at hnone
    cases hnone

/-- A right answer marks the challenge. -/
theorem Told.solve (h : Told ttl past now s id) (fresh : FreshChallenges past) {answer : String}
    {i : Issued} (hsubmit : e.Submits id answer) (huse : ¬ e.Uses id)
    (hv : s.valid? (e.time - (ttl : Int)) id = some i) (hok : i.challenge.accepts answer = true)
    (hget : s'.challenges.get? id = some { i with solved := true }) :
    Told ttl (e :: past) later s' id := by
  obtain ⟨-, hright, -⟩ := h.of_valid fresh hv
  have hr : Right id answer past := (hright answer).mpr hok
  refine ⟨fun i' hi' => ?_, fun hnone => ?_, h.put_cons fun hu => absurd hu huse⟩
  · rw [hget] at hi'
    cases hi'
    obtain ⟨⟨e', hmem, hput', htime⟩, hid, hspoilt, hused, -⟩ :=
      h.there i (Option.filter_eq_some_iff.mp hv).1
    refine ⟨⟨e', List.mem_cons_of_mem _ hmem, hput', htime⟩, hid, ?_, ?_,
      iff_of_true rfl (Or.inr ⟨answer, hsubmit, hr⟩)⟩
    · intro hcase
      rcases hcase with h' | ⟨answer', h', hwrong, -⟩
      · exact hspoilt h'
      · obtain ⟨-, next, hop⟩ := hsubmit
        obtain ⟨-, next', hop'⟩ := h'
        rw [hop] at hop'
        cases hop'
        exact hwrong hr
    · intro h'
      exact (used_cons.mp h').elim huse hused
  · rw [hget] at hnone
    cases hnone

/-- A challenge that was spoilt or used up just now is not filed any more. -/
theorem Told.remove (h : Told ttl past now s id) (hput : ∃ e' ∈ past, e'.Puts id)
    (hlost : Spoilt ttl id (e :: past) ∨ e.Uses id) (hget : s'.challenges.get? id = none) :
    Told ttl (e :: past) later s' id := by
  refine ⟨fun i hi => ?_, fun _ _ _ _ => ?_, h.put_cons fun _ => hput⟩
  · rw [hget] at hi
    cases hi
  · rcases hlost with hl | hl
    · exact Or.inl hl
    · exact Or.inr (Or.inl (used_cons.mpr (Or.inl hl)))

/-- **One operation keeps to what the history says of a challenge.** -/
theorem Told.step {op : Operation} {answer : Answer}
    (old : Told (reckonedTtl s.captchaTtl) past now s id) (le : now ≤ later)
    (fresh : FreshChallenges (s.record later op answer :: past))
    (eff : ChallengeEffect s later s' op answer) :
    Told (reckonedTtl s.captchaTtl) (s.record later op answer :: past) later s' id := by
  cases eff with
  | @issued f c hc hget =>
    obtain rfl := cutoff_eq_ok hc
    by_cases hid : id = f.id
    · exact old.putNow fresh f rfl hid.symm (by simp) (by simp) (by rw [hget, if_pos hid]; rfl)
    · refine old.apart fresh.tail le (fun hput => hid (Option.some.inj hput).symm) (by simp) (by simp)
        (Or.inr ?_)
      rw [hget, if_neg hid]
  | @blank id' answer f ha hsame =>
    refine old.apart fresh.tail le (fun h => by cases h) ?_ (by simp) (Or.inl (by rw [hsame]))
    intro answer' hcase
    obtain ⟨ha', next, hop⟩ := hcase
    cases hop
    rw [ha] at ha'
    cases ha'
  | @unknown id' answer f c ha hc hv hget =>
    obtain rfl := cutoff_eq_ok hc
    by_cases hid : id = id'
    · subst hid
      exact old.absent fresh.tail le (fun h => by cases h) (by simp) hv (by rw [hget, hv])
    · exact old.apart fresh.tail le (fun h => by cases h) (by simp [Ne.symm hid]) (by simp)
        (Or.inr (hget id))
  | @solved id' answer f c i ha hc hv hok hget =>
    obtain rfl := cutoff_eq_ok hc
    by_cases hid : id = id'
    · subst hid
      exact old.solve fresh.tail ⟨ha, f, rfl⟩ (by simp) hv hok (by rw [hget, if_pos rfl])
    · refine old.apart fresh.tail le (fun h => by cases h) (by simp [Ne.symm hid]) (by simp)
        (Or.inr ?_)
      rw [hget, if_neg hid]
  | @retried id' answer f c i ha hc hv hok hget =>
    obtain rfl := cutoff_eq_ok hc
    by_cases hnew : id = f.id
    · refine old.putNow fresh f rfl hnew.symm ?_ (by simp) (by rw [hget, if_pos hnew]; rfl)
      -- the challenge that was answered was put before, so the next one is another
      intro answer' hcase
      obtain ⟨-, next, hop⟩ := hcase
      cases hop
      obtain ⟨⟨⟨e', hmem, hput, -⟩, -⟩, -⟩ := old.of_valid fresh.tail hv
      exact fresh.not_before (congrArg some hnew.symm) e' hmem hput
    · by_cases hid : id = id'
      · subst hid
        obtain ⟨hlive, hright, -⟩ := old.of_valid fresh.tail hv
        obtain ⟨e', hmem, hput, -⟩ := hlive.1
        refine old.remove ⟨e', hmem, hput⟩ (Or.inl (Or.inr ⟨answer, ⟨ha, f, rfl⟩, ?_, hlive⟩))
          (by rw [hget, if_neg hnew, if_pos rfl])
        rw [hright, hok]
        exact Bool.false_ne_true
      · refine old.apart fresh.tail le (fun hput => hnew (Option.some.inj hput).symm)
          (by simp [Ne.symm hid]) (by simp) (Or.inr ?_)
        rw [hget, if_neg hnew, if_neg hid]
  | @admitted id' token c i hc hv hsolved hget =>
    obtain rfl := cutoff_eq_ok hc
    by_cases hid : id = id'
    · subst hid
      obtain ⟨⟨⟨e', hmem, hput, -⟩, -⟩, -⟩ := old.of_valid fresh.tail hv
      exact old.remove ⟨e', hmem, hput⟩ (Or.inr ⟨token, rfl, rfl⟩) (by rw [hget, if_pos rfl])
    · refine old.apart fresh.tail le (fun h => by cases h) (by simp) (by simp [Ne.symm hid])
        (Or.inr ?_)
      rw [hget, if_neg hid]
  | @rejected id' token e c hc hget =>
    obtain rfl := cutoff_eq_ok hc
    exact old.apart fresh.tail le (fun h => by cases h) (by simp) (by simp) (Or.inr (hget id))
  | apart hissue hverify hlogin hsame =>
    refine old.apart fresh.tail le ?_ (by simp [hverify]) (by simp [hlogin]) (Or.inl (by rw [hsame]))
    intro hput
    have hnone : (s.record later op answer).putId? = none := Event.putId?_of_other hissue hverify
    rw [Event.Puts, hnone] at hput
    cases hput

end Captcha

/-! ### Every history -/

/-- **What every history says of the challenge under an identifier.** -/
theorem Past.captcha_told (h : Past captchaTtl idleTtl past now s) (fresh : FreshChallenges past)
    (id : String) : Captcha.Told (reckonedTtl captchaTtl) past now s id := by
  induction h with
  | new => exact .new _ rfl
  | step before le done ih =>
    have old := ih fresh.tail
    rw [← before.ttl.1] at old ⊢
    exact old.step le fresh (Store.perform_challenges done)

/-- Nothing in a history lies after its moment. -/
theorem Past.time_le (h : Past captchaTtl idleTtl past now s) : ∀ e ∈ past, e.time ≤ now := by
  induction h with
  | new => simp
  | step before le done ih =>
    intro e hmem
    rcases List.mem_cons.mp hmem with rfl | hmem
    · exact Int.le_refl _
    · exact Int.le_trans (ih e hmem) le

/-! ## 4. Answers and logins -/

namespace Captcha

/-- The challenge is not live, whatever happens from now on. -/
def Lost (ttl : Nat) (id : String) (past : List Event) : Prop :=
  ∀ (more : List Event) (later : Moment), ¬ Live ttl id (more ++ past) later

/-- What comes of an answer with something in it, submitted to a challenge after a history. -/
structure Judged (ttl : Nat) (past : List Event) (now : Moment) (id answer : String)
    (next : Challenge) (v : Except Failure Verdict) (past' : List Event) : Prop where
  unknown : v = .error (.unknownChallenge id) ↔ ¬ Live ttl id past now
  solved : v = .ok .solved ↔ Live ttl id past now ∧ Right id answer past
  retry : v = .ok (.retry next.view) ↔ Live ttl id past now ∧ ¬ Right id answer past
  /-- After a wrong answer the challenge is lost, and the next is another one, live and unsolved. -/
  rotated : v = .ok (.retry next.view) →
    Lost ttl id past' ∧ next.id ≠ id ∧ Live ttl next.id past' now ∧ ¬ Answered next.id past'

/-- What comes of a login with a challenge after a history. -/
structure Admitted (ttl : Nat) (past : List Event) (now : Moment) (id token : String)
    (r : Except Failure String) (past' : List Event) : Prop where
  opened : r = .ok token ↔ Live ttl id past now ∧ Answered id past
  required : r = .error .captchaRequired ↔ Live ttl id past now ∧ ¬ Answered id past
  unknown : r = .error (.unknownChallenge id) ↔ ¬ Live ttl id past now
  /-- The challenge is used up. -/
  consumed : r = .ok token → Lost ttl id past'

end Captcha

open Captcha

/-- What a typed answer comes to is what the history says. -/
theorem Past.judged (h : Past captchaTtl idleTtl past now s) (fresh : FreshChallenges past)
    (le : now ≤ later) (hc : cutoff later captchaTtl = .ok c) {answer : String}
    (ha : Challenge.canSubmit answer = true) (id : String) {next : Challenge}
    (hnext : ∀ e ∈ past, ¬ e.Puts next.id) :
    ∃ v s', s.perform later (.verify id answer next) = .ok (.verdict v, s') ∧
      Judged (reckonedTtl captchaTtl) past later id answer next v
        (s.record later (.verify id answer next) (.verdict v) :: past) := by
  have told := h.captcha_told fresh
  obtain ⟨r, hverify, -⟩ := Store.verify_typed ha (h.ttl.1 ▸ hc) id next
  obtain rfl := cutoff_eq_ok hc
  refine ⟨_, _, by rw [Store.perform, hverify]; rfl, ?_⟩
  cases hv : s.valid? (later - (reckonedTtl captchaTtl : Int)) id with
  | none =>
    have hdead := (told id).not_live fresh le hv
    exact
      { unknown := iff_of_true rfl hdead
        solved := iff_of_false (fun h => by cases h) fun hl => hdead hl.1
        retry := iff_of_false (fun h => by cases h) fun hl => hdead hl.1
        rotated := fun h => by cases h }
  | some i =>
    obtain ⟨hlive, hright, -⟩ := (told id).of_valid fresh hv
    simp only [Option.elim]
    cases hok : i.challenge.accepts answer with
    | true =>
      have hr : Right id answer past := (hright answer).mpr hok
      exact
        { unknown := iff_of_false (fun h => by cases h) fun hdead => hdead hlive
          solved := iff_of_true rfl ⟨hlive, hr⟩
          retry := iff_of_false (fun h => by cases h) fun hl => hl.2 hr
          rotated := fun h => by cases h }
    | false =>
      have hr : ¬ Right id answer past := by
        rw [hright, hok]
        exact Bool.false_ne_true
      obtain ⟨e, hmem, hput, hlt⟩ := hlive.1
      have hne : next.id ≠ id := fun heq => hnext e hmem (heq ▸ hput)
      have hpos : later - later < (reckonedTtl captchaTtl : Int) := by
        have hle := Int.le_trans (h.time_le e hmem) le
        unfold Moment at *
        omega
      obtain ⟨hspoilt, hused, hanswered⟩ := (told next.id).untouched
        (e := s.record later (.verify id answer next) (.verdict (.ok (.retry next.view)))) hnext
        (fun answer' h => hne (Operation.verify.inj h.2.choose_spec).1.symm)
        (fun h => by cases h.choose_spec.1)
      exact
        { unknown := iff_of_false (fun h => by cases h) fun hdead => hdead hlive
          solved := iff_of_false (fun h => by cases h) fun hl => hr hl.2
          retry := iff_of_true rfl ⟨hlive, hr⟩
          rotated := fun _ => ⟨not_live_append (Or.inl (Or.inr ⟨answer, ⟨ha, next, rfl⟩, hr, hlive⟩)),
            hne, ⟨⟨_, List.mem_cons_self, rfl, hpos⟩, hspoilt, hused⟩, hanswered⟩ }

/-- What a login with a challenge comes to is what the history says. -/
theorem Past.admitted (h : Past captchaTtl idleTtl past now s) (fresh : FreshChallenges past)
    (le : now ≤ later) (hc : cutoff later captchaTtl = .ok c) {id : String}
    (hd : Live (reckonedTtl captchaTtl) id past later ∧ Answered id past →
      ∃ d, cutoff later idleTtl = .ok d) (token : String) :
    ∃ r s', s.perform later (.login (some id) false token) = .ok (.token r, s') ∧
      Admitted (reckonedTtl captchaTtl) past later id token r
        (s.record later (.login (some id) false token) (.token r) :: past) := by
  have told := h.captcha_told fresh id
  have hc' := hc
  obtain rfl := cutoff_eq_ok hc
  have hopen : ∀ i, s.valid? (later - (reckonedTtl captchaTtl : Int)) id = some i → i.solved = true →
      ∃ d, cutoff later s.idleTtl = .ok d := by
    intro i hv hi
    obtain ⟨hlive, -, hsolved⟩ := told.of_valid fresh hv
    rw [h.ttl.2]
    exact hd ⟨hlive, hsolved.mp hi⟩
  obtain ⟨s', hlogin⟩ := Store.login_spec (h.ttl.1 ▸ hc') hopen token
  refine ⟨_, s', by rw [Store.perform, hlogin]; rfl, ?_⟩
  cases hv : s.valid? (later - (reckonedTtl captchaTtl : Int)) id with
  | none =>
    have hdead := told.not_live fresh le hv
    exact
      { opened := iff_of_false (fun h => by cases h) fun hl => hdead hl.1
        required := iff_of_false (fun h => by cases h) fun hl => hdead hl.1
        unknown := iff_of_true rfl hdead
        consumed := fun h => by cases h }
  | some i =>
    obtain ⟨hlive, -, hsolved⟩ := told.of_valid fresh hv
    obtain ⟨challenge, issuedAt, solved⟩ := i
    cases solved with
    | true =>
      have ha : Answered id past := hsolved.mp rfl
      exact
        { opened := iff_of_true rfl ⟨hlive, ha⟩
          required := iff_of_false (fun h => by cases h) fun hl => hl.2 ha
          unknown := iff_of_false (fun h => by cases h) fun hdead => hdead hlive
          consumed := fun _ => not_live_append
            (Or.inr (used_cons.mpr (Or.inl ⟨token, rfl, rfl⟩))) }
    | false =>
      have ha : ¬ Answered id past := fun ha => Bool.noConfusion (hsolved.mpr ha)
      exact
        { opened := iff_of_false (fun h => by cases h) fun hl => ha hl.2
          required := iff_of_true rfl ⟨hlive, ha⟩
          unknown := iff_of_false (fun h => by cases h) fun hdead => hdead hlive
          consumed := fun h => by cases h }

/-- **Which answers and which logins are accepted is told by the history alone.** An answer with
    nothing in it changes nothing. Any other is judged if the challenge is live; a wrong one costs the
    challenge, solved or not, and puts another that is live and unsolved. A login that does not pass
    over the captcha needs a challenge that is live and was answered, and uses it up; only the session
    that it opens then needs a cutoff of its own. -/
theorem captcha_admission (h : Past captchaTtl idleTtl past now s) (fresh : FreshChallenges past)
    (le : now ≤ later) (hc : cutoff later captchaTtl = .ok c) (id : String) :
    (∀ answer next, Challenge.canSubmit answer = false →
      s.perform later (.verify id answer next) = .ok (.verdict (.error .emptyInput), s)) ∧
    (∀ answer next, Challenge.canSubmit answer = true → (∀ e ∈ past, ¬ e.Puts next.id) →
      ∃ v s', s.perform later (.verify id answer next) = .ok (.verdict v, s') ∧
        Judged (reckonedTtl captchaTtl) past later id answer next v
          (s.record later (.verify id answer next) (.verdict v) :: past)) ∧
    (∀ token, (Live (reckonedTtl captchaTtl) id past later ∧ Answered id past →
        ∃ d, cutoff later idleTtl = .ok d) →
      ∃ r s', s.perform later (.login (some id) false token) = .ok (.token r, s') ∧
        Admitted (reckonedTtl captchaTtl) past later id token r
          (s.record later (.login (some id) false token) (.token r) :: past)) ∧
    ∀ token, s.perform later (.login none false token) = .ok (.token (.error .captchaRequired), s) := by
  refine ⟨fun answer next ha => ?_, fun answer next ha hnext => h.judged fresh le hc ha id hnext,
    fun token hd => h.admitted fresh le hc hd token, fun token => rfl⟩
  rw [Store.perform, Store.verify_blank ha]
  rfl

/-- Two and three are asked for, answered with a five, and the challenge admits once. -/
theorem captcha_admission_solved :
    ∃ s r s', Past 5000 1000
        [⟨10, .verify "c" " 5 " ⟨"d", 1, 1⟩, .verdict (.ok .solved), false⟩,
          ⟨0, .issue ⟨"c", 2, 3⟩, .challenge (Challenge.view ⟨"c", 2, 3⟩), false⟩] 10 s ∧
      s.perform 20 (.login (some "c") false "t") = .ok (.token r, s') ∧ r = .ok "t" := by
  have h₁ := @Past.step 5000 1000 _ 0 0 _ _ (.issue ⟨"c", 2, 3⟩)
    (.challenge (Challenge.view ⟨"c", 2, 3⟩)) (.new 0) (by decide) rfl
  have h₂ := @Past.step _ _ _ 0 10 _ _ (.verify "c" " 5 " ⟨"d", 1, 1⟩) (.verdict (.ok .solved)) h₁
    (by decide) rfl
  obtain ⟨r, s', hlogin, hr⟩ :=
    (captcha_admission h₂ (by decide) (show (10 : Int) ≤ 20 by decide) rfl "c").2.2.1 "t"
      fun _ => ⟨_, rfl⟩
  have hright : Right "c" " 5 " [(Store.new 5000 1000).record 0 (.issue ⟨"c", 2, 3⟩)
      (.challenge (Challenge.view ⟨"c", 2, 3⟩))] :=
    ⟨_, List.mem_cons_self, ⟨"c", 2, 3⟩, rfl, rfl, rfl⟩
  refine ⟨_, r, s', h₂, hlogin, hr.opened.mpr ⟨⟨?_, ?_, ?_⟩, Or.inr ⟨" 5 ", ⟨rfl, _, rfl⟩, hright⟩⟩⟩
  · exact ⟨_, List.mem_cons_of_mem _ List.mem_cons_self, rfl, by decide⟩
  · intro hcase
    rcases hcase with (h | ⟨answer, ⟨-, next, hop⟩, -⟩) | ⟨answer, ⟨-, next, hop⟩, hwrong, -⟩
    · exact h
    · cases hop
    · cases hop
      exact hwrong hright
  · intro hused
    rcases used_cons.mp hused with ⟨token, hop, -⟩ | hused
    · cases hop
    · rcases used_cons.mp hused with ⟨token, hop, -⟩ | ⟨e, hmem, -⟩
      · cases hop
      · cases hmem

end

end CommandConsole
