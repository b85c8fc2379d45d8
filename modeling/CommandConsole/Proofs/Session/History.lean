import CommandConsole.Proofs.History
import CommandConsole.Proofs.Session.Gate
import Mathlib.Logic.ExistsUnique
import Mathlib.Logic.Function.Iterate

/-!
# A gate told by its history

Everything that a gate keeps is settled by what was asked of it. A history lists the calls that were made
to a new gate, the latest first, each with what it answered. Tickets are known by their numbers: a ticket
as a value says only under which login it was issued, so two of them can be equal. Logins are counted
without a bound.

* `Course`: the histories that there are. A run is ended with a ticket that was issued, and with none
  twice;
* `Standing`, `Ticketing`: what every course keeps; while the visitor is logged in, the ticket that is
  out is the last one that was issued, and there is one if and only if the gate is running;
* `Course.gate_told`: the gate told by its history, and what it answers next.
-/

namespace CommandConsole

/-! ## 1. Histories -/

/-- A call that was made to a gate, and its answer. -/
inductive Deed where
  | login
  | logout
  /-- A run was admitted; its ticket has this number. -/
  | admitted (number : Nat) (ticket : RunTicket)
  | refused (why : Failure)
  /-- A run was ended with the ticket of this number. -/
  | finished (number : Nat) (answer : Except Failure Unit)
  | chose (choice : Consent)
  | toggled

namespace Deed

/-- A login. -/
def isLogin : Deed → Bool
  | login => true
  | _ => false

/-- A run was admitted. -/
def isAdmission : Deed → Bool
  | admitted .. => true
  | _ => false

/-- The panel was turned over. -/
def isToggle : Deed → Bool
  | toggled => true
  | _ => false

/-- Beginning a run or ending one, granted or not. -/
def isRun : Deed → Bool
  | admitted .. | refused _ | finished .. => true
  | _ => false

/-- The choice about cookies that was made. -/
def choice? : Deed → Option Consent
  | chose choice => some choice
  | _ => none

/-- What is written down of an attempt to begin a run. -/
def ofBegin (number : Nat) : Except Failure RunTicket → Deed
  | .ok ticket => admitted number ticket
  | .error why => refused why

end Deed

/-- How many tickets were issued. They are numbered in this order, from nought. -/
def issued (past : List Deed) : Nat := past.countP Deed.isAdmission

/-- The ticket of a number was used to end a run, whatever came of it. -/
def IsSpent (number : Nat) (past : List Deed) : Prop := ∃ answer, Deed.finished number answer ∈ past

/-- The histories of a new gate, each with the gate to which it leads. -/
inductive Course : List Deed → Gate → Prop where
  | new : Course [] .new
  | login {past : List Deed} {g : Gate} (before : Course past g) : Course (.login :: past) g.login
  | logout {past : List Deed} {g : Gate} (before : Course past g) : Course (.logout :: past) g.logout
  | beginRun {past : List Deed} {g : Gate} (before : Course past g) (input : String) :
      Course (.ofBegin (issued past) (g.beginRun input).1 :: past) (g.beginRun input).2
  /-- A run is ended with a ticket that was issued and not used before. -/
  | finishRun {past : List Deed} {g : Gate} (before : Course past g) {number : Nat}
      {ticket : RunTicket} (known : .admitted number ticket ∈ past) (fresh : ¬ IsSpent number past) :
      Course (.finished number (g.finishRun ticket).1 :: past) (g.finishRun ticket).2
  | setConsent {past : List Deed} {g : Gate} (before : Course past g) (choice : Consent) :
      Course (.chose choice :: past) (g.setConsent choice)
  | togglePanel {past : List Deed} {g : Gate} (before : Course past g) :
      Course (.toggled :: past) g.togglePanel

/-! ## 2. Words about a history -/

/-- Of the logins and logouts the last was a login. -/
def LoggedIn (past : List Deed) : Prop := Since (· = .login) (· = .logout) past

/-- How many logins there were. -/
def logins (past : List Deed) : Nat := past.countP Deed.isLogin

/-- How often the panel was turned over since the last login, or at all if there was none. -/
def toggles (past : List Deed) : Nat := (past.takeWhile (!·.isLogin)).countP Deed.isToggle

/-- The ticket of this number was issued under the latest login and is not used yet. -/
def Outstanding (past : List Deed) (number : Nat) : Prop :=
  (∃ ticket, .admitted number ticket ∈ past ∧ ticket.generation = logins past) ∧ ¬ IsSpent number past

/-- Since the ticket of this number was issued, nobody has logged in or out. -/
def Unbroken (past : List Deed) (number : Nat) : Prop :=
  Since (fun d => ∃ ticket, d = .admitted number ticket) (fun d => d = .login ∨ d = .logout) past

/-! ## 3. What one deed adds -/

section

variable {past : List Deed} {d : Deed} {g : Gate} {number number' : Nat} {ticket ticket' : RunTicket}
  {answer : Except Failure Unit}

@[simp] theorem Deed.isRun_ofBegin (number : Nat) (answer : Except Failure RunTicket) :
    (ofBegin number answer).isRun = true := by
  cases answer <;> rfl

/-- Only logins and logouts say who is logged in. -/
theorem loggedIn_cons (hin : d ≠ .login) (hout : d ≠ .logout) : LoggedIn (d :: past) ↔ LoggedIn past :=
  since_cons_of_neither hin hout

theorem not_loggedIn_logout : ¬ LoggedIn (.logout :: past) := by
  intro h
  rcases h with h | ⟨hnot, -⟩
  · cases h
  · exact hnot rfl

theorem logins_cons (past : List Deed) (d : Deed) :
    logins (d :: past) = logins past + if d.isLogin = true then 1 else 0 :=
  List.countP_cons

theorem logins_login (past : List Deed) : logins (.login :: past) = logins past + 1 :=
  logins_cons past .login

theorem logins_cons_of_ne (h : d ≠ .login) : logins (d :: past) = logins past := by
  rw [logins_cons]
  cases d with
  | login => exact absurd rfl h
  | _ => rfl

theorem toggles_cons (h : d.isLogin = false) :
    toggles (d :: past) = toggles past + if d.isToggle = true then 1 else 0 := by
  simp [toggles, h, List.countP_cons]

/-- What a history says of a gate, but for its runs. -/
structure Standing (past : List Deed) (g : Gate) : Prop where
  loggedIn : g.loggedIn = true ↔ LoggedIn past
  generation : g.generation = logins past
  consent : g.consent = past.findSome? Deed.choice?
  panel : g.panel = Panel.toggle^[toggles past] .collapsed

namespace Standing

theorem new : Standing [] .new := ⟨iff_of_false Bool.noConfusion id, rfl, rfl, rfl⟩

theorem login (h : Standing past g) : Standing (.login :: past) g.login where
  loggedIn := iff_of_true rfl (Or.inl rfl)
  generation := by rw [logins_login, ← h.generation]; rfl
  consent := h.consent
  panel := rfl

theorem logout (h : Standing past g) : Standing (.logout :: past) g.logout where
  loggedIn := iff_of_false Bool.noConfusion not_loggedIn_logout
  generation := by rw [logins_cons_of_ne (by simp)]; exact h.generation
  consent := h.consent
  panel := by rw [toggles_cons rfl]; exact h.panel

/-- What concerns runs alone leaves the standing of the visitor. -/
theorem run (h : Standing past g) (hd : d.isRun = true) (running : Bool) :
    Standing (d :: past) { g with running := running } := by
  cases d with
  | login | logout | chose | toggled => cases hd
  | admitted | refused | finished =>
    refine ⟨h.loggedIn.trans (loggedIn_cons (by simp) (by simp)).symm, ?_, h.consent, ?_⟩
    · rw [logins_cons_of_ne (by simp)]; exact h.generation
    · rw [toggles_cons rfl]; exact h.panel

theorem setConsent (h : Standing past g) (choice : Consent) :
    Standing (.chose choice :: past) (g.setConsent choice) where
  loggedIn := h.loggedIn.trans (loggedIn_cons (by simp) (by simp)).symm
  generation := by rw [logins_cons_of_ne (by simp)]; exact h.generation
  consent := rfl
  panel := by rw [toggles_cons rfl]; exact h.panel

theorem togglePanel (h : Standing past g) : Standing (.toggled :: past) g.togglePanel where
  loggedIn := h.loggedIn.trans (loggedIn_cons (by simp) (by simp)).symm
  generation := by rw [logins_cons_of_ne (by simp)]; exact h.generation
  consent := h.consent
  panel := by
    rw [toggles_cons rfl]
    exact (congrArg Panel.toggle h.panel).trans (Function.iterate_succ_apply' _ _ _).symm

end Standing

theorem Course.standing (h : Course past g) : Standing past g := by
  induction h with
  | new => exact .new
  | login _ ih => exact ih.login
  | logout _ ih => exact ih.logout
  | @beginRun past g before input ih =>
    obtain ⟨running, hg⟩ := g.beginRun_frame input
    rw [hg]
    exact ih.run (Deed.isRun_ofBegin _ _) running
  | @finishRun past g before number ticket known fresh ih =>
    obtain ⟨running, hg⟩ := g.finishRun_frame ticket
    rw [hg]
    exact ih.run rfl running
  | setConsent _ choice ih => exact ih.setConsent choice
  | togglePanel _ ih => exact ih.togglePanel

/-! ## 4. Tickets -/

theorem issued_cons (past : List Deed) (d : Deed) :
    issued (d :: past) = issued past + if d.isAdmission = true then 1 else 0 :=
  List.countP_cons

theorem mem_admitted_cons (h : d.isAdmission = false) :
    .admitted number ticket ∈ d :: past ↔ .admitted number ticket ∈ past := by
  rw [List.mem_cons, or_iff_right]
  rintro rfl
  cases h

theorem isSpent_cons (h : ∀ answer, d ≠ .finished number answer) :
    IsSpent number (d :: past) ↔ IsSpent number past := by
  unfold IsSpent
  simp only [List.mem_cons, or_iff_right (h _).symm]

theorem isSpent_finished_of_ne (h : number' ≠ number) :
    IsSpent number' (.finished number answer :: past) ↔ IsSpent number' past :=
  isSpent_cons fun _ he => h (Deed.finished.inj he).1.symm

theorem mem_admitted_admitted :
    .admitted number' ticket' ∈ Deed.admitted number ticket :: past ↔
      (number' = number ∧ ticket' = ticket) ∨ .admitted number' ticket' ∈ past := by
  simp

/-- Only the end of a run takes a ticket off those that are out, the one it was ended with. -/
theorem outstanding_finished :
    Outstanding (.finished number answer :: past) number' ↔
      Outstanding past number' ∧ number' ≠ number := by
  unfold Outstanding
  simp only [mem_admitted_cons (d := .finished number answer) rfl,
    logins_cons_of_ne (d := .finished number answer) (by simp)]
  by_cases hnumber : number' = number
  · exact iff_of_false (fun hcase => hcase.2 ⟨answer, hnumber ▸ List.mem_cons_self⟩)
      fun hcase => hcase.2 hnumber
  · rw [isSpent_finished_of_ne hnumber, and_iff_left hnumber]

/-- A deed that is no login, no logout and issues no ticket of this number breaks and begins
    nothing. -/
theorem unbroken_cons (hd : ∀ ticket, d ≠ .admitted number ticket) (hin : d ≠ .login)
    (hout : d ≠ .logout) : Unbroken (d :: past) number ↔ Unbroken past number :=
  since_cons_of_neither (fun ⟨ticket, h⟩ => hd ticket h) (fun h => h.elim hin hout)

theorem not_unbroken_login : ¬ Unbroken (.login :: past) number := by
  intro h
  rcases h with ⟨ticket, h⟩ | ⟨hnot, -⟩
  · cases h
  · exact hnot (Or.inl rfl)

theorem not_unbroken_logout : ¬ Unbroken (.logout :: past) number := by
  intro h
  rcases h with ⟨ticket, h⟩ | ⟨hnot, -⟩
  · cases h
  · exact hnot (Or.inr rfl)

/-- The numbers of the tickets in a history. -/
structure Ledger (past : List Deed) : Prop where
  /-- Numbers are given in order. -/
  number_lt : ∀ {number ticket}, .admitted number ticket ∈ past → number < issued past
  /-- Only what was issued is spent. -/
  spent_lt : ∀ {number}, IsSpent number past → number < issued past
  unique : ∀ {number ticket ticket'}, .admitted number ticket ∈ past →
    .admitted number ticket' ∈ past → ticket = ticket'
  generation_le : ∀ {number ticket}, .admitted number ticket ∈ past →
    ticket.generation ≤ logins past

namespace Ledger

theorem new : Ledger [] where
  number_lt h := by cases h
  spent_lt h := by obtain ⟨answer, h⟩ := h; cases h
  unique h := by cases h
  generation_le h := by cases h

/-- A deed that issues no ticket and spends only one that was issued. -/
theorem cons (h : Ledger past) (hquiet : d.isAdmission = false)
    (hfinish : ∀ number answer, d = .finished number answer → number < issued past) :
    Ledger (d :: past) := by
  have hissued : issued (d :: past) = issued past := by
    rw [issued_cons, hquiet]
    rfl
  constructor
  · exact fun hmem => hissued ▸ h.number_lt ((mem_admitted_cons hquiet).mp hmem)
  · intro number hspent
    rw [hissued]
    obtain ⟨answer, hmem⟩ := hspent
    rcases List.mem_cons.mp hmem with heq | hmem
    · exact hfinish number answer heq.symm
    · exact h.spent_lt ⟨answer, hmem⟩
  · exact fun h₁ h₂ => h.unique ((mem_admitted_cons hquiet).mp h₁) ((mem_admitted_cons hquiet).mp h₂)
  · intro number ticket hmem
    rw [logins_cons]
    exact Nat.le_add_right_of_le (h.generation_le ((mem_admitted_cons hquiet).mp hmem))

/-- A ticket issued under the latest login. -/
theorem begun (h : Ledger past) (hgen : ticket.generation = logins past) :
    Ledger (.admitted (issued past) ticket :: past) := by
  have hissued : issued (.admitted (issued past) ticket :: past) = issued past + 1 := issued_cons _ _
  constructor
  · intro number ticket' hmem
    rw [hissued]
    rcases mem_admitted_admitted.mp hmem with ⟨rfl, -⟩ | hmem
    · exact Nat.lt_succ_self _
    · exact Nat.lt_succ_of_lt (h.number_lt hmem)
  · intro number hspent
    rw [hissued]
    exact Nat.lt_succ_of_lt (h.spent_lt ((isSpent_cons (by simp)).mp hspent))
  · intro number ticket₁ ticket₂ h₁ h₂
    rcases mem_admitted_admitted.mp h₁ with ⟨rfl, rfl⟩ | h₁
    · rcases mem_admitted_admitted.mp h₂ with ⟨-, rfl⟩ | h₂
      · rfl
      · exact absurd (h.number_lt h₂) (Nat.lt_irrefl _)
    · rcases mem_admitted_admitted.mp h₂ with ⟨rfl, -⟩ | h₂
      · exact absurd (h.number_lt h₁) (Nat.lt_irrefl _)
      · exact h.unique h₁ h₂
  · intro number ticket' hmem
    rw [logins_cons]
    rcases mem_admitted_admitted.mp hmem with ⟨-, rfl⟩ | hmem
    · exact Nat.le_of_eq hgen
    · exact h.generation_le hmem

end Ledger

/-- What a history says of the tickets of a gate. -/
structure Ticketing (past : List Deed) (g : Gate) : Prop extends Ledger past where
  /-- Nobody has logged in or out since a ticket was issued if and only if somebody is logged in,
      and it was under the same login. -/
  unbroken_iff : ∀ {number ticket}, .admitted number ticket ∈ past →
    (Unbroken past number ↔ LoggedIn past ∧ ticket.generation = logins past)
  /-- The ticket that is out is the last one that was issued. -/
  outstanding_iff : LoggedIn past → ∀ number,
    (Outstanding past number ↔ g.running = true ∧ number + 1 = issued past)

namespace Ticketing

theorem new : Ticketing [] .new where
  toLedger := .new
  unbroken_iff h := by cases h
  outstanding_iff h := h.elim

/-- After a login every ticket is of an earlier login. -/
theorem login (h : Ticketing past g) : Ticketing (.login :: past) g.login where
  toLedger := h.toLedger.cons rfl (by simp)
  unbroken_iff hmem := by
    have hle := h.generation_le ((mem_admitted_cons rfl).mp hmem)
    refine iff_of_false not_unbroken_login fun hcase => ?_
    rw [logins_login] at hcase
    omega
  outstanding_iff _ number := by
    refine iff_of_false (fun hout => ?_) (fun hrun => Bool.noConfusion hrun.1)
    obtain ⟨⟨ticket, hmem, hgen⟩, -⟩ := hout
    have hle := h.generation_le ((mem_admitted_cons rfl).mp hmem)
    rw [logins_login] at hgen
    omega

theorem logout (h : Ticketing past g) : Ticketing (.logout :: past) g.logout where
  toLedger := h.toLedger.cons rfl (by simp)
  unbroken_iff _ := iff_of_false not_unbroken_logout fun hcase => not_loggedIn_logout hcase.1
  outstanding_iff hlog := absurd hlog not_loggedIn_logout

/-- A deed that has nothing to do with tickets. -/
theorem quiet {g' : Gate} (h : Ticketing past g) (hin : d ≠ .login) (hout : d ≠ .logout)
    (hquiet : d.isAdmission = false) (hfinish : ∀ number answer, d ≠ .finished number answer)
    (hrun : g'.running = g.running) : Ticketing (d :: past) g' where
  toLedger := h.toLedger.cons hquiet fun number answer he => absurd he (hfinish number answer)
  unbroken_iff {number ticket} hmem := by
    have hne : ∀ ticket, d ≠ .admitted number ticket := by
      rintro ticket rfl
      cases hquiet
    rw [unbroken_cons hne hin hout, loggedIn_cons hin hout, logins_cons_of_ne hin]
    exact h.unbroken_iff ((mem_admitted_cons hquiet).mp hmem)
  outstanding_iff hlog number := by
    rw [issued_cons, hquiet, hrun]
    refine Iff.trans ?_ (h.outstanding_iff ((loggedIn_cons hin hout).mp hlog) number)
    unfold Outstanding
    simp only [mem_admitted_cons hquiet, isSpent_cons (hfinish number), logins_cons_of_ne hin]

/-- A ticket that is issued while none is out. -/
theorem begun (h : Ticketing past g) (hlog : LoggedIn past) (hidle : g.running = false)
    (hgen : ticket.generation = logins past) :
    Ticketing (.admitted (issued past) ticket :: past) { g with running := true } where
  toLedger := h.toLedger.begun hgen
  unbroken_iff {number ticket'} hmem := by
    rw [loggedIn_cons (by simp) (by simp), logins_cons_of_ne (by simp)]
    rcases mem_admitted_admitted.mp hmem with ⟨rfl, rfl⟩ | hmem
    · exact iff_of_true (Or.inl ⟨_, rfl⟩) ⟨hlog, hgen⟩
    · have hne : number ≠ issued past := Nat.ne_of_lt (h.number_lt hmem)
      rw [unbroken_cons (by simp [hne.symm]) (by simp) (by simp)]
      exact h.unbroken_iff hmem
  outstanding_iff _ number := by
    have hnone : ¬ Outstanding past number := fun hout =>
      Bool.noConfusion (hidle.symm.trans ((h.outstanding_iff hlog number).mp hout).1)
    rw [issued_cons]
    constructor
    · intro hout
      obtain ⟨⟨ticket', hmem, hgen'⟩, hfresh⟩ := hout
      rcases mem_admitted_admitted.mp hmem with ⟨rfl, -⟩ | hmem
      · exact ⟨rfl, rfl⟩
      · rw [logins_cons_of_ne (by simp)] at hgen'
        rw [isSpent_cons (by simp)] at hfresh
        exact absurd ⟨⟨ticket', hmem, hgen'⟩, hfresh⟩ hnone
    · intro hcase
      obtain rfl : number = issued past := Nat.succ.inj hcase.2
      refine ⟨⟨ticket, List.mem_cons_self, ?_⟩, fun hspent => ?_⟩
      · rw [logins_cons_of_ne (by simp)]
        exact hgen
      · exact absurd (h.spent_lt ((isSpent_cons (by simp)).mp hspent)) (Nat.lt_irrefl _)

/-- The end of a run with a ticket that was not used before. It releases the gate if and only if the
    ticket is of the latest login; then it was the one that was out. -/
theorem finish (h : Ticketing past g) (known : .admitted number ticket ∈ past)
    (fresh : ¬ IsSpent number past) {running : Bool}
    (hrun : LoggedIn past → running = (g.running && decide (ticket.generation ≠ logins past))) :
    Ticketing (.finished number answer :: past) { g with running := running } where
  toLedger := h.toLedger.cons rfl fun number' answer' he =>
    (Deed.finished.inj he).1 ▸ h.number_lt known
  unbroken_iff hmem := by
    rw [unbroken_cons (by simp) (by simp) (by simp), loggedIn_cons (by simp) (by simp),
      logins_cons_of_ne (by simp)]
    exact h.unbroken_iff ((mem_admitted_cons rfl).mp hmem)
  outstanding_iff hlog number' := by
    have hlog' : LoggedIn past := (loggedIn_cons (by simp) (by simp)).mp hlog
    have hbefore := h.outstanding_iff hlog'
    rw [outstanding_finished, issued_cons, hrun hlog', hbefore]
    by_cases hgen : ticket.generation = logins past
    · -- the ticket was out, so it is the last one that was issued
      have hlast := (hbefore number).mp ⟨⟨ticket, known, hgen⟩, fresh⟩
      refine iff_of_false (fun hcase => hcase.2 ?_) (by simp [hgen])
      exact Nat.succ.inj (hcase.1.2.trans hlast.2.symm)
    · -- the ticket is of an earlier login, so it was not out
      have hnumber : g.running = true ∧ number' + 1 = issued past → number' ≠ number := by
        rintro hcase rfl
        obtain ⟨⟨ticket', hmem, hgen'⟩, -⟩ := (hbefore number').mpr hcase
        exact hgen (h.unique known hmem ▸ hgen')
      rw [decide_eq_true hgen, Bool.and_true]
      exact ⟨fun hcase => hcase.1, fun hcase => ⟨hcase, hnumber hcase⟩⟩

end Ticketing

theorem Course.ticketing (h : Course past g) : Ticketing past g := by
  induction h with
  | new => exact .new
  | login _ ih => exact ih.login
  | logout _ ih => exact ih.logout
  | @beginRun past g before input ih =>
    obtain ⟨-, hg⟩ | ⟨-, -, hg⟩ | ⟨-, -, -, hg⟩ | ⟨hin, hidle, -, hg⟩ := g.beginRun_cases input
    · rw [hg]
      exact ih.quiet (by simp [Deed.ofBegin]) (by simp [Deed.ofBegin]) rfl (by simp [Deed.ofBegin]) rfl
    · rw [hg]
      exact ih.quiet (by simp [Deed.ofBegin]) (by simp [Deed.ofBegin]) rfl (by simp [Deed.ofBegin]) rfl
    · rw [hg]
      exact ih.quiet (by simp [Deed.ofBegin]) (by simp [Deed.ofBegin]) rfl (by simp [Deed.ofBegin]) rfl
    · rw [hg]
      exact ih.begun (before.standing.loggedIn.mp hin) hidle before.standing.generation
  | @finishRun past g before number ticket known fresh ih =>
    have hstanding := before.standing
    obtain ⟨hin, hgen, hg⟩ | ⟨hnot, hg⟩ := g.finishRun_cases ticket
    · rw [hg]
      exact ih.finish known fresh fun _ => by simp [hgen, hstanding.generation]
    · rw [hg]
      refine ih.finish known fresh fun hlog => ?_
      have hne : ticket.generation ≠ logins past := fun hgen =>
        hnot ⟨hstanding.loggedIn.mpr hlog, hgen.trans hstanding.generation.symm⟩
      simp [hne]
  | setConsent _ _ ih => exact ih.quiet (by simp) (by simp) rfl (by simp) rfl
  | togglePanel _ ih => exact ih.quiet (by simp) (by simp) rfl (by simp) rfl

/-- A gate runs only for someone who is logged in, and after a ticket was issued. -/
theorem Course.of_running (h : Course past g) (hrun : g.running = true) :
    g.loggedIn = true ∧ 0 < issued past := by
  have keep : ∀ {past : List Deed} (d : Deed), 0 < issued past → 0 < issued (d :: past) :=
    fun d hpos => (issued_cons _ d).symm ▸ Nat.lt_add_right _ hpos
  induction h with
  | new => cases hrun
  | login => cases hrun
  | logout => cases hrun
  | @beginRun past g before input ih =>
    obtain ⟨-, hg⟩ | ⟨-, -, hg⟩ | ⟨-, -, -, hg⟩ | ⟨hin, -, -, hg⟩ := g.beginRun_cases input
    · rw [hg] at hrun ⊢
      exact (ih hrun).imp_right (keep _)
    · rw [hg] at hrun ⊢
      exact (ih hrun).imp_right (keep _)
    · rw [hg] at hrun ⊢
      exact (ih hrun).imp_right (keep _)
    · rw [hg]
      exact ⟨hin, (issued_cons past (.admitted _ _)).symm ▸ Nat.succ_pos _⟩
  | @finishRun past g before number ticket known fresh ih =>
    obtain ⟨-, -, hg⟩ | ⟨-, hg⟩ := g.finishRun_cases ticket
    · rw [hg] at hrun
      cases hrun
    · rw [hg] at hrun ⊢
      exact (ih hrun).imp_right (keep _)
  | setConsent _ _ ih => exact (ih hrun).imp_right (keep _)
  | togglePanel _ ih => exact (ih hrun).imp_right (keep _)

/-- While the visitor is logged in no two tickets are out. -/
theorem Course.outstanding_unique (h : Course past g) (hlog : LoggedIn past)
    (hm : Outstanding past number) (hn : Outstanding past number') : number = number' := by
  have hiff := h.ticketing.outstanding_iff hlog
  exact Nat.succ.inj (((hiff number).mp hm).2.trans ((hiff number').mp hn).2.symm)

/-- While the visitor is logged in the gate is running if and only if a ticket is out. -/
theorem Course.running_iff_exists (h : Course past g) (hlog : LoggedIn past) :
    g.running = true ↔ ∃ number, Outstanding past number := by
  have hiff := h.ticketing.outstanding_iff hlog
  constructor
  · intro hrun
    have hpos : 0 < issued past := (h.of_running hrun).2
    exact ⟨issued past - 1, (hiff _).mpr ⟨hrun, Nat.succ_pred_eq_of_pos hpos⟩⟩
  · rintro ⟨number, hout⟩
    exact ((hiff number).mp hout).1

/-! ## 5. The whole gate -/

/-- What a history says of a gate and of what it answers next. -/
structure ToldBy (past : List Deed) (g : Gate) : Prop where
  loggedIn : g.loggedIn = true ↔ LoggedIn past
  generation : g.generation = logins past
  /-- The last choice stands, whoever logs in or out. -/
  consent : g.consent = past.findSome? Deed.choice?
  banner : g.showsConsentBanner = true ↔ LoggedIn past ∧ ∀ d ∈ past, d.choice? = none
  panel : g.panel = Panel.toggle^[toggles past] .collapsed
  running : g.running = true ↔ LoggedIn past ∧ ∃! number, Outstanding past number
  one_outstanding : LoggedIn past → ∀ m n, Outstanding past m → Outstanding past n → m = n
  begins : ∀ input, (∃ ticket, (g.beginRun input).1 = .ok ticket) ↔ g.canRun input = true
  canRun : ∀ input, g.canRun input = true ↔
    LoggedIn past ∧ (¬ ∃ number, Outstanding past number) ∧ CommandConsole.canRun input = true
  notLoggedIn : ∀ input, (g.beginRun input).1 = .error .notLoggedIn ↔ ¬ LoggedIn past
  runInProgress : ∀ input, (g.beginRun input).1 = .error .runInProgress ↔
    LoggedIn past ∧ ∃ number, Outstanding past number
  emptyInput : ∀ input, (g.beginRun input).1 = .error .emptyInput ↔
    LoggedIn past ∧ (¬ ∃ number, Outstanding past number) ∧ CommandConsole.canRun input = false
  finishes : ∀ number ticket, .admitted number ticket ∈ past →
    ((g.finishRun ticket).1 = .ok () ↔ Unbroken past number)
  sessionEnded : ∀ number ticket, .admitted number ticket ∈ past →
    ((g.finishRun ticket).1 = .error .sessionEnded ↔ ¬ Unbroken past number)
  begin_refused : ∀ input e, (g.beginRun input).1 = .error e → (g.beginRun input).2 = g
  finish_refused : ∀ ticket e, (g.finishRun ticket).1 = .error e → (g.finishRun ticket).2 = g

/-- What a gate answers to an attempt to begin a run, by what its history says. -/
theorem Course.beginRun_told (h : Course past g) (input : String) :
    (¬ LoggedIn past ∧ (g.beginRun input).1 = .error .notLoggedIn ∧ g.canRun input = false) ∨
    ((LoggedIn past ∧ ∃ number, Outstanding past number) ∧
      (g.beginRun input).1 = .error .runInProgress ∧ g.canRun input = false) ∨
    ((LoggedIn past ∧ (¬ ∃ number, Outstanding past number) ∧ CommandConsole.canRun input = false) ∧
      (g.beginRun input).1 = .error .emptyInput ∧ g.canRun input = false) ∨
    ((LoggedIn past ∧ (¬ ∃ number, Outstanding past number) ∧ CommandConsole.canRun input = true) ∧
      (g.beginRun input).1 = .ok { generation := logins past } ∧ g.canRun input = true) := by
  have hlog := h.standing.loggedIn
  have hbusy (hin : g.loggedIn = true) := h.running_iff_exists (hlog.mp hin)
  have hidle (hin : g.loggedIn = true) (hrun : g.running = false) :
      ¬ ∃ number, Outstanding past number :=
    fun hout => Bool.noConfusion (hrun.symm.trans ((hbusy hin).mpr hout))
  obtain ⟨hin, hg⟩ | ⟨hin, hrun, hg⟩ | ⟨hin, hrun, hcan, hg⟩ | ⟨hin, hrun, hcan, hg⟩ :=
    g.beginRun_cases input
  · refine Or.inl ⟨fun hl => ?_, by rw [hg], by simp [Gate.canRun, hin]⟩
    exact Bool.noConfusion (hin.symm.trans (hlog.mpr hl))
  · exact Or.inr (Or.inl ⟨⟨hlog.mp hin, (hbusy hin).mp hrun⟩, by rw [hg],
      by simp [Gate.canRun, hrun]⟩)
  · exact Or.inr (Or.inr (Or.inl ⟨⟨hlog.mp hin, hidle hin hrun, hcan⟩, by rw [hg],
      by simp [Gate.canRun, hcan]⟩))
  · exact Or.inr (Or.inr (Or.inr ⟨⟨hlog.mp hin, hidle hin hrun, hcan⟩,
      by rw [hg, h.standing.generation], by simp [Gate.canRun, hin, hrun, hcan]⟩))

/-- What a gate answers to the end of a run with a ticket that was issued. -/
theorem Course.finishRun_told (h : Course past g) (known : .admitted number ticket ∈ past) :
    (Unbroken past number ∧ (g.finishRun ticket).1 = .ok ()) ∨
      (¬ Unbroken past number ∧ (g.finishRun ticket).1 = .error .sessionEnded) := by
  have hiff : Unbroken past number ↔ g.loggedIn = true ∧ ticket.generation = g.generation := by
    rw [h.ticketing.unbroken_iff known, h.standing.loggedIn, h.standing.generation]
  obtain ⟨hin, hgen, hg⟩ | ⟨hnot, hg⟩ := g.finishRun_cases ticket
  · exact Or.inl ⟨hiff.mpr ⟨hin, hgen⟩, by rw [hg]⟩
  · exact Or.inr ⟨fun hu => hnot (hiff.mp hu), by rw [hg]⟩

/-- **A gate is a function of its history.** Who is logged in, the generation, the choice, the banner,
    the panel and whether a run is going on are what the history says, and so is every answer to the
    next attempt to begin or to end a run. A call that is refused leaves the gate as it was. -/
theorem Course.gate_told (h : Course past g) : ToldBy past g where
  loggedIn := h.standing.loggedIn
  generation := h.standing.generation
  consent := h.standing.consent
  banner := by
    rw [Gate.showsConsentBanner, Bool.and_eq_true, h.standing.loggedIn, h.standing.consent,
      Option.isNone_iff_eq_none, List.findSome?_eq_none_iff]
  panel := h.standing.panel
  running := by
    constructor
    · intro hrun
      have hlog := h.standing.loggedIn.mp (h.of_running hrun).1
      obtain ⟨number, hout⟩ := (h.running_iff_exists hlog).mp hrun
      exact ⟨hlog, number, hout, fun number' hout' => h.outstanding_unique hlog hout' hout⟩
    · exact fun hcase => (h.running_iff_exists hcase.1).mpr hcase.2.exists
  one_outstanding hlog _ _ hm hn := h.outstanding_unique hlog hm hn
  begins input := by
    obtain ⟨-, hg, hcan⟩ | ⟨-, hg, hcan⟩ | ⟨-, hg, hcan⟩ | ⟨-, hg, hcan⟩ := h.beginRun_told input <;>
      simp [hg, hcan]
  canRun input := by
    obtain ⟨h', -, hcan⟩ | ⟨h', -, hcan⟩ | ⟨h', -, hcan⟩ | ⟨h', -, hcan⟩ := h.beginRun_told input <;>
      simp_all
  notLoggedIn input := by
    obtain ⟨h', hg, -⟩ | ⟨h', hg, -⟩ | ⟨h', hg, -⟩ | ⟨h', hg, -⟩ := h.beginRun_told input <;>
      simp_all
  runInProgress input := by
    obtain ⟨h', hg, -⟩ | ⟨h', hg, -⟩ | ⟨h', hg, -⟩ | ⟨h', hg, -⟩ := h.beginRun_told input <;>
      simp_all
  emptyInput input := by
    obtain ⟨h', hg, -⟩ | ⟨h', hg, -⟩ | ⟨h', hg, -⟩ | ⟨h', hg, -⟩ := h.beginRun_told input <;>
      simp_all
  finishes number ticket known := by
    obtain ⟨h', hg⟩ | ⟨h', hg⟩ := h.finishRun_told known <;> simp [hg, h']
  sessionEnded number ticket known := by
    obtain ⟨h', hg⟩ | ⟨h', hg⟩ := h.finishRun_told known <;> simp [hg, h']
  begin_refused _ _ := Gate.beginRun_eq_error
  finish_refused _ _ := Gate.finishRun_eq_error

/-- A ticket of an earlier login ends no run: the gate goes on running for the one that is out. -/
theorem told_relogin :
    ∃ g, Course [.finished 0 (.error .sessionEnded), .admitted 1 ⟨2⟩, .login, .toggled,
        .admitted 0 ⟨1⟩, .chose .accepted, .login] g ∧
      ToldBy [.finished 0 (.error .sessionEnded), .admitted 1 ⟨2⟩, .login, .toggled,
        .admitted 0 ⟨1⟩, .chose .accepted, .login] g ∧
      g = { loggedIn := true, generation := 2, running := true, consent := some .accepted,
            panel := .collapsed } := by
  have h₁ : Course [.admitted 0 ⟨1⟩, .chose .accepted, .login] _ :=
    ((Course.new.login).setConsent .accepted).beginRun "cy.log(1)"
  have h₂ : Course [.admitted 1 ⟨2⟩, .login, .toggled, .admitted 0 ⟨1⟩, .chose .accepted, .login] _ :=
    (h₁.togglePanel.login).beginRun "cy.log(2)"
  have known : Deed.admitted 0 ⟨1⟩ ∈
      [Deed.admitted 1 ⟨2⟩, .login, .toggled, .admitted 0 ⟨1⟩, .chose .accepted, .login] := by simp
  have h₃ := h₂.finishRun known (by simp [IsSpent])
  exact ⟨_, h₃, Course.gate_told h₃, rfl⟩

end

end CommandConsole
