import CommandConsole.Proofs.History
import CommandConsole.Proofs.Store.Effect

/-!
# Histories of the store

A history lists the operations that were carried out on a store, each with its moment, its answer, and
whether an errand found a live session; the latest comes first. `Past` says which histories there are:
any operations, by anyone, in any order, on a clock that does not go back. What is said about a token
or a challenge is said in words about its history (`Since`, `NoRepeat`).
-/

namespace CommandConsole

/-! ## 1. Events and histories -/

/-- An operation that was carried out. -/
structure Event where
  time : Moment
  op : Operation
  answer : Answer
  /-- An errand found a live session. -/
  found : Bool

/-- What is written down of an operation and its answer. -/
def Store.record (s : Store) (now : Moment) (op : Operation) (answer : Answer) : Event :=
  { time := now
    op := op
    answer := answer
    found := match op with
      | .visit token _ => s.finds now token
      | _ => false }

/-- A history of operations on a store that had nothing filed, with the moment and the store to which
    it leads. -/
inductive Past (captchaTtl idleTtl : Nat) : List Event → Moment → Store → Prop where
  | new (now : Moment) : Past captchaTtl idleTtl [] now (.new captchaTtl idleTtl)
  | step {past : List Event} {now later : Moment} {s s' : Store} {op : Operation} {answer : Answer}
      (before : Past captchaTtl idleTtl past now s) (le : now ≤ later)
      (done : s.perform later op = .ok (answer, s')) :
      Past captchaTtl idleTtl (s.record later op answer :: past) later s'

theorem Past.ttl {captchaTtl idleTtl : Nat} {past : List Event} {now : Moment} {s : Store}
    (h : Past captchaTtl idleTtl past now s) : s.captchaTtl = captchaTtl ∧ s.idleTtl = idleTtl := by
  induction h with
  | new => exact ⟨rfl, rfl⟩
  | step _ _ done ih =>
    obtain ⟨h₁, h₂⟩ := Store.perform_ttl done
    exact ⟨h₁.trans ih.1, h₂.trans ih.2⟩

/-! ## 2. What an event is for a token -/

namespace Event

/-- The token that a login has returned. -/
def opened? (e : Event) : Option String := e.answer.opened?

/-- A login has returned the token. -/
def Opens (t : String) (e : Event) : Prop := e.opened? = some t

/-- The token was logged out. -/
def Closes (t : String) (e : Event) : Prop := e.op = .logout t

/-- The errand for a token that found its session. -/
def errand? (t : String) (e : Event) : Option Errand :=
  match e.op with
  | .visit token a => if token = t ∧ e.found = true then some a else none
  | _ => none

/-- An errand for the token found its session. -/
def Finds (t : String) (e : Event) : Prop := (e.errand? t).isSome = true

/-- The session under the token was seen: it was opened, or an errand found it. -/
def Sees (t : String) (e : Event) : Prop := e.Opens t ∨ e.Finds t

/-- A run was admitted under the token. -/
def Admits (t : String) (e : Event) : Prop :=
  ∃ input ticket, e.op = .visit t (.beginRun input) ∧ e.answer = .ticket (.ok ticket)

/-- The end of a run has released the session under the token. -/
def Releases (t : String) (e : Event) : Prop :=
  ∃ ticket, e.op = .visit t (.finishRun ticket) ∧ e.answer = .done (.ok ())

end Event

/-- No token was returned by two logins. -/
abbrev FreshTokens (past : List Event) : Prop := NoRepeat Event.opened? past

/-- A login has returned the token, and it was not logged out since. -/
def StillOpen (t : String) (past : List Event) : Prop :=
  Since (Event.Opens t) (Event.Closes t) past

/-- A run was admitted under the token, and the end of no run has released the session since. -/
def StillBusy (t : String) (past : List Event) : Prop :=
  Since (Event.Admits t) (Event.Releases t) past

/-- The session under the token was last seen at this moment. -/
def LastSeen (t : String) (seen : Moment) (past : List Event) : Prop :=
  Since (fun e => e.Sees t ∧ e.time = seen) (Event.Sees t) past

/-- A gate that was logged in once and then got only the errands for this token that found its
    session. -/
def loneGate (t : String) (past : List Event) : Gate :=
  (past.filterMap (Event.errand? t)).foldr (fun a g => (a.carryOut g).2) Gate.new.login

end CommandConsole
