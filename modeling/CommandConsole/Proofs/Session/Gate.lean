import CommandConsole.Session.Gate

/-!
# What a gate answers

The two steps of the gate that can be refused, read as cases: each reason to refuse with the answer and
the gate that come of it.

* `Gate.beginRun_cases`, `Gate.finishRun_cases`: every way that beginning and ending a run can go;
* `Gate.beginRun_eq_ok`, `Gate.beginRun_eq_error`, `Gate.finishRun_eq_error`: read from the answer;
* `Gate.beginRun_frame`, `Gate.finishRun_frame`: what neither of them changes.
-/

namespace CommandConsole.Gate

variable {g : Gate} {input : String}

/-- The ways in which beginning a run can go, in the order in which the gate looks at them. -/
theorem beginRun_cases (g : Gate) (input : String) :
    (g.loggedIn = false ∧ g.beginRun input = (.error .notLoggedIn, g)) ∨
    (g.loggedIn = true ∧ g.running = true ∧ g.beginRun input = (.error .runInProgress, g)) ∨
    (g.loggedIn = true ∧ g.running = false ∧ CommandConsole.canRun input = false ∧
      g.beginRun input = (.error .emptyInput, g)) ∨
    (g.loggedIn = true ∧ g.running = false ∧ CommandConsole.canRun input = true ∧
      g.beginRun input = (.ok { generation := g.generation }, { g with running := true })) := by
  unfold beginRun
  cases g.loggedIn with
  | false => exact Or.inl ⟨rfl, rfl⟩
  | true =>
    cases hrun : g.running with
    | true => exact Or.inr (Or.inl ⟨rfl, rfl, rfl⟩)
    | false =>
      cases CommandConsole.canRun input with
      | false => exact Or.inr (Or.inr (Or.inl ⟨rfl, rfl, rfl, rfl⟩))
      | true => exact Or.inr (Or.inr (Or.inr ⟨rfl, rfl, rfl, rfl⟩))

/-- The ways in which ending a run can go. -/
theorem finishRun_cases (g : Gate) (ticket : RunTicket) :
    (g.loggedIn = true ∧ ticket.generation = g.generation ∧
      g.finishRun ticket = (.ok (), { g with running := false })) ∨
    (¬ (g.loggedIn = true ∧ ticket.generation = g.generation) ∧
      g.finishRun ticket = (.error .sessionEnded, g)) := by
  unfold finishRun
  by_cases hgen : ticket.generation = g.generation
  · cases hin : g.loggedIn with
    | false => exact Or.inr ⟨fun h => Bool.noConfusion h.1, rfl⟩
    | true => exact Or.inl ⟨rfl, hgen, by simp [hgen]⟩
  · exact Or.inr ⟨fun h => hgen h.2, by simp [hgen]⟩

/-- A run is admitted by a gate that is logged in and idle, for an input that can be run. -/
theorem beginRun_eq_ok {ticket : RunTicket} (h : (g.beginRun input).1 = .ok ticket) :
    g.running = false ∧ CommandConsole.canRun input = true ∧ ticket.generation = g.generation ∧
      (g.beginRun input).2 = { g with running := true } := by
  obtain ⟨-, hg⟩ | ⟨-, -, hg⟩ | ⟨-, -, -, hg⟩ | ⟨-, hrun, hcan, hg⟩ := beginRun_cases g input
  · rw [hg] at h; cases h
  · rw [hg] at h; cases h
  · rw [hg] at h; cases h
  · rw [hg] at h ⊢
    cases h
    exact ⟨hrun, hcan, rfl, rfl⟩

/-- A gate that refuses a run stays as it is. -/
theorem beginRun_eq_error {e : Failure} (h : (g.beginRun input).1 = .error e) :
    (g.beginRun input).2 = g := by
  obtain ⟨-, hg⟩ | ⟨-, -, hg⟩ | ⟨-, -, -, hg⟩ | ⟨-, -, -, hg⟩ := beginRun_cases g input
  · rw [hg]
  · rw [hg]
  · rw [hg]
  · rw [hg] at h; cases h

theorem finishRun_of_ticket {ticket : RunTicket} (hin : g.loggedIn = true)
    (hgen : ticket.generation = g.generation) :
    g.finishRun ticket = (.ok (), { g with running := false }) := by
  obtain ⟨-, -, h⟩ | ⟨hnot, -⟩ := finishRun_cases g ticket
  · exact h
  · exact absurd ⟨hin, hgen⟩ hnot

/-- A gate for which a session has ended stays as it is. -/
theorem finishRun_eq_error {ticket : RunTicket} {e : Failure}
    (h : (g.finishRun ticket).1 = .error e) : (g.finishRun ticket).2 = g := by
  obtain ⟨-, -, hg⟩ | ⟨-, hg⟩ := finishRun_cases g ticket
  · rw [hg] at h; cases h
  · rw [hg]

/-- Beginning a run changes nothing but whether one is going on. -/
theorem beginRun_frame (g : Gate) (input : String) :
    ∃ running, (g.beginRun input).2 = { g with running := running } := by
  obtain ⟨-, hg⟩ | ⟨-, -, hg⟩ | ⟨-, -, -, hg⟩ | ⟨-, -, -, hg⟩ := beginRun_cases g input
  · exact ⟨g.running, by rw [hg]⟩
  · exact ⟨g.running, by rw [hg]⟩
  · exact ⟨g.running, by rw [hg]⟩
  · exact ⟨true, by rw [hg]⟩

/-- Ending a run changes nothing but whether one is going on. -/
theorem finishRun_frame (g : Gate) (ticket : RunTicket) :
    ∃ running, (g.finishRun ticket).2 = { g with running := running } := by
  obtain ⟨-, -, hg⟩ | ⟨-, hg⟩ := finishRun_cases g ticket
  · exact ⟨false, by rw [hg]⟩
  · exact ⟨g.running, by rw [hg]⟩

end CommandConsole.Gate
