import CommandConsole.CommandLine.Console
import CommandConsole.Proofs.Web.Runs
import CommandConsole.Proofs.Wire.Lawful

/-!
# Every wire type round-trips through its JSON texts

What is written, compact or pretty, is read back as the value that was written. So the two programs
tell the same: whoever reads the JSON that the console prints, or the answer of the web console,
gets the outcome of the line.

* `RoundTrips`: both texts of every value come back, and an accepted text is settled after it was
  written anew once.
* `wire_round_trip`: this holds of every wire type, and the outcome of a line comes out of the
  printed text and out of the web answers alike.
-/

namespace CommandConsole

/-! ## 1. One type -/

/-- A text read and written anew. -/
def Wire.rewritten (α : Type) [Wire α] (write : α → String) (s : String) : Except Json.Fault String :=
  (Wire.ofText s : Except Json.Fault α).map write

/-- A type whose values come back from their texts. -/
structure RoundTrips (α : Type) [Wire α] : Prop where
  compact : ∀ a : α, Wire.ofText (Wire.compact a) = .ok a
  pretty : ∀ a : α, Wire.ofText (Wire.pretty a) = .ok a
  /-- A text that is accepted, whoever wrote it, is settled once it was written anew. -/
  compact_settled : ∀ s s', Wire.rewritten α Wire.compact s = .ok s' →
    Wire.rewritten α Wire.compact s' = .ok s'
  pretty_settled : ∀ s s', Wire.rewritten α Wire.pretty s = .ok s' →
    Wire.rewritten α Wire.pretty s' = .ok s'

namespace Wire

variable {α : Type} [Wire α]

/-- What was written by a writer whose texts come back is settled. -/
theorem rewritten_settled {write : α → String} (h : ∀ a, ofText (write a) = .ok a) {s s' : String}
    (hs : rewritten α write s = .ok s') : rewritten α write s' = .ok s' := by
  cases ha : (ofText s : Except Json.Fault α) with
  | error e =>
    rw [rewritten, ha] at hs
    cases hs
  | ok a =>
    rw [rewritten, ha] at hs
    cases hs
    rw [rewritten, h a]
    rfl

variable [LawfulWire α]

theorem ofText_compact (a : α) : ofText (compact a) = .ok a := by
  rw [ofText, compact, Json.ofText_compact, reader_toJson]

theorem ofText_pretty (a : α) : ofText (pretty a) = .ok a := by
  rw [ofText, pretty, (Json.ofText_pretty _).1, reader_toJson]

theorem pretty_injective : Function.Injective (pretty : α → String) := by
  intro a a' h
  have hread : (ofText (pretty a) : Except Json.Fault α) = .ok a' := h ▸ ofText_pretty a'
  exact Except.ok.inj ((ofText_pretty a).symm.trans hread)

/-- A printed text has a line end behind it. -/
theorem ofText_pretty_line (a : α) : ofText (pretty a ++ "\n") = .ok a := by
  rw [ofText, pretty, (Json.ofText_pretty _).2, reader_toJson]

end Wire

/-- **A lawful wire type round-trips.** -/
theorem RoundTrips.of_lawful (α : Type) [Wire α] [LawfulWire α] : RoundTrips α where
  compact := Wire.ofText_compact
  pretty := Wire.ofText_pretty
  compact_settled _ _ := Wire.rewritten_settled Wire.ofText_compact
  pretty_settled _ _ := Wire.rewritten_settled Wire.ofText_pretty

/-! ## 2. The outcome of a line -/

/-- The console that is asked for JSON prints the outcome of the line. -/
theorem CommandLine.ofText_evalOnce {input : String} (h : canRun input = true) (colour : Bool)
    (delayMs : UInt64) :
    Wire.ofText (evalOnce .json colour input delayMs).output = .ok (evaluate input) := by
  have houtput : (evalOnce .json colour input delayMs).output
      = Wire.pretty (evaluate input) ++ "\n" := by
    simp only [evalOnce, Trigger.start, Trigger.evaluateNow, h, if_true]
    rfl
  rw [houtput, Wire.ofText_pretty_line]

namespace Web

/-- The response carries an answer to a run whose outcome is this. -/
def Response.Tells (r : Response) (o : Outcome) : Prop :=
  ∃ (value : Json) (answer : RunAnswer),
    r.body = .json value ∧ Wire.ofText value.compact = .ok answer ∧ answer.outcome = o

theorem tells_outcomeResponse (o : Outcome) : (Console.outcomeResponse o).Tells o :=
  ⟨Wire.toJson (RunAnswer.ofOutcome o), .ofOutcome o, rfl, Wire.ofText_compact _, rfl⟩

/-- No failure is told with the status of success. -/
theorem status_ofFailure_ne (e : Failure) : (Response.ofFailure e).status ≠ 200 := by
  change Response.failureStatus e ≠ 200
  cases e <;> simp [Response.failureStatus]

variable {c c' : Console}

/-- A line that is evaluated at once is answered with its outcome. -/
theorem Console.tells_evaluateNow {r : Request} {input : String} (h : canRun input = true)
    (hbody : readBody RunRequest.reader r = .ok { input := input }) :
    ∃ response, c.evaluateNow r = .ok (.answered response, c) ∧ response.Tells (evaluate input) := by
  refine ⟨outcomeResponse (evaluate input), ?_, tells_outcomeResponse _⟩
  simp only [evaluateNow, hbody, Trigger.evaluateNow, h, if_true]
  rfl

/-- A run that is delivered as a success is answered with the outcome of its line, whatever has
    happened to the console since it was admitted. -/
theorem Console.tells_deliver {o : Occasion} {r : Request} {run : HeldRun} {input : String}
    (hbody : readBody RunRequest.reader r = .ok { input := input })
    (hrun : c.run o r = .ok (.held run, c')) {later last : Console} {now : Moment}
    {response : Response} (hdeliver : later.deliver now run = .ok (response, last))
    (hstatus : response.status = 200) : response.Tells (evaluate input) := by
  obtain ⟨q, -, -, hq, -, -, -, -, hpending, -, -⟩ := run_held hrun
  have hinput : input = q.input := by
    rw [hbody] at hq
    cases hq
    rfl
  unfold deliver at hdeliver
  obtain ⟨⟨answer, s⟩, -, h⟩ := bind_eq_ok hdeliver
  cases answer with
  | error e =>
    cases h
    exact absurd hstatus (status_ofFailure_ne e)
  | ok u =>
    simp only [hpending] at h
    cases h
    rw [hinput]
    exact tells_outcomeResponse _

end Web

/-! ## 3. Every type -/

/-- **Every wire type round-trips, and the outcome of a line is the same for every reader**: it comes
    out of the text that the console prints, and out of the answers of the web console to a line that
    is evaluated at once or run for a session. -/
theorem wire_round_trip :
    (RoundTrips Outcome ∧ RoundTrips HelpCatalog ∧ RoundTrips Challenge ∧
      RoundTrips ChallengeView ∧ RoundTrips SessionStatus ∧ RoundTrips RunAnswer ∧
      RoundTrips LoginAnswer ∧ RoundTrips CaptchaAnswer ∧ RoundTrips PanelAnswer ∧
      RoundTrips Settings) ∧
    ∀ input, canRun input = true →
      (∀ colour delayMs, Wire.ofText (CommandLine.evalOnce .json colour input delayMs).output
        = .ok (evaluate input)) ∧
      (∀ (c : Web.Console) r, Web.Console.readBody RunRequest.reader r = .ok { input := input } →
        ∃ response, c.evaluateNow r = .ok (.answered response, c) ∧
          response.Tells (evaluate input)) ∧
      ∀ (c c' later last : Web.Console) o r run now response,
        Web.Console.readBody RunRequest.reader r = .ok { input := input } →
        c.run o r = .ok (.held run, c') → later.deliver now run = .ok (response, last) →
        response.status = 200 → response.Tells (evaluate input) := by
  refine ⟨⟨.of_lawful _, .of_lawful _, .of_lawful _, .of_lawful _, .of_lawful _, .of_lawful _,
    .of_lawful _, .of_lawful _, .of_lawful _, .of_lawful _⟩, fun input h => ⟨?_, ?_, ?_⟩⟩
  · exact CommandLine.ofText_evalOnce h
  · exact fun c r hbody => Web.Console.tells_evaluateNow h hbody
  · exact fun c c' later last o r run now response hbody hrun hdeliver hstatus =>
      Web.Console.tells_deliver hbody hrun hdeliver hstatus

/-- A line whose message has quotes in it comes out of the printed text, out of the answer to a request
    that has it evaluated at once, and out of the delivery of a run for a session. -/
theorem wire_round_trip_quoted :
    canRun "cy.log(\"a\")" = true ∧
      Wire.ofText (CommandLine.evalOnce .json false "cy.log(\"a\")" 0).output
        = .ok (evaluate "cy.log(\"a\")") ∧
      ∃ (c c' last : Web.Console) (o : Web.Occasion) (r : Web.Request) (run : Web.HeldRun)
        (response : Web.Response),
        Web.Console.readBody RunRequest.reader r = .ok { input := "cy.log(\"a\")" } ∧
        (∃ response, c.evaluateNow r = .ok (.answered response, c) ∧
          response.Tells (evaluate "cy.log(\"a\")")) ∧
        c.run o r = .ok (.held run, c') ∧ c'.deliver 2000 run = .ok (response, last) ∧
        response.status = 200 ∧ response.Tells (evaluate "cy.log(\"a\")") := by
  have h : canRun "cy.log(\"a\")" = true := by decide
  obtain ⟨hprinted, hnow, hdelivered⟩ := wire_round_trip.2 _ h
  obtain ⟨r, hbody, htoken⟩ : ∃ r : Web.Request,
      Web.Console.readBody RunRequest.reader r = .ok { input := "cy.log(\"a\")" } ∧
        r.token? = some "a" :=
    ⟨{ method := "POST"
       target := "/api/run"
       headers := [("content-type", "application/json"), (Web.sessionHeader, "a")]
       body := "\x7b\"input\":\"cy.log(\\\"a\\\")\"\x7d".toUTF8.toList },
      by decide +kernel, by decide +kernel⟩
  -- a console in which one session is logged in holds the run, and delivers it two seconds later
  obtain ⟨c, run, c', hrun, response, last, hdeliver, hstatus⟩ :
      ∃ (c : Web.Console) (run : Web.HeldRun) (c' : Web.Console),
        c.run ⟨0, 0, ⟨"c", 1, 1⟩, "b"⟩ r = .ok (.held run, c') ∧
        ∃ response last, c'.deliver 2000 run = .ok (response, last) ∧ response.status = 200 := by
    refine ⟨{ settings := .default
              store := { Store.new 5000 1000 with
                sessions := Registry.empty.insert "a" { gate := Gate.new.login, lastSeen := 0 } } },
      ?_⟩
    rw [Web.Console.run, hbody]
    simp only [Web.Console.withToken, htoken]
    exact ⟨_, _, rfl, _, _, rfl, rfl⟩
  exact ⟨h, hprinted false 0, c, c', last, _, r, run, response, hbody, hnow c r hbody, hrun, hdeliver,
    hstatus, hdelivered _ _ _ _ _ _ _ _ _ hbody hrun hdeliver hstatus⟩

end CommandConsole
