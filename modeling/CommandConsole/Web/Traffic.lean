import CommandConsole.Web.Console

/-!
# Requests in flight

Several clients can wait for their responses at the same time. Time passes only when it is let pass
(`advance`) or when someone waits for a response (`await`), which takes it straight to the moment at
which that response is there. Whatever falls due on the way is delivered, also where the client has
gone away in the meantime.
-/

namespace CommandConsole.Web

/-- What has become of a client's request. -/
inductive Client where
  | waiting
  | answered (r : Response)
  /-- The response was fetched, or the client does not wait for it any more. -/
  | gone

/-- A run that is held back, for the client with a number. -/
structure Flight where
  client : Nat
  request : Request
  run : HeldRun

/-- When a run is due: a run without an outcome has nothing to wait for. -/
def Flight.dueAt (now : Nat) (f : Flight) : Nat :=
  match f.run.pending with
  | .ok p => p.dueAt
  | .error _ => now

/-- The console, its clients by number, and the runs that are held back, earliest first. -/
structure Traffic where
  console : Console
  uptime : Nat
  clients : List Client
  flights : List Flight

namespace Traffic

/-- No request yet. -/
def new (settings : Settings) : Traffic :=
  { console := .new settings, uptime := 0, clients := [], flights := [] }

/-- The client under a number. -/
def client? (t : Traffic) (n : Nat) : Option Client :=
  match t.clients[n]? with
  | some .gone | none => none
  | some c => some c

/-- Gives a client its response, if it still waits. -/
def answer (t : Traffic) (n : Nat) (r : Response) : Traffic :=
  match t.client? n with
  | some _ => { t with clients := t.clients.set n (.answered r) }
  | none => t

/-- Delivers runs one after the other. -/
def deliverAll (now : Moment) (t : Traffic) : List Flight → Except CalendarFault Traffic
  | [] => .ok t
  | f :: fs => do
    let (response, console) ← t.console.deliver now f.run
    let t := ({ t with console := console } : Traffic).answer f.client
      (Console.sent f.request response)
    deliverAll now t fs

/-- Delivers what is due. -/
def settle (t : Traffic) (now : Moment) : Except CalendarFault Traffic :=
  let isDue := fun (f : Flight) => decide (f.dueAt t.uptime ≤ t.uptime)
  deliverAll now { t with flights := t.flights.filter (!isDue ·) } (t.flights.filter isDue)

/-- Lets time pass. -/
def advance (t : Traffic) (now : Moment) (ms : Nat) : Except CalendarFault Traffic :=
  ({ t with uptime := t.uptime + ms } : Traffic).settle now

/-- Sends a request and answers the number of its client. -/
def send (t : Traffic) (o : Occasion) (r : Request) : Except CalendarFault (Nat × Traffic) := do
  let n := t.clients.length
  match ← t.console.respond { o with uptime := t.uptime } r with
  | (.answered response, console) =>
    let client := Client.answered (Console.sent r response)
    return (n, { t with console := console, clients := t.clients ++ [client] })
  | (.held run, console) =>
    let flight : Flight := { client := n, request := r, run := run }
    let t : Traffic :=
      { t with
        console := console
        clients := t.clients ++ [.waiting]
        flights := t.flights ++ [flight] }
    return (n, ← t.settle o.now)

/-- Fetches the response for a client, letting time pass until it is there; none if nobody waits
    under this number. -/
def await (t : Traffic) (now : Moment) (n : Nat) :
    Except CalendarFault (Option Response × Traffic) := do
  let t ← match t.flights.find? (·.client == n) with
    | some f =>
      if (t.client? n).isSome then t.advance now (f.dueAt t.uptime - t.uptime) else .ok t
    | none => .ok t
  match t.client? n with
  | some (.answered r) => return (some r, { t with clients := t.clients.set n .gone })
  | _ => return (none, t)

/-- The client goes away; what it asked for goes on. -/
def drop (t : Traffic) (n : Nat) : Traffic := { t with clients := t.clients.set n .gone }

/-- Whether the response for a client is there. -/
def isDone? (t : Traffic) (n : Nat) : Option Bool :=
  (t.client? n).map fun
    | .answered _ => true
    | _ => false

end Traffic

end CommandConsole.Web
