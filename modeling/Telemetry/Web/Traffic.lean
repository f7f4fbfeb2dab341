import Telemetry.Web.Server

/-! # Overlapping requests

Requests do not wait for each other: while one handler waits, others arrive and go on. The signals
of an exchange come as its connection has it, in any order, late or not at all; one that was queued
behind another on the same connection may get none. The first one records the request.
-/
namespace Telemetry.Web

open Telemetry.Metric (SocketAction)

/-- A request under way: what its handler did before the exchange was over, and what it has still
to do. -/
structure Underway where
  incoming : Incoming
  label : String
  params : Parameters := []
  visit : Visit
  before : List Action := []
  todo : List Action := []

namespace Underway

def isOver (u : Underway) : Bool := u.visit.ending.isSome

/-- The next action of a handler. One that waits for its exchange to be over goes on after that, and
one that fails aborts the exchange and is done. -/
def act (u : Underway) : Underway :=
  match u.todo with
  | [] => u
  | action :: rest =>
    if action.isLinger && !u.isOver then u
    else
      match u.visit.act u.params action with
      | .ok next =>
        { u with
          visit := next, todo := rest
          before := if u.isOver then u.before else u.before ++ [action] }
      | .error failure => { u with visit := u.visit.abort failure, todo := [] }

/-- Takes a signal at a reading of the clock. -/
def signal (u : Underway) (signal : Signal) (now : Number) : Underway :=
  { u with visit := { u.visit with now := now }.receive signal }

end Underway

/-- What happens next: a request arrives, the handler of one does its next action, one gets a signal
at a reading of the clock, or the process ends at an error that nobody listened to. Requests are
numbered from zero as they arrive. -/
inductive Event where
  | arrive (i : Incoming)
  | act (k : Nat)
  | signal (k : Nat) (signal : Signal) (now : Number)
  | collapse

/-- All requests that arrived so far, whether they are over or not, with what was logged and sent
for their records. -/
structure Traffic where
  monitor : Monitor
  underway : List Underway := []
  logs : List Log.Entry := []
  sent : List SocketAction := []
  alive : Bool := true

namespace Traffic

/-- A request that arrives gets the answer of the server or the handler of a route. -/
def arrive (s : Server) (t : Traffic) (i : Incoming) : Traffic :=
  let entered := s.enter i.around.fresh i.now i.request
  let a := accept s t.monitor i.around.wallClock i.request entered.profile.path entered
  { t with
    underway := t.underway ++
      [{ incoming := i, label := a.label, params := a.params, visit := a.visit
         todo := a.actions }] }

/-- A signal of a request is one for its record. -/
def signal (s : Server) (t : Traffic) (k : Nat) (signal : Signal) (now : Number) : Traffic :=
  match t.underway[k]? with
  | none => t
  | some u =>
    let next := u.signal signal now
    let noted := s.note u.incoming.around u.incoming.now u.incoming.request u.label
      (next.visit.ending.getD next.visit.present)
      { monitor := t.monitor, recorded := u.isOver } signal
    { t with
      monitor := noted.monitor, underway := t.underway.set k next
      logs := t.logs ++ noted.logs, sent := t.sent ++ noted.sent }

/-- Whether an exchange has left an error that nobody listened to. -/
def isFaulty (t : Traffic) : Bool := t.underway.any fun u => !u.visit.exchange.faults.isEmpty

/-- One step. A process that has ended does nothing any more. -/
def step (s : Server) (guarded : Bool) (t : Traffic) (event : Event) : Traffic :=
  if !t.alive then t
  else match event with
    | .arrive i => t.arrive s i
    | .act k => { t with underway := t.underway.modify k Underway.act }
    | .signal k signal now => t.signal s k signal now
    | .collapse => { t with alive := guarded || !t.isFaulty }

def run (s : Server) (guarded : Bool) (t : Traffic) (events : List Event) : Traffic :=
  events.foldl (step s guarded) t

end Traffic

end Telemetry.Web
