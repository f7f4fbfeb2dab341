import Telemetry.Json.Writer
import Telemetry.Request.Identity
import Telemetry.Request.Profile
import Telemetry.Settings.Basic
import Telemetry.Web.Endpoint
import Telemetry.Web.Exchange
import Telemetry.Web.Route
import Telemetry.Web.Url

/-! # The server

A request goes to the endpoint that owns its path, else to the first route that fits, else it is
not found. When its exchange is over, the request is recorded once, whichever of the two signals
comes first: that the response is finished, or that the connection is closed. Here one request is
served to its end before the next one; `Traffic` lets them overlap.
-/
namespace Telemetry.Web

open Telemetry.Metric (Reading SocketAction Trials)

structure Request where
  method : Option String := none
  target : Option String := none
  headers : Headers := []

/-- What a handler does, in order. A handler that lingers waits until its exchange is over and goes
on after that. -/
inductive Action where
  | call (c : Request.Call)
  | status (code : Datum)
  | header (name value : Datum)
  | write (chunk : Datum)
  | finish (chunk : Datum)
  | parameters
  | context
  | advance (ms : Number)
  | pause
  | fail (failure : Failure)
  | disconnect
  | linger

def Action.isLinger : Action → Bool
  | .linger => true
  | _ => false

/-- A route with the actions of its handler. Methods are named in any case. -/
structure Route where
  method : String
  pattern : String
  actions : List Action

structure Server where
  endpoints : EndpointSettings
  perfLogEnabled : Bool
  requestIdHeaderEnabled : Bool
  slowQueryMs : Number
  routes : List Route := []

/-- A server with the settings of a program. -/
def Server.ofSettings (s : Settings.Server) (routes : List Route) : Server :=
  { endpoints :=
      { healthPath := some s.healthPath
        allowUnauthenticated := s.metricsAllowUnauthenticated
        authToken := s.metricsAuthToken }
    perfLogEnabled := s.perfLogEnabled
    requestIdHeaderEnabled := s.requestIdHeaderEnabled
    slowQueryMs := s.slowQueryMs
    routes := routes }

/-- What a server logs once it listens. -/
def listeningEntry (port : Datum) (host : String) : Log.Entry :=
  { source := .http, level := .info, message := "HTTP server listening"
    fields := [("port", port), ("host", .text host)] }

/-- What surrounds one request: the clocks of the monitor, the trials of its sink, and an identity
for a request that brings none. -/
structure Surroundings where
  clock : Reading
  wallClock : Reading
  trials : Trials
  fresh : String

/-- A request that arrives, with what surrounds it. -/
structure Incoming where
  around : Surroundings
  now : Number
  request : Request

/-- What is known of a request when its exchange is over: its profile, the status that counts, the
time, and what was logged before. -/
structure Ending where
  profile : Request.Profile
  status : Datum
  now : Number
  logs : List Log.Entry

/-- A request on its way: its exchange and profile, the clock of the server, whether the client has
gone, and how the exchange ended if it is over. -/
structure Visit where
  exchange : Exchange
  profile : Request.Profile
  now : Number
  gone : Bool := false
  logs : List Log.Entry := []
  ending : Option Ending := none

/-- The two signals that an exchange is over. -/
inductive Signal where
  | finish | close

namespace Visit

/-- The status that counts: that of the exchange if its head was sent, else that of a client that
has gone. -/
def recordedStatus (v : Visit) : Datum :=
  if v.exchange.headSent then v.exchange.status else .ofNat 499

def present (v : Visit) : Ending :=
  { profile := v.profile, status := v.recordedStatus, now := v.now, logs := v.logs }

/-- The exchange is over: what is known of it is kept for the record. -/
def signalled (v : Visit) : Visit :=
  if v.ending.isSome then v else { v with logs := [], ending := some v.present }

/-- The first signal ends the exchange. A connection that closes on a response which is not complete
has lost its client. -/
def receive (v : Visit) : Signal → Visit
  | .finish => v.signalled
  | .close =>
    { v.signalled with exchange := v.exchange.close, gone := v.gone || !v.exchange.ended }

/-- A response that was handed over signals its finish before the connection closes. The client of
one that never ends leaves, which closes the connection. -/
def signals (v : Visit) : List Signal :=
  if v.exchange.ended && !v.gone then [.finish, .close] else [.close]

/-- Waits for the signals, unless there was one. -/
def linger (v : Visit) : Visit :=
  if v.ending.isSome then v else v.signals.foldl receive v

def failureEntry (failure : Failure) : Log.Entry :=
  { source := .http, level := .error, message := "HTTP request failed"
    fields := [("err", failure.datum)] }

/-- Logs a failure and ends the exchange. -/
def abort (v : Visit) (failure : Failure) : Visit :=
  { v with exchange := v.exchange.abort, logs := v.logs ++ [failureEntry failure] }

def withExchange (v : Visit) (e : Except Failure Exchange) : Except Failure Visit :=
  e.map fun exchange => { v with exchange := exchange }

def parametersText (params : Parameters) : String :=
  Json.write (.list (params.sorted.map fun p => .list [.text p.1, .text p.2]))

def contextText (p : Request.Profile) : String :=
  Json.write (.list [.text p.requestId, .text p.method, .text p.path, .ofNat p.calls])

def act (params : Parameters) (v : Visit) : Action → Except Failure Visit
  | .call c => .ok { v with profile := v.profile.add c }
  | .status code => .ok { v with exchange := v.exchange.setStatus code }
  | .header name value => v.withExchange (v.exchange.setHeader name value)
  | .write chunk => v.withExchange (v.exchange.write chunk)
  | .finish chunk => v.withExchange (v.exchange.finishWith chunk)
  | .parameters => v.withExchange (v.exchange.finish (some (parametersText params)))
  | .context => v.withExchange (v.exchange.finish (some (contextText v.profile)))
  | .advance ms => .ok { v with now := v.now + ms }
  | .pause => .ok v
  | .fail failure => .error failure
  | .disconnect => .ok { v with gone := v.gone || !v.exchange.ended }
  | .linger => .ok v.linger

/-- Performs the actions until one fails, which aborts the exchange. -/
def perform (params : Parameters) (v : Visit) : List Action → Visit
  | [] => v
  | action :: rest =>
    match v.act params action with
    | .ok next => next.perform params rest
    | .error failure => v.abort failure

end Visit

/-- The first route whose method and pattern fit, with the parameters. A request without a method
fits no route. -/
def findRoute? (method : Option String) (path : String) :
    List Route → Option (Route × Parameters)
  | [] => none
  | route :: rest =>
    if some (Text.upper route.method) = method then
      match matchPattern route.pattern path with
      | some params => some (route, params)
      | none => findRoute? method path rest
    else findRoute? method path rest

def notFoundBody : String := "\x7b\"error\":\"Not found\"\x7d"

/-- Gives a short answer. -/
def Visit.reply (v : Visit) (status : Int) (contentType body : String) : Visit :=
  match ((v.exchange.setStatus (.number (Number.ofInt status))).setHeader
      (.text "content-type") (.text contentType)).bind fun e => e.finish (some body) with
  | .ok e => { v with exchange := e }
  | .error failure => v.abort failure

/-- A request that is let in: the label of its path, and what its handler is to do with which
parameters. The answers of the server itself have no handler. -/
structure Admission where
  visit : Visit
  label : String
  params : Parameters := []
  actions : List Action := []

/-- Finds out who serves a request. -/
def accept (s : Server) (m : Monitor) (wallClock : Reading) (r : Request) (path : String)
    (v : Visit) : Admission :=
  let method := r.method.getD ""
  let owned := ownedPath? s.endpoints m method path
  let reply := match owned with
    | some _ => handle s.endpoints m wallClock method path r.headers
    | none => .ok none
  match owned, reply with
  | _, .error failure => { visit := v.abort failure, label := path }
  | some label, .ok (some (_, reply)) =>
    { visit := v.reply reply.status reply.contentType reply.body, label := label }
  | _, .ok _ =>
    match findRoute? r.method path s.routes with
    | some (route, params) =>
      { visit := v, label := route.pattern, params := params, actions := route.actions }
    | none => { visit := v.reply 404 "application/json" notFoundBody, label := path }

/-- Serves a request up to the end of its handler; the text is the label of its path. -/
def dispatch (s : Server) (m : Monitor) (wallClock : Reading) (r : Request) (path : String)
    (v : Visit) : Visit × String :=
  let a := accept s m wallClock r path v
  (a.visit.perform a.params a.actions, a.label)

def perfEntries (s : Server) (r : Request) (label : String) (elapsed : Number) (e : Ending) :
    List Log.Entry :=
  if s.perfLogEnabled then
    { source := .perf, level := .info, message := "request_perf"
      fields := [("event", .text "request_perf"), ("requestId", .text e.profile.requestId),
        ("method", (r.method.map Datum.text).getD .absent), ("path", .text label),
        ("statusCode", e.status),
        ("totalMs", .number elapsed.roundHundredths), ("dbCalls", .ofNat e.profile.calls),
        ("dbMs", .number e.profile.totalMs.roundHundredths),
        ("dbMaxMs", .number e.profile.maxMs.roundHundredths),
        ("dbCacheHits", .ofNat e.profile.cacheHits), ("dbErrors", .ofNat e.profile.errors)] } ::
      e.profile.slow.map fun call =>
        { source := .perf, level := .warn, message := "request_slow_sql"
          fields := [("event", .text "request_slow_sql"),
            ("requestId", .text e.profile.requestId)] ++ call.fields }
  else []

def observation (r : Request) (label : String) (elapsed : Number) (e : Ending) :
    Monitor.Observation :=
  { method := .text (r.method.getD "")
    path := .text label
    statusCode := e.status
    elapsedMs := .number elapsed
    databaseCalls := .ofNat e.profile.calls
    databaseMs := .number e.profile.totalMs
    cacheHits := .ofNat e.profile.cacheHits
    databaseErrors := .ofNat e.profile.errors }

/-- The monitor after a request is over, with what was logged and sent. -/
structure Record where
  monitor : Monitor
  recorded : Bool := false
  logs : List Log.Entry := []
  sent : List SocketAction := []

/-- Records the request at the first signal. -/
def Record.receive (observe : Monitor → Monitor.Step) (perf : List Log.Entry) (r : Record)
    (_ : Signal) : Record :=
  if r.recorded then r
  else
    let step := observe r.monitor
    { monitor := step.monitor, recorded := true, logs := r.logs ++ step.logs ++ perf
      sent := r.sent ++ step.actions }

/-- Takes a signal for the record of a request that arrived at a time. -/
def Server.note (s : Server) (around : Surroundings) (startedAt : Number) (r : Request)
    (label : String) (e : Ending) : Record → Signal → Record :=
  let elapsed := e.now - startedAt
  Record.receive
    (fun m => m.record (observation r label elapsed e) around.clock around.trials)
    (perfEntries s r label elapsed e)

/-- The outcome of a request: no response if it was never complete. The faults are errors that
nobody listened to, at which a process ends that does not guard itself. -/
structure Outcome where
  response : Option Response
  monitor : Monitor
  now : Number
  logs : List Log.Entry
  sent : List SocketAction
  faults : List Failure

def Server.profile (s : Server) (fresh : String) (r : Request) : Request.Profile :=
  { requestId := Request.identity fresh (r.headers.first? "x-request-id")
    method := r.method.getD ""
    path := targetPath r.target
    slowQueryMs := s.slowQueryMs }

/-- A visit at its beginning. Identities are safe header values. -/
def Server.enter (s : Server) (fresh : String) (now : Number) (r : Request) : Visit :=
  let profile := s.profile fresh r
  { exchange :=
      { headOnly := r.method == some "HEAD"
        headers := if s.requestIdHeaderEnabled then
            [("x-request-id", .text profile.requestId)]
          else [] }
    profile := profile
    now := now }

/-- Serves one request that arrives at `now` on the clock of the server. -/
def Server.serve (s : Server) (around : Surroundings) (m : Monitor) (now : Number) (r : Request) :
    Outcome :=
  let entered := s.enter around.fresh now r
  let (handled, label) := dispatch s m around.wallClock r entered.profile.path entered
  let v := handled.linger
  let ending := v.ending.getD v.present
  let final := v.signals.foldl (s.note around now r label ending) { monitor := m }
  { response := v.exchange.response? v.gone
    monitor := final.monitor
    now := v.now
    logs := ending.logs ++ final.logs ++ v.logs
    sent := final.sent
    faults := v.exchange.faults }

/-- The responses to requests that come one after another. A process that does not guard itself
ends at the first fault, and then nobody answers. -/
def Server.answers (s : Server) (guarded : Bool) (m : Monitor) :
    List Incoming → List (Option Response)
  | [] => []
  | i :: rest =>
    let outcome := s.serve i.around m i.now i.request
    outcome.response ::
      if guarded || outcome.faults.isEmpty then s.answers guarded outcome.monitor rest
      else rest.map fun _ => none

end Telemetry.Web
