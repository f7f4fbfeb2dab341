import Telemetry.Shutdown
import Telemetry.Web.Server

/-! # The service

A service is a monitor behind a server. Its start sets the log level, binds the address and
registers the hooks that take it down again: the server first, then the monitor.
-/
namespace Telemetry

/-- A service with the port it was bound to: a number, or the name of a port that was chosen for
it. -/
structure Service where
  settings : Settings.Runtime
  server : Web.Server
  monitor : Monitor
  port : Datum
  listening : Bool := true

namespace Service

open Shutdown (Hook Registry)

/-- Lets go of the socket of the monitor. -/
def closeMonitor (net : Metric.Network) : Hook Service := fun _ s =>
  let step := s.monitor.close net
  { state := { s with monitor := step.monitor }, logs := step.logs }

/-- Stops listening, which a service can do once. -/
def closeServer : Hook Service := fun _ s =>
  if s.listening then { state := { s with listening := false } }
  else { state := s, failure := some (.plain "Server is not running.") }

def startingEntry (settings : Settings.Runtime) : Log.Entry :=
  { source := .root, level := .info, message := "Bootstrap starting"
    fields := [("app", .text settings.appName)] }

def completedEntry (s : Service) : Log.Entry :=
  let observability := s.monitor.settings
  { source := .root, level := .info, message := "Bootstrap completed"
    fields := [("port", s.port),
      ("prometheusPath",
        if observability.prometheusEnabled then .text observability.prometheusPath else .null),
      ("healthPath", .text s.settings.server.healthPath)] }

/-- What a start depends on besides the settings: the wall clock, and the port that binding the
address gives. -/
structure Setup where
  routes : List Web.Route := []
  startedAt : Number
  net : Metric.Network := {}
  bound : Except Failure Datum

/-- The service once its address is bound. -/
def ofPort (settings : Settings.Runtime) (setup : Setup) (port : Datum) : Service :=
  { settings := settings
    server := Web.Server.ofSettings settings.server setup.routes
    monitor := Monitor.start settings.observability setup.startedAt
    port := port }

/-- Adds the hooks of a service to those that are there. -/
def register {σ : Type} (net : Metric.Network) (hooks : Registry σ) : Registry (σ × Service) :=
  let kept : Registry (σ × Service) := hooks.map fun entry => (entry.1, Hook.onFirst entry.2)
  (kept.register "observability" (Hook.onSecond (closeMonitor net))).register "http"
    (Hook.onSecond closeServer)

/-- Starts a service. An unknown log level stops the start before anything is logged, and an
address that cannot be bound stops it before any hook is registered. -/
def start {σ : Type} (settings : Settings.Runtime) (setup : Setup) (hooks : Registry σ)
    (journal : Log.Journal) :
    Log.Journal × Except Failure (Service × Registry (σ × Service)) :=
  match journal.setLevel settings.logLevel with
  | .error failure => (journal, .error failure)
  | .ok journal =>
    let journal := journal.write [startingEntry settings]
    match setup.bound with
    | .error failure => (journal, .error failure)
    | .ok port =>
      let service := ofPort settings setup port
      (journal.write [Web.listeningEntry port settings.server.host, service.completedEntry],
        .ok (service, register setup.net hooks))

def failedEntry (failure : Failure) : Log.Entry :=
  { source := .root, level := .error, message := "Bootstrap failed"
    fields := [("err", failure.datum)] }

/-- Starts a service on its own, without other hooks. A failure is logged. -/
def launch (settings : Settings.Runtime) (setup : Setup) (journal : Log.Journal) :
    Log.Journal × Option Service :=
  match start settings setup ([] : Registry Unit) journal with
  | (journal, .error failure) => (journal.write [failedEntry failure], none)
  | (journal, .ok (service, _)) => (journal, some service)

end Service

end Telemetry
