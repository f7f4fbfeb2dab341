import Telemetry.Metric.Amount
import Telemetry.Metric.Exposition
import Telemetry.Metric.Label
import Telemetry.Settings.Basic

/-! # The monitor

A monitor takes one observation for each finished request. It counts the request in the store,
moves the alert window to the present and evaluates the alerts, and sends the counts to the sink.
A failure on the way is logged and ends the recording; what was counted before it stays counted.
-/
namespace Telemetry.Monitor

open Telemetry.Metric (LabelKey)

/-- A finished request as it is reported, still untyped. -/
structure Observation where
  method : Datum
  path : Datum
  statusCode : Datum
  elapsedMs : Datum
  databaseCalls : Datum := .absent
  databaseMs : Datum := .absent
  cacheHits : Datum := .absent
  databaseErrors : Datum := .absent

/-- An observation with its labels cleaned and its amounts clamped. -/
structure Tally where
  method : String
  path : String
  statusClass : String
  isError : Bool
  totalMs : Number
  databaseCalls : Number
  databaseMs : Number
  cacheHits : Number
  databaseErrors : Number

def Observation.tally (o : Observation) : Tally :=
  { method := Metric.methodLabel o.method
    path := Metric.pathLabel o.path
    statusClass := Metric.statusClass o.statusCode
    isError := Metric.isServerError o.statusCode
    totalMs := Metric.amount o.elapsedMs
    databaseCalls := Metric.wholeAmount o.databaseCalls
    databaseMs := Metric.amount o.databaseMs
    cacheHits := Metric.wholeAmount o.cacheHits
    databaseErrors := Metric.wholeAmount o.databaseErrors }

def Tally.key (t : Tally) : LabelKey := [t.method, t.path]

def requestsTotal : String := "tvendor_http_requests_total"

def requestErrorsTotal : String := "tvendor_http_request_errors_total"

def requestDuration : String := "tvendor_http_request_duration_ms"

def databaseCallsTotal : String := "tvendor_db_calls_total"

def cacheHitsTotal : String := "tvendor_db_cache_hits_total"

def databaseErrorsTotal : String := "tvendor_db_errors_total"

def databaseDuration : String := "tvendor_db_duration_ms"

def positive (x : Number) : Bool := Number.lt 0 x

/-- Adds to a counter what is above zero. -/
def countPositive (store : Metric.Store) (metric : String) (key : LabelKey) (amount : Number) :
    Metric.Store :=
  if positive amount then store.increment metric key amount else store

/-- The store with one more request. -/
def Tally.count (t : Tally) (store : Metric.Store) : Metric.Store :=
  let store := store.increment requestsTotal [t.method, t.path, t.statusClass] 1
  let store := store.observe requestDuration t.key t.totalMs Metric.requestBounds
  let store := if t.isError then store.increment requestErrorsTotal t.key 1 else store
  let store := countPositive store databaseCallsTotal t.key t.databaseCalls
  let store :=
    if positive t.databaseCalls && positive t.databaseMs then
      store.observe databaseDuration t.key t.databaseMs Metric.databaseBounds
    else store
  let store := countPositive store cacheHitsTotal t.key t.cacheHits
  countPositive store databaseErrorsTotal t.key t.databaseErrors

/-- What one request sends to the sink. -/
def Tally.emissions (t : Tally) : List Metric.Emission :=
  [.counter "http.requests_total" 1,
    .counter ("http.status_" ++ t.statusClass) 1,
    .timing "http.request_duration_ms" t.totalMs] ++
  (if t.isError then [.counter "http.request_errors_total" 1] else []) ++
  (if positive t.databaseCalls then [.counter "db.calls_total" t.databaseCalls] else []) ++
  (if positive t.databaseCalls && positive t.databaseMs then
    [.timing "db.duration_ms" t.databaseMs] else []) ++
  (if positive t.cacheHits then [.counter "db.cache_hits_total" t.cacheHits] else []) ++
  (if positive t.databaseErrors then [.counter "db.errors_total" t.databaseErrors] else [])

def alertRules (s : Settings.Observability) : Alert.Rules :=
  { thresholds := s.thresholds
    minRequests := s.alertMinRequests
    cooldownSec := s.alertCooldownSec
    windowSec := s.alertWindowSec }

end Telemetry.Monitor

namespace Telemetry

/-- The state of all measurements. -/
structure Monitor where
  settings : Settings.Observability
  startedAt : Number
  store : Metric.Store := {}
  window : Alert.Window := {}
  alerts : Alert.States := .initial
  sink : Metric.Sink

namespace Monitor

open Telemetry.Metric (Network Reading SocketAction Trials)

/-- A monitor started at a reading of the wall clock. -/
def start (settings : Settings.Observability) (startedAt : Number) : Monitor :=
  { settings := settings, startedAt := startedAt, sink := { settings := settings.statsd } }

/-- The monitor after a step, with what the step did to sockets and wrote to the log. -/
structure Step where
  monitor : Monitor
  actions : List SocketAction := []
  logs : List Log.Entry := []

/-- Appends a sample, drops the samples that are too old, and evaluates the alerts. -/
def updateAlerts (m : Monitor) (t : Tally) (now : Number) : Step :=
  let sample : Alert.Sample :=
    { timestamp := now, requestMs := t.totalMs, isError := t.isError, databaseMs := t.databaseMs }
  let window := (m.window.append sample).evict (now - m.settings.alertWindowSec * 1000)
  let (alerts, logs) := Alert.evaluate (alertRules m.settings) window.samples now m.alerts
  { monitor := { m with window := window, alerts := alerts }, logs := logs }

def failedEntry (failure : Failure) : Log.Entry :=
  { source := .metrics, level := .error, message := "Failed to record request metrics"
    fields := [("err", failure.datum)] }

/-- Sends the counts of a request, where metrics and the sink are on. -/
def forward (m : Monitor) (t : Tally) (trials : Trials) : Step :=
  if m.settings.metricsEnabled && m.sink.settings.enabled then
    let step := m.sink.performAll trials t.emissions
    { monitor := { m with sink := step.sink }
      actions := step.actions
      logs := step.logs ++ (step.failure.map failedEntry).toList }
  else { monitor := m }

/-- Records one request. The clock is read for the alerts, and again by each emission that has a
failure to report. -/
def record (m : Monitor) (o : Observation) (clock : Reading) (trials : Trials) : Step :=
  let t := o.tally
  let m := if m.settings.metricsEnabled then { m with store := t.count m.store } else m
  if m.settings.alertsEnabled then
    match clock with
    | .error failure => { monitor := m, logs := [failedEntry failure] }
    | .ok now =>
      let alerted := m.updateAlerts t now
      let forwarded := alerted.monitor.forward t trials
      { forwarded with logs := alerted.logs ++ forwarded.logs }
  else m.forward t trials

def close (m : Monitor) (net : Network) : Step :=
  let step := m.sink.close net
  { monitor := { m with sink := step.sink }, actions := step.actions, logs := step.logs }

/-- Whole seconds since the start, never below zero. -/
def uptime (m : Monitor) (now : Number) : Number :=
  Number.maximum 0 ((now - m.startedAt) / 1000).floor

end Monitor

end Telemetry
