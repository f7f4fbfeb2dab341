import Telemetry.Alert.Evaluator
import Telemetry.Metric.Sink
import Telemetry.Settings.Reader

/-! # Settings of the program

`Runtime.resolve` turns any untyped tree into settings within their bounds, and `Runtime.datum`
is the tree of resolved settings.
-/
namespace Telemetry.Settings

def defaultPrometheusPath : String := "/api/metrics"

def defaultHealthPath : String := "/api/health"

structure Observability where
  metricsEnabled : Bool
  prometheusEnabled : Bool
  prometheusPath : String
  alertsEnabled : Bool
  alertWindowSec : Number
  alertMinRequests : Number
  alertCooldownSec : Number
  thresholds : Alert.PerAlert Number
  statsd : Metric.SinkSettings

structure Server where
  host : String
  port : Number
  healthPath : String
  metricsAllowUnauthenticated : Bool
  metricsAuthToken : String
  perfLogEnabled : Bool
  requestIdHeaderEnabled : Bool
  slowQueryMs : Number

structure Runtime where
  appName : String
  logLevel : String
  server : Server
  observability : Observability

def Observability.resolve (raw : Datum) : Observability :=
  let thresholds := raw.get "thresholds"
  let statsd := raw.get "statsd"
  let metricsEnabled := readFlag (raw.get "metricsEnabled") true
  { metricsEnabled := metricsEnabled
    prometheusEnabled := metricsEnabled && readFlag (raw.get "prometheusEnabled") true
    prometheusPath := readPath (raw.get "prometheusPath") defaultPrometheusPath
    alertsEnabled := readFlag (raw.get "alertsEnabled") true
    alertWindowSec := readNumber (raw.get "alertWindowSec") 300 { least := some 10, whole := true }
    alertMinRequests :=
      readNumber (raw.get "alertMinRequests") 20 { least := some 1, whole := true }
    alertCooldownSec :=
      readNumber (raw.get "alertCooldownSec") 300 { least := some 10, whole := true }
    thresholds :=
      { requestP95 := readNumber (thresholds.get "requestP95Ms") 0 { least := some 0 }
        errorRate := readNumber (thresholds.get "errorRatePct") 0 { least := some 0 }
        databaseAvg := readNumber (thresholds.get "dbAvgMs") 0 { least := some 0 } }
    statsd :=
      { enabled := readFlag (statsd.get "enabled") false
        host := readText (statsd.get "host") "127.0.0.1"
        port := readNumber (statsd.get "port") 8125
          { least := some 1, most := some 65535, whole := true }
        scope := Metric.cleanScope ((statsd.get "prefix").text?.getD "") } }

def Server.resolve (raw : Datum) : Server :=
  { host := readText (raw.get "host") "0.0.0.0"
    port := readNumber (raw.get "port") 8000 { least := some 0, most := some 65535, whole := true }
    healthPath := readPath (raw.get "healthPath") defaultHealthPath
    metricsAllowUnauthenticated := readFlag (raw.get "metricsAllowUnauthenticated") true
    metricsAuthToken := Text.trim ((raw.get "metricsAuthToken").text?.getD "")
    perfLogEnabled := readFlag (raw.get "perfLogEnabled") false
    requestIdHeaderEnabled := readFlag (raw.get "requestIdHeaderEnabled") true
    slowQueryMs := readNumber (raw.get "slowQueryMs") 750 { least := some 1 } }

def Runtime.resolve (raw : Datum) : Runtime :=
  { appName := readText ((raw.get "app").get "name") "vendorcat"
    logLevel := readText ((raw.get "logging").get "level") "info"
    server := Server.resolve (raw.get "server")
    observability := Observability.resolve (raw.get "observability") }

def Observability.datum (s : Observability) : Datum :=
  .record [
    ("metricsEnabled", .flag s.metricsEnabled),
    ("prometheusEnabled", .flag s.prometheusEnabled),
    ("prometheusPath", .text s.prometheusPath),
    ("alertsEnabled", .flag s.alertsEnabled),
    ("alertWindowSec", .number s.alertWindowSec),
    ("alertMinRequests", .number s.alertMinRequests),
    ("alertCooldownSec", .number s.alertCooldownSec),
    ("thresholds", .record [
      ("requestP95Ms", .number s.thresholds.requestP95),
      ("errorRatePct", .number s.thresholds.errorRate),
      ("dbAvgMs", .number s.thresholds.databaseAvg)]),
    ("statsd", .record [
      ("enabled", .flag s.statsd.enabled),
      ("host", .text s.statsd.host),
      ("port", .number s.statsd.port),
      ("prefix", .text s.statsd.scope)])]

def Server.datum (s : Server) : Datum :=
  .record [
    ("host", .text s.host),
    ("port", .number s.port),
    ("healthPath", .text s.healthPath),
    ("metricsAllowUnauthenticated", .flag s.metricsAllowUnauthenticated),
    ("metricsAuthToken", .text s.metricsAuthToken),
    ("perfLogEnabled", .flag s.perfLogEnabled),
    ("requestIdHeaderEnabled", .flag s.requestIdHeaderEnabled),
    ("slowQueryMs", .number s.slowQueryMs)]

def Runtime.datum (s : Runtime) : Datum :=
  .record [
    ("app", .record [("name", .text s.appName)]),
    ("logging", .record [("level", .text s.logLevel)]),
    ("server", s.server.datum),
    ("observability", s.observability.datum)]

/-- Hides a token that is not empty. -/
def Server.masked (s : Server) : Server :=
  { s with metricsAuthToken := if s.metricsAuthToken.isEmpty then "" else "***" }

def Runtime.masked (s : Runtime) : Runtime := { s with server := s.server.masked }

end Telemetry.Settings
