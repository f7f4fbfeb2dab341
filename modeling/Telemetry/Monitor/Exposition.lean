import Telemetry.Monitor.Basic

/-! # The exposition of a monitor -/
namespace Telemetry.Monitor

open Telemetry.Metric (LabelKey)

def routeLabels : List String := ["method", "path"]

/-- One sample for each alert, under the name of the alert. -/
def alertSamples (pick : Alert.Kind → Number) : List (LabelKey × Number) :=
  Alert.Kind.all.map fun alert => ([alert.name], pick alert)

def counterFamily (s : Metric.Snapshot) (name help : String) (labels : List String) :
    List String :=
  Metric.counterLines ⟨name, help, labels⟩ ((s.counters.get? name).getD [])

def histogramFamily (s : Metric.Snapshot) (name help : String) : List String :=
  Metric.histogramLines ⟨name, help, routeLabels⟩
    (((s.histograms.get? name).getD []).map fun h => (h.1, h.2.sample))

/-- The lines of all families. -/
def lines (m : Monitor) (uptime : Number) : List String :=
  let s := m.store.snapshot
  counterFamily s requestsTotal "Total HTTP requests." ["method", "path", "status_class"] ++
  counterFamily s requestErrorsTotal "Total HTTP 5xx requests." routeLabels ++
  histogramFamily s requestDuration "HTTP request duration in milliseconds." ++
  counterFamily s databaseCallsTotal "Total DB calls per request path." routeLabels ++
  counterFamily s cacheHitsTotal "Total DB cache hits per request path." routeLabels ++
  counterFamily s databaseErrorsTotal "Total DB errors per request path." routeLabels ++
  histogramFamily s databaseDuration "Total DB duration in milliseconds per request." ++
  Metric.counterLines ⟨"tvendor_alert_breaches_total",
      "Total number of alert threshold breaches.", ["alert"]⟩
    (alertSamples fun alert => Number.ofNat (m.alerts.get alert).breachCount) ++
  Metric.gaugeLines ⟨"tvendor_alert_active", "Alert active state (1 active, 0 inactive).",
      ["alert"]⟩
    (alertSamples fun alert => Number.ofNat (m.alerts.get alert).active) ++
  Metric.gaugeLines ⟨"tvendor_uptime_seconds", "Process uptime in seconds.", []⟩ [([], uptime)]

/-- The whole text, each line ended by a line feed; empty where the exposition is off. -/
def render (m : Monitor) (wallClock : Metric.Reading) : Except Failure String :=
  if m.settings.prometheusEnabled then
    match wallClock with
    | .error failure => .error failure
    | .ok now => .ok (String.intercalate "\n" (m.lines (m.uptime now) ++ [""]))
  else .ok ""

end Telemetry.Monitor
