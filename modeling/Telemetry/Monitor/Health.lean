import Telemetry.Monitor.Basic

/-! # The health of a monitor

The status is `degraded` while any alert is active.
-/
namespace Telemetry

structure Health where
  metricsEnabled : Bool
  prometheusEnabled : Bool
  prometheusPath : Option String
  statsdEnabled : Bool
  alertsEnabled : Bool
  alertWindowSec : Number
  alertMinRequests : Number
  alertCooldownSec : Number
  alertThresholds : Alert.PerAlert Number
  activeAlerts : List Alert.Kind
  alertBreachesTotal : Alert.PerAlert Nat
  windowSampleSize : Nat
  uptimeSeconds : Number

namespace Health

def activeAlertCount (h : Health) : Nat := h.activeAlerts.length

def status (h : Health) : String := if 0 < h.activeAlertCount then "degraded" else "ok"

/-- A record with one member for each alert. -/
def perAlert {α : Type} (p : Alert.PerAlert α) (f : α → Datum) : Datum :=
  .record (p.toList.map fun a => (a.1.name, f a.2))

def datum (h : Health) : Datum :=
  .record [
    ("metricsEnabled", .flag h.metricsEnabled),
    ("prometheusEnabled", .flag h.prometheusEnabled),
    ("prometheusPath", (h.prometheusPath.map Datum.text).getD .null),
    ("statsdEnabled", .flag h.statsdEnabled),
    ("alertsEnabled", .flag h.alertsEnabled),
    ("alertWindowSec", .number h.alertWindowSec),
    ("alertMinRequests", .number h.alertMinRequests),
    ("alertCooldownSec", .number h.alertCooldownSec),
    ("alertThresholds", perAlert h.alertThresholds .number),
    ("activeAlertCount", .ofNat h.activeAlertCount),
    ("activeAlerts", .list (h.activeAlerts.map fun alert => .text alert.name)),
    ("alertBreachesTotal", perAlert h.alertBreachesTotal .ofNat),
    ("windowSampleSize", .ofNat h.windowSampleSize),
    ("uptimeSeconds", .number h.uptimeSeconds)]

/-- What the health endpoint sends. -/
def payload (h : Health) : Datum :=
  .record [("status", .text h.status), ("observability", h.datum)]

end Health

namespace Monitor

def healthAt (m : Monitor) (now : Number) : Health :=
  { metricsEnabled := m.settings.metricsEnabled
    prometheusEnabled := m.settings.prometheusEnabled
    prometheusPath :=
      if m.settings.prometheusEnabled then some m.settings.prometheusPath else none
    statsdEnabled := m.sink.settings.enabled
    alertsEnabled := m.settings.alertsEnabled
    alertWindowSec := m.settings.alertWindowSec
    alertMinRequests := m.settings.alertMinRequests
    alertCooldownSec := m.settings.alertCooldownSec
    alertThresholds := m.settings.thresholds
    activeAlerts := Alert.active m.alerts
    alertBreachesTotal := .tabulate fun alert => (m.alerts.get alert).breachCount
    windowSampleSize := m.window.size
    uptimeSeconds := m.uptime now }

def health (m : Monitor) (wallClock : Metric.Reading) : Except Failure Health :=
  wallClock.map m.healthAt

end Monitor

end Telemetry
