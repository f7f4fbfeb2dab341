import Telemetry.Settings.Basic

/-! # Layers of settings

The files of settings that come with the program: the built-in defaults, what tests change of them,
and the place in the tree that each variable of the environment sets.
-/
namespace Telemetry.Settings

/-- The built-in settings. -/
def defaults : Datum := (Runtime.resolve .absent).datum

/-- Tests run without log output. -/
def testLayer : Datum := .record [("logging", .record [("level", .text "silent")])]

/-- The place in the tree that each variable sets. -/
def places : List (String × List String) := [
  ("TVENDOR_LOG_LEVEL", ["logging", "level"]),
  ("HOST", ["server", "host"]),
  ("PORT", ["server", "port"]),
  ("TVENDOR_HEALTH_PATH", ["server", "healthPath"]),
  ("TVENDOR_METRICS_ALLOW_UNAUTHENTICATED", ["server", "metricsAllowUnauthenticated"]),
  ("TVENDOR_METRICS_AUTH_TOKEN", ["server", "metricsAuthToken"]),
  ("TVENDOR_PERF_LOG_ENABLED", ["server", "perfLogEnabled"]),
  ("TVENDOR_REQUEST_ID_HEADER_ENABLED", ["server", "requestIdHeaderEnabled"]),
  ("TVENDOR_SLOW_QUERY_MS", ["server", "slowQueryMs"]),
  ("TVENDOR_METRICS_ENABLED", ["observability", "metricsEnabled"]),
  ("TVENDOR_METRICS_PROMETHEUS_ENABLED", ["observability", "prometheusEnabled"]),
  ("TVENDOR_METRICS_PROMETHEUS_PATH", ["observability", "prometheusPath"]),
  ("TVENDOR_ALERTS_ENABLED", ["observability", "alertsEnabled"]),
  ("TVENDOR_ALERT_WINDOW_SEC", ["observability", "alertWindowSec"]),
  ("TVENDOR_ALERT_MIN_REQUESTS", ["observability", "alertMinRequests"]),
  ("TVENDOR_ALERT_COOLDOWN_SEC", ["observability", "alertCooldownSec"]),
  ("TVENDOR_ALERT_REQUEST_P95_MS", ["observability", "thresholds", "requestP95Ms"]),
  ("TVENDOR_ALERT_ERROR_RATE_PCT", ["observability", "thresholds", "errorRatePct"]),
  ("TVENDOR_ALERT_DB_AVG_MS", ["observability", "thresholds", "dbAvgMs"]),
  ("TVENDOR_STATSD_ENABLED", ["observability", "statsd", "enabled"]),
  ("TVENDOR_STATSD_HOST", ["observability", "statsd", "host"]),
  ("TVENDOR_STATSD_PORT", ["observability", "statsd", "port"]),
  ("TVENDOR_STATSD_PREFIX", ["observability", "statsd", "prefix"])]

end Telemetry.Settings
