import Telemetry.Probe
import Telemetry.Proofs.Json.RoundTrip
import Telemetry.Proofs.Monitor.Exposition
import Telemetry.Proofs.Monitor.Window
import Telemetry.Proofs.Web.Endpoints

/-! # One verdict in every view

Whether any alert is active can be seen in four places: in the health of the monitor, in the gauges
of its exposition, in the answer of the health endpoint, and in the end of a probe that fetched this
answer. All of them derive it from the states of the alerts, two of them through a text, and they
always agree.
-/
namespace Telemetry.Monitor
open Telemetry.Metric (Store Family Block Series numberBlock wholeText valueText samples?)
open Telemetry.Number (exactLimit)

/-- The series of one alert. -/
def alertSeries (f : Family) (alert : Alert.Kind) (value : String) : Series :=
  ⟨f.name, [("alert", alert.name)], value⟩

/-- What an exposition shows of the alerts: one gauge and one counter for each alert, in the order
of the names, with the alerts that the health lists and the breaches that it counts. -/
structure ShowsAlerts (h : Health) (doc : List Series) : Prop where
  gauges : doc.filter (fun s => s.name = activeFamily.name) = Alert.Kind.sorted.map fun alert =>
    alertSeries activeFamily alert (if alert ∈ h.activeAlerts then "1" else "0")
  breaches : doc.filter (fun s => s.name = breachesFamily.name) = Alert.Kind.sorted.map fun alert =>
    alertSeries breachesFamily alert (wholeText (Number.ofNat (h.alertBreachesTotal.get alert)))

theorem alertBreachesTotal_get (m : Monitor) (now : Number) (alert : Alert.Kind) :
    (m.healthAt now).alertBreachesTotal.get alert = (m.alerts.get alert).breachCount :=
  Alert.PerAlert.get_tabulate _ alert

section Exposition

variable {m : Monitor} {calls : List Call}
  (hstore : m.store = ({} : Store).applyAll (changes calls))
include hstore

/-- The series of a family that has one sample for each alert. -/
theorem filter_alertSamples {f : Family} (hlabels : f.labels = ["alert"]) {kind : String}
    {text : Number → String} {pick : Alert.Kind → Number} {uptime : Number}
    (hblock : numberBlock f kind text (alertSamples pick) ∈ m.blocks uptime) :
    ((m.blocks uptime).flatMap Block.rows).filter (fun s => s.name = f.name) =
      Alert.Kind.sorted.map fun alert => alertSeries f alert (text (pick alert)) := by
  rw [Metric.filter_block (blocks_sound hstore uptime) (nodup_names m uptime) hblock
    List.mem_cons_self, numberBlock, Metric.filter_plainBlock, alertSamples, sortSeries_alerts,
    List.map_map, List.map_map, hlabels]
  rfl

/-- The exposition and the health of a monitor show the same alerts. -/
theorem showsAlerts_blocks (uptime now : Number) :
    ShowsAlerts (m.healthAt now) ((m.blocks uptime).flatMap Block.rows) := by
  constructor
  case gauges =>
    have hblock : numberBlock activeFamily "gauge" valueText m.activity ∈ m.blocks uptime := by
      simp [blocks]
    have htext : ∀ flag : Fin 2,
        valueText (Number.ofNat flag) = if flag = 1 then "1" else "0" := by decide +kernel
    refine (filter_alertSamples hstore rfl hblock).trans (List.map_congr_left fun alert _ => ?_)
    have hactive : alert ∈ (m.healthAt now).activeAlerts ↔ (m.alerts.get alert).active = 1 :=
      Alert.mem_active_iff m.alerts alert
    rw [htext]
    simp only [hactive]
  case breaches =>
    have hblock : numberBlock breachesFamily "counter" wholeText m.breaches ∈ m.blocks uptime := by
      simp [blocks]
    refine (filter_alertSamples hstore rfl hblock).trans (List.map_congr_left fun alert _ => ?_)
    rw [alertBreachesTotal_get]

end Exposition

namespace ShowsAlerts

variable {h : Health} {doc : List Series} (hshows : ShowsAlerts h doc)
include hshows

/-- The gauges of an exposition are all zero exactly if no alert is listed. -/
theorem gauges_zero_iff :
    (∀ s ∈ doc, s.name = activeFamily.name → s.value = "0") ↔ h.activeAlerts = [] := by
  have hfilter : (∀ s ∈ doc, s.name = activeFamily.name → s.value = "0") ↔
      ∀ s ∈ doc.filter (fun s => s.name = activeFamily.name), s.value = "0" := by
    simp only [List.mem_filter, decide_eq_true_eq, and_imp]
  rw [hfilter, hshows.gauges, List.forall_mem_map, List.eq_nil_iff_forall_not_mem]
  refine ⟨fun hzero alert hactive => ?_, fun hnone alert _ => ?_⟩
  · have hvalue := hzero alert (by cases alert <;> decide)
    have hne : ("1" : String) ≠ "0" := by decide
    rw [alertSeries, if_pos hactive] at hvalue
    exact absurd hvalue hne
  · rw [alertSeries, if_neg (hnone alert)]

/-- A scraper reads the breaches that the health counts. -/
theorem samples?_breaches (hcount : ∀ alert, h.alertBreachesTotal.get alert < exactLimit) :
    samples? breachesFamily.name doc =
      some (Alert.Kind.sorted.map fun alert => ([alert.name], h.alertBreachesTotal.get alert)) :=
  Metric.samples?_eq _ hshows.breaches fun alert _ => ⟨rfl, Metric.wholeText_ofNat (hcount alert)⟩

end ShowsAlerts

/-- The alerts are listed in the strict order of their names. -/
theorem active_ascending (states : Alert.States) :
    (Alert.active states).Pairwise fun a b => Text.compare a.name b.name = .lt := by
  have hsorted : Alert.Kind.sorted.Pairwise fun a b => Text.compare a.name b.name = .lt := by
    decide +kernel
  exact hsorted.sublist List.filter_sublist

end Telemetry.Monitor

namespace Telemetry.Health

theorem status_eq_ok_iff (h : Health) : h.status = "ok" ↔ h.activeAlerts = [] := by
  rw [status, activeAlertCount, ← List.length_eq_zero_iff]
  split
  · rename_i hpos
    exact iff_of_false (by decide) hpos.ne'
  · rename_i hpos
    exact iff_of_true rfl (Nat.eq_zero_of_not_pos hpos)

/-- The status of a health is still in its place after the text was read. -/
theorem received_payload (h : Health) : Json.received h.payload =
    .record [("status", .text h.status), ("observability", Json.received h.datum)] := by
  have hmembers : Json.arrangeMembers
      [("status", .text h.status), ("observability", Json.received h.datum)] =
        [("status", .text h.status), ("observability", Json.received h.datum)] := by
    refine Json.arrangeMembers_eq_self (by simp) ?_
    simp only [List.forall_mem_cons]
    exact ⟨by decide +kernel, by decide +kernel, by simp⟩
  exact congrArg Datum.record hmembers

end Telemetry.Health

namespace Telemetry.Probe

theorem isHealthy_iff (answer : Fetched) :
    answer.isHealthy = true ↔
      answer.status.eq 200 = true ∧ answer.payload.get "status" = .text "ok" := by
  rw [Fetched.isHealthy, Bool.and_eq_true, beq_iff_eq]
  refine and_congr_right fun _ => ?_
  cases answer.payload.get "status" <;> simp [Datum.text?]

/-- A probe that fetches an answer ends with zero exactly if the answer says that all is well. -/
theorem code_run_eq_zero_iff {argv : List String} {usual : String}
    {fetch : String → Except Failure Fetched} {answer : Fetched}
    (herrors : (Arguments.parse argv).errors = []) (hhelp : (Arguments.parse argv).help = false)
    (hfetch : fetch ((Arguments.parse argv).url.getD usual) = .ok answer) :
    (run argv usual fetch).code = 0 ↔ answer.isHealthy = true := by
  unfold run
  dsimp only
  rw [herrors, hhelp, hfetch, report]
  simp

end Telemetry.Probe

namespace Telemetry.Web
open Telemetry.Monitor (ShowsAlerts activeFamily breachesFamily)
open Telemetry.Metric (Series samples? scrape?)
open Telemetry.Number (exactLimit)

/-- All views of the alerts give the verdict that none is active, or none of them does. -/
structure Agree (h : Health) (reply : Reply) (payload : Datum) (doc : List Series) : Prop where
  answer : reply.status = 200 ∧ payload.get "status" = .text "ok" ↔ h.activeAlerts = []
  gauges : (∀ s ∈ doc, s.name = activeFamily.name → s.value = "0") ↔ h.activeAlerts = []
  count : h.activeAlertCount = 0 ↔ h.activeAlerts = []
  probe : ∀ argv usual fetch, (Probe.Arguments.parse argv).errors = [] →
    (Probe.Arguments.parse argv).help = false →
    fetch ((Probe.Arguments.parse argv).url.getD usual) =
      .ok ⟨Number.ofInt reply.status, payload⟩ →
    ((Probe.run argv usual fetch).code = 0 ↔ h.activeAlerts = [])

theorem agree_health (h : Health) {doc : List Series} (hshows : ShowsAlerts h doc) {reply : Reply}
    (hstatus : reply.status = 200) : Agree h reply (Json.received h.payload) doc := by
  have hpayload : (Json.received h.payload).get "status" = .text h.status := by
    rw [h.received_payload]
    rfl
  have hanswer : (Json.received h.payload).get "status" = .text "ok" ↔ h.activeAlerts = [] := by
    rw [hpayload, Datum.text.injEq, h.status_eq_ok_iff]
  have hfine : (Number.ofInt 200).eq 200 = true := by decide +kernel
  refine ⟨?_, hshows.gauges_zero_iff, List.length_eq_zero_iff, fun argv usual fetch herrors hhelp
    hfetch => ?_⟩
  · rw [hanswer, and_iff_right hstatus]
  · rw [Probe.code_run_eq_zero_iff herrors hhelp hfetch, Probe.isHealthy_iff, hanswer, hstatus,
      and_iff_right hfine]

/-- After any run of requests the answer of the health endpoint, the gauges of the exposition, the
health of the monitor and the end of a probe that fetched the answer give one verdict, at any
readings of the wall clock. The health lists the alerts with gauge one in the strict order of their
names, and it counts the breaches that the exposition shows: each count is printed as a whole
number, which a scraper reads back below `2 ^ 53`. -/
theorem verdicts_agree (settings : Settings.Observability) (startedAt : Number)
    (calls : List Monitor.Call) (s : EndpointSettings) (path : String) (headers : Headers)
    (now later : Number) (hon : settings.prometheusEnabled = true)
    (hpath : s.healthPath = some path) :
    let m := (Monitor.start settings startedAt).run calls
    ∃ h reply payload text doc, m.health (.ok now) = .ok h ∧
      handle s m (.ok now) "GET" path headers = .ok (some (.health, reply)) ∧
      Json.read? reply.body = some payload ∧
      m.render (.ok later) = .ok text ∧ scrape? text = some doc ∧
      Agree h reply payload doc ∧ ShowsAlerts h doc ∧
      (h.activeAlerts.Pairwise fun a b => Text.compare a.name b.name = .lt) ∧
      (calls.length < exactLimit → samples? breachesFamily.name doc = some
        (Alert.Kind.sorted.map fun alert => ([alert.name], h.alertBreachesTotal.get alert))) := by
  intro m
  have hsettings : m.settings.prometheusEnabled = true := by
    rw [Monitor.run_settings]
    exact hon
  have hstore := Monitor.store_run_start settings startedAt calls
  have hsound := Monitor.blocks_sound hstore (m.uptime later)
  have hshows := Monitor.showsAlerts_blocks hstore (m.uptime later) now
  have hread : scrape? (String.intercalate "\n" (m.lines (m.uptime later) ++ [""])) =
      some ((m.blocks (m.uptime later)).flatMap Metric.Block.rows) := by
    rw [Monitor.lines_eq]
    exact Metric.scrape?_blocks hsound
  have hhandle : handle s m (.ok now) "GET" path headers = .ok (some (.health,
      { status := 200, contentType := "application/json; charset=utf-8"
        body := Json.write (m.healthAt now).payload })) := by
    rw [handle_eq, (owner?_eq_health_iff rfl).mpr hpath]
    rfl
  refine ⟨_, _, _, _, _, rfl, hhandle, Json.read?_write _, if_pos hsettings, hread,
    agree_health _ hshows rfl, hshows, Monitor.active_ascending m.alerts,
    fun hlength => hshows.samples?_breaches fun alert => ?_⟩
  rw [Monitor.alertBreachesTotal_get]
  exact (Monitor.breachCount_run_start_le settings startedAt calls alert).trans_lt hlength

/-- Two failed requests in the window: the answer has status 200 and says that something is active,
the only gauge that is one is that of the alert on errors, and a probe fails. -/
theorem verdicts_agree_of_two_failures :
    let settings := Settings.Observability.resolve Monitor.tenSecondWindow
    let s : EndpointSettings :=
      { healthPath := some "/api/health", allowUnauthenticated := false, authToken := "" }
    let m := (Monitor.start settings 0).run
      [⟨Monitor.failedRequest, .ok 0, .calm⟩, ⟨Monitor.failedRequest, .ok 1000, .calm⟩]
    (settings.prometheusEnabled = true ∧ s.healthPath = some "/api/health") ∧
    ∃ h reply payload text doc, m.health (.ok 2000) = .ok h ∧ h.activeAlerts = [.errorRate] ∧
      handle s m (.ok 2000) "GET" "/api/health" [] = .ok (some (.health, reply)) ∧
      Json.read? reply.body = some payload ∧
      ¬ (reply.status = 200 ∧ payload.get "status" = .text "ok") ∧
      m.render (.ok 3000) = .ok text ∧ scrape? text = some doc ∧
      doc.filter (fun s => s.name = activeFamily.name) =
        [Monitor.alertSeries activeFamily .databaseAvg "0",
          Monitor.alertSeries activeFamily .errorRate "1",
          Monitor.alertSeries activeFamily .requestP95 "0"] ∧
      samples? breachesFamily.name doc =
        some [(["db_avg_ms"], 0), (["error_rate_pct"], 1), (["request_p95_ms"], 0)] ∧
      (Probe.run ["--pretty"] "" fun _ => .ok ⟨Number.ofInt reply.status, payload⟩).code ≠ 0 := by
  intro settings s m
  have hon : settings.prometheusEnabled = true := by decide +kernel
  obtain ⟨h, reply, payload, text, doc, hhealth, hhandle, hread, hrender, hscrape, hagree, hshows,
    -, hbreaches⟩ := verdicts_agree settings 0
      [⟨Monitor.failedRequest, .ok 0, .calm⟩, ⟨Monitor.failedRequest, .ok 1000, .calm⟩] s "/api/health" []
      2000 3000 hon rfl
  obtain rfl : m.healthAt 2000 = h := Except.ok.inj hhealth
  have hactive : (m.healthAt 2000).activeAlerts = [.errorRate] := by decide +kernel
  have hne : ¬ (m.healthAt 2000).activeAlerts = [] := by
    rw [hactive]
    decide
  have hgauges := hshows.gauges
  rw [hactive] at hgauges
  refine ⟨⟨hon, rfl⟩, _, reply, payload, text, doc, hhealth, hactive, hhandle, hread,
    fun hok => hne (hagree.answer.mp hok), hrender, hscrape, hgauges, ?_, ?_⟩
  · rw [hbreaches (by decide)]
    decide +kernel
  · rw [Ne, hagree.probe ["--pretty"] "" _ rfl rfl rfl]
    exact hne

end Telemetry.Web
