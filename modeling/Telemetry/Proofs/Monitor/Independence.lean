import Telemetry.Monitor.Exposition
import Telemetry.Monitor.Health
import Telemetry.Proofs.Monitor.Run

/-! # The alerts do not depend on the exports

The store, the alerts and the sink of a monitor work one after another on every request. A run
seen from the alerts is a machine of its own that never looks at the store, the sink or the sockets,
and a run seen without its sockets is that of a monitor whose sink was never used. Two runs with the
same requests at the same times can then only differ in what these two machines leave out.
-/
namespace Telemetry.Metric

/-- A step that keeps the address of the sink and writes in the name of the metrics only. -/
structure SinkStep.Contained (s : Sink) (step : SinkStep) : Prop where
  settings : step.sink.settings = s.settings
  source : ∀ e ∈ step.logs, e.source = .metrics

section Sinks

variable (s : Sink) (t : Trial)

theorem contained_unchanged : SinkStep.Contained s { sink := s } :=
  ⟨rfl, by simp⟩

theorem report_contained (clock : Reading) (cause : Failure) : (s.report clock cause).Contained s := by
  unfold Sink.report
  cases clock with
  | error failure => exact ⟨rfl, by simp⟩
  | ok now =>
    dsimp only
    split
    · exact contained_unchanged s
    · exact ⟨rfl, by simp [Sink.warning]⟩

theorem transmit_contained (socket : Nat) (line : String) :
    (s.transmit t socket line).Contained s := by
  have hafter : ∀ (actions : List SocketAction) {step : SinkStep}, step.Contained s →
      (step.after actions).Contained s := fun _ _ h => ⟨h.settings, h.source⟩
  unfold Sink.transmit
  split
  · exact hafter _ (report_contained s t.clock _)
  · cases t.network.sendError with
    | none => exact ⟨rfl, by simp⟩
    | some message =>
      dsimp only
      apply hafter
      split
      · exact report_contained s t.clock _
      · exact report_contained s t.again _

theorem emit_contained (line : String) : (s.emit t line).Contained s := by
  unfold Sink.emit
  split
  · exact contained_unchanged s
  · cases s.held with
    | some socket => exact transmit_contained s t socket line
    | none =>
      dsimp only
      split
      · obtain ⟨hsettings, hsource⟩ := report_contained s t.clock (.plain "no sockets left")
        exact ⟨hsettings, hsource⟩
      · obtain ⟨hsettings, hsource⟩ := transmit_contained
          { s with held := some (s.opened + 1), opened := s.opened + 1 } t (s.opened + 1) line
        exact ⟨hsettings, hsource⟩

theorem perform_contained (e : Emission) : (s.perform t e).Contained s := by
  have hline : ∀ line, (s.emit? t line).Contained s := by
    intro line
    cases line with
    | none => exact contained_unchanged s
    | some line => exact emit_contained s t line
  cases e with
  | counter name value => exact hline _
  | timing name ms => exact hline _

/-- No trial makes the sink forget its address or write as somebody else. -/
theorem performAll_contained (trials : Trials) (es : List Emission) :
    (s.performAll trials es).Contained s := by
  induction es generalizing s trials with
  | nil => exact contained_unchanged s
  | cons e rest ih =>
    obtain ⟨hsettings, hsource⟩ := perform_contained s (trials 0) e
    obtain ⟨hrest, hothers⟩ := ih (s.perform (trials 0) e).sink fun n => trials (n + 1)
    unfold Sink.performAll
    dsimp only
    split
    · exact ⟨hsettings, hsource⟩
    · refine ⟨hrest.trans hsettings, fun entry hentry => ?_⟩
      rcases List.mem_append.mp hentry with h | h
      · exact hsource entry h
      · exact hothers entry h

theorem socketError_contained (clock : Reading) (message : String) :
    (s.socketError clock message).Contained s := by
  unfold Sink.socketError
  split
  · exact contained_unchanged s
  · exact report_contained s clock _

theorem close_contained (net : Network) : (s.close net).Contained s := by
  unfold Sink.close
  cases s.held with
  | none => exact contained_unchanged s
  | some socket =>
    refine ⟨rfl, fun entry hentry => ?_⟩
    dsimp only at hentry
    split at hentry
    · rw [List.mem_singleton.mp hentry]
    · exact absurd hentry List.not_mem_nil

end Sinks

end Telemetry.Metric

namespace Telemetry.Alert

theorem source_advance (rules : Rules) (alert : Kind) (f : Finding) (n : Nat) (now : Number)
    (s : State) : ∀ e ∈ (advance rules alert f n now s).2, e.source = .alerts := by
  unfold advance
  split
  · split <;> simp [breachEntry]
  · split <;> simp [recoveryEntry]

theorem source_evaluate (rules : Rules) (samples : List Sample) (now : Number) (states : States) :
    ∀ e ∈ (evaluate rules samples now states).2, e.source = .alerts := by
  intro e he
  obtain ⟨alert, -, he⟩ := List.mem_flatMap.mp he
  exact source_advance rules alert _ _ now _ e he

end Telemetry.Alert

namespace Telemetry.Monitor
open Telemetry.Metric (Network Reading Trials)

/-- What a request asks of a monitor, without the sockets that it meets. -/
structure Demand where
  observation : Observation
  clock : Reading

def Call.demand (c : Call) : Demand := ⟨c.observation, c.clock⟩

/-- What reaches a monitor. Between requests a socket may report an error of its own or of a
transmission that was still on its way, and the sink may be closed. -/
inductive Event where
  | request (call : Call)
  | socketError (now : Number) (message : String)
  | close (network : Network)

def Event.demand? : Event → Option Demand
  | .request call => some call.demand
  | .socketError _ _ => none
  | .close _ => none

/-- The requests of a history. -/
def demands (events : List Event) : List Demand := events.filterMap Event.demand?

def handle (m : Monitor) : Event → Step
  | .request c => m.record c.observation c.clock c.trials
  | .socketError now message =>
    let step := m.sink.socketError (.ok now) message
    { monitor := { m with sink := step.sink }, actions := step.actions, logs := step.logs }
  | .close net => m.close net

/-- A monitor with all that it has written to the log. -/
structure Session where
  monitor : Monitor
  log : List Log.Entry := []

namespace Session

def take (s : Session) (e : Event) : Session :=
  { monitor := (s.monitor.handle e).monitor, log := s.log ++ (s.monitor.handle e).logs }

/-- The session after each request of a history. -/
def afterRequests (s : Session) : List Event → List Session
  | [] => []
  | e :: rest =>
    match e.demand? with
    | some _ => s.take e :: (s.take e).afterRequests rest
    | none => (s.take e).afterRequests rest

end Session

def isAlerting (e : Log.Entry) : Bool := decide (e.source = .alerts)

section Alerting

/-- The part of a session that belongs to the alerts, with the lines they have written. -/
structure Alerting where
  window : Alert.Window
  alerts : Alert.States
  log : List Log.Entry

def Session.alerting (s : Session) : Alerting :=
  ⟨s.monitor.window, s.monitor.alerts, s.log.filter isAlerting⟩

/-- One request as the alerts see it. -/
def Alerting.observe (rules : Alert.Rules) (a : Alerting) (d : Demand) : Alerting :=
  match d.clock with
  | .error _ => a
  | .ok now =>
    let window := (a.window.append (d.observation.sample now)).evict (now - rules.windowSec * 1000)
    let (alerts, lines) := Alert.evaluate rules window.samples now a.alerts
    ⟨window, alerts, a.log ++ lines⟩

def Alerting.observeAll (enabled : Bool) (rules : Alert.Rules) (a : Alerting) :
    List Demand → List Alerting
  | [] => []
  | d :: rest =>
    let next := if enabled then a.observe rules d else a
    next :: next.observeAll enabled rules rest

theorem filter_isAlerting_metrics {entries : List Log.Entry}
    (h : ∀ e ∈ entries, e.source = .metrics) : entries.filter isAlerting = [] := by
  apply List.filter_eq_nil_iff.mpr
  intro e he
  simp [isAlerting, h e he]

theorem filter_isAlerting_evaluate (rules : Alert.Rules) (samples : List Alert.Sample)
    (now : Number) (states : Alert.States) :
    (Alert.evaluate rules samples now states).2.filter isAlerting =
      (Alert.evaluate rules samples now states).2 := by
  apply List.filter_eq_self.mpr
  intro e he
  simp [isAlerting, Alert.source_evaluate rules samples now states e he]

theorem source_forward (m : Monitor) (t : Tally) (trials : Trials) :
    ∀ e ∈ (m.forward t trials).logs, e.source = .metrics := by
  unfold forward
  split
  · intro e he
    rcases List.mem_append.mp he with h | h
    · exact (Metric.performAll_contained m.sink trials t.emissions).source e h
    · rw [Option.toList_map] at h
      obtain ⟨failure, -, rfl⟩ := List.mem_map.mp h
      rfl
  · simp

/-- Forwarding writes nothing in the name of the alerts. -/
theorem filter_isAlerting_forward (m : Monitor) (t : Tally) (trials : Trials) :
    (m.forward t trials).logs.filter isAlerting = [] :=
  filter_isAlerting_metrics (source_forward m t trials)

theorem updateAlerts_logs (m : Monitor) (o : Observation) (now : Number) :
    (m.updateAlerts o.tally now).logs =
      (Alert.evaluate (alertRules m.settings) (m.moved o now).samples now m.alerts).2 := by
  unfold updateAlerts moved cutoff Observation.sample
  dsimp only

/-- With a working clock the log of a request is that of the alerts and then that of the sink. -/
theorem record_logs_ok (m : Monitor) (o : Observation) (now : Number) (trials : Trials)
    (h : m.settings.alertsEnabled = true) :
    (m.record o (.ok now) trials).logs.filter isAlerting =
      (Alert.evaluate (alertRules m.settings) (m.moved o now).samples now m.alerts).2 := by
  have hlogs : (m.record o (.ok now) trials).logs =
      ((m.counted o.tally).updateAlerts o.tally now).logs ++
        (((m.counted o.tally).updateAlerts o.tally now).monitor.forward o.tally trials).logs := by
    unfold record
    dsimp only
    rw [← counted_eq, counted_settings, if_pos h]
  rw [hlogs, List.filter_append, filter_isAlerting_forward, List.append_nil, updateAlerts_logs,
    filter_isAlerting_evaluate, moved_counted, counted_settings, counted_alerts]

/-- Without an evaluation nothing is written in the name of the alerts. -/
theorem record_logs_other (m : Monitor) (o : Observation) (clock : Reading) (trials : Trials)
    (h : m.settings.alertsEnabled = false ∨ ∃ failure, clock = .error failure) :
    (m.record o clock trials).logs.filter isAlerting = [] := by
  unfold record
  dsimp only
  rw [← counted_eq, counted_settings]
  split
  · rename_i hon
    obtain hoff | ⟨failure, rfl⟩ := h
    · exact absurd (hoff.symm.trans hon) Bool.false_ne_true
    · exact filter_isAlerting_metrics (by simp [failedEntry])
  · exact filter_isAlerting_forward _ _ _

/-- Recording writes in the name of the metrics and of the alerts. -/
theorem source_record (m : Monitor) (o : Observation) (clock : Reading) (trials : Trials) :
    ∀ e ∈ (m.record o clock trials).logs, e.source = .metrics ∨ e.source = .alerts := by
  intro e he
  unfold record at he
  dsimp only at he
  rw [← counted_eq, counted_settings] at he
  split at he
  · cases clock with
    | error failure =>
      rw [List.mem_singleton.mp he]
      exact .inl rfl
    | ok now =>
      rcases List.mem_append.mp he with h | h
      · exact .inr (Alert.source_evaluate _ _ _ _ e h)
      · exact .inl (source_forward _ _ _ e h)
  · exact .inl (source_forward _ _ _ e he)

theorem moved_eq (m : Monitor) (o : Observation) (now : Number) :
    m.moved o now =
      (m.window.append (o.sample now)).evict (now - (alertRules m.settings).windowSec * 1000) := by
  have hrules : (alertRules m.settings).windowSec = m.settings.alertWindowSec := by
    unfold alertRules
    rfl
  unfold moved cutoff
  rw [hrules]

theorem Alerting.observe_ok (rules : Alert.Rules) (a : Alerting) (o : Observation) (now : Number) :
    a.observe rules ⟨o, .ok now⟩ =
      let window := (a.window.append (o.sample now)).evict (now - rules.windowSec * 1000)
      { window := window
        alerts := (Alert.evaluate rules window.samples now a.alerts).1
        log := a.log ++ (Alert.evaluate rules window.samples now a.alerts).2 } := by
  unfold observe
  dsimp only

/-- The alerts see a request before it is forwarded, and nothing of what comes after. -/
theorem take_request_alerting (s : Session) (c : Call) :
    (s.take (.request c)).alerting =
      if s.monitor.settings.alertsEnabled then
        s.alerting.observe (alertRules s.monitor.settings) c.demand
      else s.alerting := by
  obtain ⟨m, log⟩ := s
  obtain ⟨o, clock, trials⟩ := c
  simp only [Session.alerting, Session.take, handle, List.filter_append, Call.demand]
  by_cases h : m.settings.alertsEnabled = true
  · rw [if_pos h]
    cases clock with
    | error failure =>
      rw [record_logs_other m o _ trials (.inr ⟨failure, rfl⟩), record_eq, if_pos h, List.append_nil]
      rfl
    | ok now =>
      obtain ⟨sink, hrecord⟩ := record_ok m o now trials h
      rw [record_logs_ok m o now trials h, hrecord, Alerting.observe_ok, ← moved_eq]
  · rw [record_logs_other m o clock trials (.inl (Bool.eq_false_iff.mpr h)), record_eq, if_neg h,
      if_neg h, List.append_nil]
    obtain ⟨sink, hforward⟩ := forward_frame (m.counted o.tally) o.tally trials
    rw [hforward, counted_window, counted_alerts]

/-- What happens between requests is hidden from the alerts. -/
theorem take_alerting_of_demand?_none (s : Session) {e : Event} (h : e.demand? = none) :
    (s.take e).alerting = s.alerting := by
  cases e with
  | request c => simp [Event.demand?] at h
  | socketError now message =>
    have hlogs := filter_isAlerting_metrics
      (Metric.socketError_contained s.monitor.sink (.ok now) message).source
    simp [Session.alerting, Session.take, handle, hlogs]
  | close net =>
    have hlogs := filter_isAlerting_metrics (Metric.close_contained s.monitor.sink net).source
    simp [Session.alerting, Session.take, handle, Monitor.close, hlogs]

theorem take_settings (s : Session) (e : Event) :
    (s.take e).monitor.settings = s.monitor.settings := by
  cases e with
  | request c => exact call_settings s.monitor c
  | socketError now message => rfl
  | close net => rfl

/-- The alerts of a run are those of a machine that knows their rules and the requests only. -/
theorem map_alerting_afterRequests (s : Session) (events : List Event) :
    (s.afterRequests events).map Session.alerting =
      s.alerting.observeAll s.monitor.settings.alertsEnabled (alertRules s.monitor.settings)
        (demands events) := by
  induction events generalizing s with
  | nil => rfl
  | cons e rest ih =>
    have hrest := ih (s.take e)
    rw [take_settings] at hrest
    unfold Session.afterRequests demands
    cases he : e.demand? with
    | none =>
      rw [List.filterMap_cons_none he]
      rw [take_alerting_of_demand?_none s he] at hrest
      exact hrest
    | some d =>
      rw [List.filterMap_cons_some he, List.map_cons, hrest]
      cases e with
      | request c =>
        obtain rfl : c.demand = d := Option.some.inj he
        rw [take_request_alerting]
        rfl
      | socketError now message => simp [Event.demand?] at he
      | close net => simp [Event.demand?] at he

end Alerting

section Reports

/-- The monitor with a sink that was never used. -/
def unsent (m : Monitor) : Monitor := { m with sink := { settings := m.sink.settings } }

/-- The monitor when a request is counted and the alerts are evaluated. -/
def evaluated (m : Monitor) (d : Demand) : Monitor :=
  if m.settings.alertsEnabled then
    match d.clock with
    | .error _ => m.counted d.observation.tally
    | .ok now =>
      ((m.counted d.observation.tally).updateAlerts d.observation.tally now).monitor
  else m.counted d.observation.tally

def evaluatedAll (m : Monitor) : List Demand → List Monitor
  | [] => []
  | d :: rest => m.evaluated d :: (m.evaluated d).evaluatedAll rest

theorem forward_unsent (m : Monitor) (t : Tally) (trials : Trials) :
    (m.forward t trials).monitor.unsent = m.unsent := by
  have hsettings := (Metric.performAll_contained m.sink trials t.emissions).settings
  unfold forward unsent
  split
  · dsimp only
    rw [hsettings]
  · rfl

theorem evaluated_unsent (m : Monitor) (d : Demand) :
    (m.evaluated d).unsent = m.unsent.evaluated d := by
  obtain ⟨o, clock⟩ := d
  unfold evaluated
  by_cases h : m.settings.alertsEnabled = true
  · have hu : m.unsent.settings.alertsEnabled = true := h
    rw [if_pos h, if_pos hu]
    cases clock <;> rfl
  · have hu : ¬ m.unsent.settings.alertsEnabled = true := h
    rw [if_neg h, if_neg hu]
    rfl

theorem call_unsent (m : Monitor) (c : Call) : (m.call c).unsent = m.unsent.evaluated c.demand := by
  rw [← evaluated_unsent]
  unfold call evaluated
  rw [record_eq]
  split
  · cases hc : c.clock with
    | error failure => simp [Call.demand, hc]
    | ok now => simpa [Call.demand, hc] using forward_unsent _ _ _
  · exact forward_unsent _ _ _

theorem handle_unsent_of_demand?_none (m : Monitor) {e : Event} (h : e.demand? = none) :
    (m.handle e).monitor.unsent = m.unsent := by
  cases e with
  | request c => simp [Event.demand?] at h
  | socketError now message =>
    simp [unsent, handle, (Metric.socketError_contained m.sink (.ok now) message).settings]
  | close net => simp [unsent, handle, Monitor.close, (Metric.close_contained m.sink net).settings]

/-- Without its sockets a run is decided by its requests. -/
theorem map_unsent_afterRequests (s : Session) (events : List Event) :
    (s.afterRequests events).map (fun s => s.monitor.unsent) =
      s.monitor.unsent.evaluatedAll (demands events) := by
  induction events generalizing s with
  | nil => rfl
  | cons e rest ih =>
    have hrest := ih (s.take e)
    unfold Session.afterRequests demands
    cases he : e.demand? with
    | none =>
      have hsame : (s.take e).monitor.unsent = s.monitor.unsent :=
        handle_unsent_of_demand?_none s.monitor he
      rw [List.filterMap_cons_none he]
      rw [hsame] at hrest
      exact hrest
    | some d =>
      rw [List.filterMap_cons_some he, List.map_cons, hrest]
      cases e with
      | request c =>
        obtain rfl : c.demand = d := Option.some.inj he
        have hcall : (s.take (.request c)).monitor.unsent = s.monitor.unsent.evaluated c.demand :=
          call_unsent s.monitor c
        rw [hcall]
        rfl
      | socketError now message => simp [Event.demand?] at he
      | close net => simp [Event.demand?] at he

theorem render_unsent (m : Monitor) (wallClock : Reading) :
    m.unsent.render wallClock = m.render wallClock := rfl

theorem health_unsent (m : Monitor) (wallClock : Reading) :
    m.unsent.health wallClock = m.health wallClock := rfl

end Reports

/-- Settings that agree on the alerts, whatever they say of the exports. -/
structure SameAlerting (a b : Settings.Observability) : Prop where
  enabled : a.alertsEnabled = b.alertsEnabled
  rules : alertRules a = alertRules b

structure SameAlerts (s t : Session) : Prop where
  window : s.monitor.window = t.monitor.window
  alerts : s.monitor.alerts = t.monitor.alerts
  lines : s.log.filter isAlerting = t.log.filter isAlerting

structure SameReports (s t : Session) : Prop where
  render : ∀ wallClock, s.monitor.render wallClock = t.monitor.render wallClock
  health : ∀ wallClock, s.monitor.health wallClock = t.monitor.health wallClock

def Session.start (settings : Settings.Observability) (startedAt : Number) : Session :=
  { monitor := Monitor.start settings startedAt }

theorem forall₂_of_map_eq {β : Type} (view : Session → β) {R : Session → Session → Prop}
    {xs ys : List Session} (hR : ∀ x y, view x = view y → R x y) (h : xs.map view = ys.map view) :
    List.Forall₂ R xs ys := by
  have hviews : List.Forall₂ (fun x y => view x = view y) xs ys := by
    rw [← List.forall₂_map_left_iff (f := view) (R := fun v y => v = view y),
      ← List.forall₂_map_right_iff (f := view) (R := Eq), h]
    exact List.forall₂_refl _
  exact hviews.imp hR

/-- Whatever is exported and whatever the sockets do, two runs with the same requests at the same
times go through the same windows, alerts and lines of the alerts. With equal settings they also
show the same text and the same health after every request. -/
theorem alerts_ignore_exports {a b : Settings.Observability} (hab : SameAlerting a b)
    {events others : List Event} (h : demands events = demands others)
    (startedA startedB : Number) :
    List.Forall₂ SameAlerts ((Session.start a startedA).afterRequests events)
        ((Session.start b startedB).afterRequests others) ∧
      List.Forall₂ SameReports ((Session.start a startedA).afterRequests events)
        ((Session.start a startedA).afterRequests others) := by
  constructor
  · refine forall₂_of_map_eq Session.alerting ?_ ?_
    · intro x y hxy
      exact ⟨congrArg Alerting.window hxy, congrArg Alerting.alerts hxy, congrArg Alerting.log hxy⟩
    · rw [map_alerting_afterRequests, map_alerting_afterRequests, h]
      have henabled : (Session.start a startedA).monitor.settings.alertsEnabled =
          (Session.start b startedB).monitor.settings.alertsEnabled := hab.enabled
      have hrules : alertRules (Session.start a startedA).monitor.settings =
          alertRules (Session.start b startedB).monitor.settings := hab.rules
      rw [henabled, hrules]
      rfl
  · refine forall₂_of_map_eq (fun s => s.monitor.unsent) ?_ ?_
    · intro x y hxy
      constructor
      · intro wallClock
        rw [← render_unsent, hxy, render_unsent]
      · intro wallClock
        rw [← health_unsent, hxy, health_unsent]
    · rw [map_unsent_afterRequests, map_unsent_afterRequests, h]

/-- A monitor that exports nothing next to one whose sockets fail in every way, and that one next to
itself with sockets that work. -/
theorem alerts_ignore_exports_of_broken_sockets :
    let mute := Settings.Observability.resolve (.record [("metricsEnabled", .flag false),
      ("alertMinRequests", .number 1), ("thresholds", .record [("errorRatePct", .number 1)])])
    let loud := { mute with metricsEnabled := true, prometheusEnabled := true
                            statsd := { enabled := true } }
    let failed : Observation :=
      { method := .text "get", path := .text "/a", statusCode := .number 500
        elapsedMs := .number 3 }
    let healthy : List Event := [.request ⟨failed, .ok 1, .calm⟩, .request ⟨failed, .ok 2, .calm⟩,
      .request ⟨failed, .ok 3, .calm⟩]
    let broken : List Event := [.request ⟨failed, .ok 1, .steady { createThrows := true } (.ok 1)⟩,
      .request ⟨failed, .ok 2, fun n => { network := { sendThrows := n = 1 }, clock := .ok 2 }⟩,
      .socketError 2 "refused", .close {},
      .request ⟨failed, .ok 3, .steady { sendError := some "lost" } (.ok 3)⟩]
    SameAlerting mute loud ∧ demands healthy = demands broken ∧ loud.prometheusEnabled = true ∧
      List.Forall₂ SameAlerts ((Session.start mute 0).afterRequests healthy)
        ((Session.start loud 9).afterRequests broken) ∧
      List.Forall₂ SameReports ((Session.start loud 9).afterRequests healthy)
        ((Session.start loud 9).afterRequests broken) := by
  intro mute loud failed healthy broken
  have hab : ∀ settings : Settings.Observability, SameAlerting settings
      { settings with metricsEnabled := true, prometheusEnabled := true
                      statsd := { enabled := true } } := by
    intro settings
    constructor
    · rfl
    · unfold alertRules
      rfl
  have hrequests : demands healthy = demands broken := rfl
  obtain ⟨halerts, -⟩ := alerts_ignore_exports (hab mute) hrequests 0 9
  obtain ⟨-, hreports⟩ := alerts_ignore_exports (SameAlerting.mk rfl rfl : SameAlerting loud loud)
    hrequests 9 9
  exact ⟨hab mute, hrequests, rfl, halerts, hreports⟩

end Telemetry.Monitor
