import Telemetry.Monitor.Basic
import Telemetry.Proofs.Alert.Announcements

/-! # Runs of a monitor

A call is one observation with the clock and the trials it meets. What a call does to the store,
the window and the alerts is said here once. Neither the sockets nor a failing clock reach the
store.
-/
namespace Telemetry.Monitor
open Telemetry.Metric (Reading Trials)

structure Call where
  observation : Observation
  clock : Reading
  trials : Trials

def call (m : Monitor) (c : Call) : Monitor := (m.record c.observation c.clock c.trials).monitor

def run (m : Monitor) (calls : List Call) : Monitor := calls.foldl call m

theorem run_append (m : Monitor) (calls more : List Call) :
    m.run (calls ++ more) = (m.run calls).run more := List.foldl_append

theorem run_concat (m : Monitor) (calls : List Call) (c : Call) :
    m.run (calls ++ [c]) = (m.run calls).call c := by
  simp [run]

def Observation.sample (o : Observation) (now : Number) : Alert.Sample :=
  { timestamp := now, requestMs := o.tally.totalMs, isError := o.tally.isError
    databaseMs := o.tally.databaseMs }

/-- The earliest time that a window ending now reaches back to. -/
def cutoff (m : Monitor) (now : Number) : Number := now - m.settings.alertWindowSec * 1000

/-- Sending the counts changes nothing but the sink. -/
theorem forward_frame (m : Monitor) (t : Tally) (trials : Trials) :
    ∃ sink, (m.forward t trials).monitor = { m with sink := sink } := by
  unfold forward
  split
  · exact ⟨_, rfl⟩
  · exact ⟨m.sink, rfl⟩

def counted (m : Monitor) (t : Tally) : Monitor :=
  { m with store := if m.settings.metricsEnabled then t.count m.store else m.store }

@[simp] theorem counted_settings (m : Monitor) (t : Tally) :
    (m.counted t).settings = m.settings := rfl

@[simp] theorem counted_window (m : Monitor) (t : Tally) : (m.counted t).window = m.window := rfl

@[simp] theorem counted_alerts (m : Monitor) (t : Tally) : (m.counted t).alerts = m.alerts := rfl

theorem counted_eq (m : Monitor) (t : Tally) :
    m.counted t = if m.settings.metricsEnabled then { m with store := t.count m.store } else m := by
  unfold counted
  by_cases h : m.settings.metricsEnabled = true
  · simp only [h, if_true]
  · simp only [h, Bool.false_eq_true, if_false]

/-- The window after a request at a reading of the clock. -/
def moved (m : Monitor) (o : Observation) (now : Number) : Alert.Window :=
  (m.window.append (o.sample now)).evict (m.cutoff now)

theorem moved_counted (m : Monitor) (t : Tally) (o : Observation) (now : Number) :
    (m.counted t).moved o now = m.moved o now := by
  simp only [moved, cutoff, counted_settings, counted_window]

theorem updateAlerts_monitor (m : Monitor) (o : Observation) (now : Number) :
    (m.updateAlerts o.tally now).monitor =
      { m with
        window := m.moved o now
        alerts := (Alert.evaluate (alertRules m.settings) (m.moved o now).samples now
          m.alerts).1 } := by
  unfold updateAlerts moved cutoff Observation.sample
  dsimp only

theorem record_eq (m : Monitor) (o : Observation) (clock : Reading) (trials : Trials) :
    (m.record o clock trials).monitor =
      if m.settings.alertsEnabled then
        match clock with
        | .error _ => m.counted o.tally
        | .ok now =>
          (((m.counted o.tally).updateAlerts o.tally now).monitor.forward o.tally trials).monitor
      else ((m.counted o.tally).forward o.tally trials).monitor := by
  unfold record
  dsimp only
  rw [← counted_eq, counted_settings]
  split
  · cases clock <;> rfl
  · rfl

/-- With a working clock the window moves on and the alerts are evaluated against it. -/
theorem record_ok (m : Monitor) (o : Observation) (now : Number) (trials : Trials)
    (h : m.settings.alertsEnabled = true) :
    ∃ sink, (m.record o (.ok now) trials).monitor =
      { m.counted o.tally with
        window := m.moved o now
        alerts := (Alert.evaluate (alertRules m.settings) (m.moved o now).samples now m.alerts).1
        sink := sink } := by
  obtain ⟨sink, hs⟩ := forward_frame ((m.counted o.tally).updateAlerts o.tally now).monitor
    o.tally trials
  have hr := record_eq m o (.ok now) trials
  rw [if_pos h] at hr
  refine ⟨sink, (hr.trans hs).trans ?_⟩
  rw [updateAlerts_monitor, moved_counted, counted_settings, counted_alerts]
  rfl

/-- Whatever the clock and the sockets do, the request is counted first and only the window, the
alerts and the sink change after that. -/
theorem record_frame (m : Monitor) (o : Observation) (clock : Reading) (trials : Trials) :
    ∃ window alerts sink, (m.record o clock trials).monitor =
      { m.counted o.tally with window := window, alerts := alerts, sink := sink } := by
  by_cases h : m.settings.alertsEnabled = true
  · cases clock with
    | error failure =>
      rw [record_eq, if_pos h]
      exact ⟨m.window, m.alerts, m.sink, rfl⟩
    | ok now =>
      obtain ⟨sink, hs⟩ := record_ok m o now trials h
      exact ⟨_, _, sink, hs⟩
  · rw [record_eq, if_neg h]
    obtain ⟨sink, hs⟩ := forward_frame (m.counted o.tally) o.tally trials
    exact ⟨m.window, m.alerts, sink, hs⟩

@[simp] theorem call_settings (m : Monitor) (c : Call) : (m.call c).settings = m.settings := by
  obtain ⟨_, _, _, h⟩ := record_frame m c.observation c.clock c.trials
  rw [call, h, counted]

theorem call_store (m : Monitor) (c : Call) :
    (m.call c).store =
      if m.settings.metricsEnabled then c.observation.tally.count m.store else m.store := by
  obtain ⟨_, _, _, h⟩ := record_frame m c.observation c.clock c.trials
  rw [call, h, counted]

/-- The alerts change only where they are evaluated. -/
theorem call_alerts (m : Monitor) (c : Call) : (m.call c).alerts = m.alerts ∨
    ∃ samples now, (m.call c).alerts =
      (Alert.evaluate (alertRules m.settings) samples now m.alerts).1 := by
  unfold call
  by_cases h : m.settings.alertsEnabled = true
  · cases hc : c.clock with
    | error failure =>
      rw [record_eq, if_pos h]
      exact .inl rfl
    | ok now =>
      obtain ⟨sink, hs⟩ := record_ok m c.observation now c.trials h
      exact .inr ⟨_, now, congrArg Monitor.alerts hs⟩
  · rw [record_eq, if_neg h]
    obtain ⟨sink, hs⟩ := forward_frame (m.counted c.observation.tally) c.observation.tally c.trials
    rw [hs]
    exact .inl rfl

@[simp] theorem run_settings (m : Monitor) (calls : List Call) :
    (m.run calls).settings = m.settings := by
  induction calls generalizing m with
  | nil => rfl
  | cons c rest ih => exact (ih (m.call c)).trans (call_settings m c)

theorem run_startedAt (m : Monitor) (calls : List Call) :
    (m.run calls).startedAt = m.startedAt := by
  induction calls generalizing m with
  | nil => rfl
  | cons c rest ih =>
    obtain ⟨_, _, _, hcall⟩ := record_frame m c.observation c.clock c.trials
    refine (ih (m.call c)).trans ?_
    rw [call, hcall, counted]

/-- Each request announces an alert at most once. -/
theorem breachCount_run_le (m : Monitor) (calls : List Call) (alert : Alert.Kind) :
    ((m.run calls).alerts.get alert).breachCount ≤
      (m.alerts.get alert).breachCount + calls.length := by
  induction calls generalizing m with
  | nil => exact Nat.le_refl _
  | cons c rest ih =>
    have hrest := ih (m.call c)
    have hcall : ((m.call c).alerts.get alert).breachCount ≤
        (m.alerts.get alert).breachCount + 1 := by
      rcases call_alerts m c with h | ⟨samples, now, h⟩
      · rw [h]
        exact Nat.le_succ _
      · obtain ⟨_, hmove, -⟩ :=
          Alert.evaluate_move (alertRules m.settings) alert samples now m.alerts
        rw [h]
        exact hmove.breachCount_le
    calc ((m.run (c :: rest)).alerts.get alert).breachCount
        ≤ ((m.call c).alerts.get alert).breachCount + rest.length := hrest
      _ ≤ (m.alerts.get alert).breachCount + 1 + rest.length := Nat.add_le_add_right hcall _
      _ = (m.alerts.get alert).breachCount + (c :: rest).length := by
        rw [List.length_cons]
        omega

theorem breachCount_run_start_le (settings : Settings.Observability) (startedAt : Number)
    (calls : List Call) (alert : Alert.Kind) :
    (((start settings startedAt).run calls).alerts.get alert).breachCount ≤ calls.length := by
  have hzero : ((start settings startedAt).alerts.get alert).breachCount = 0 := by
    cases alert <;> rfl
  have hle := breachCount_run_le (start settings startedAt) calls alert
  rwa [hzero, Nat.zero_add] at hle

theorem le_breachCount_run (m : Monitor) (calls : List Call) (alert : Alert.Kind) :
    (m.alerts.get alert).breachCount ≤ ((m.run calls).alerts.get alert).breachCount := by
  induction calls generalizing m with
  | nil => exact Nat.le_refl _
  | cons c rest ih =>
    refine Nat.le_trans ?_ (ih (m.call c))
    rcases call_alerts m c with h | ⟨samples, now, h⟩
    · rw [h]
    · obtain ⟨_, hmove, -⟩ :=
        Alert.evaluate_move (alertRules m.settings) alert samples now m.alerts
      rw [h]
      exact hmove.le_breachCount

end Telemetry.Monitor
