import Mathlib.Data.List.Induction
import Telemetry.Proofs.Alert.Announcements
import Telemetry.Proofs.Monitor.Run
import Telemetry.Proofs.Settings.Bounds

/-! # The window and the alerts over a whole history

As long as the clock does not run backwards, the window holds exactly the requests that are not
too old, although samples only ever leave from its front. The active alerts are then decided by
these requests alone, whatever happened before.
-/
namespace Telemetry.Alert

/-- What it means for an alert that these are the recent requests: there are enough of them and
the value observed is above a threshold that is set. -/
def Exceeded (rules : Rules) (samples : List Sample) (alert : Kind) : Prop :=
  rules.minRequests.le (Number.ofNat samples.length) = true ∧
    Number.lt 0 (rules.thresholds.get alert) = true ∧
    (rules.thresholds.get alert).lt ((observed (aggregate samples)).get alert) = true

instance (rules : Rules) (samples : List Sample) (alert : Kind) :
    Decidable (Exceeded rules samples alert) := inferInstanceAs (Decidable (_ ∧ _))

theorem breached_findings_iff (rules : Rules) (samples : List Sample) (alert : Kind)
    (hmin : rules.minRequests.isNaN = false) :
    ((findings rules samples).get alert).breached = true ↔ Exceeded rules samples alert := by
  have hfew := Number.not_lt_iff (Number.isNaN_ofNat samples.length) hmin
  unfold findings Exceeded
  split
  · rename_i h
    rw [PerAlert.get_tabulate]
    have hn : ¬ rules.minRequests.le (Number.ofNat samples.length) = true := by
      rw [← hfew, h]
      decide
    simp [hn]
  · rename_i h
    rw [PerAlert.get_tabulate, ← hfew]
    simp [h]

/-- After an evaluation an alert is active exactly if the samples exceed its threshold. -/
theorem mem_active_evaluate_iff (rules : Rules) (samples : List Sample) (now : Number)
    (states : States) (alert : Kind) (hmin : rules.minRequests.isNaN = false) :
    alert ∈ active (evaluate rules samples now states).1 ↔ Exceeded rules samples alert := by
  obtain ⟨_, hmove, -⟩ := evaluate_move rules alert samples now states
  rw [mem_active_iff, hmove.active_eq, ← breached_findings_iff rules samples alert hmin]
  cases ((findings rules samples).get alert).breached <;> decide

namespace Window

/-- Where the samples that are too old stand in front, dropping from the front is filtering. -/
theorem dropWhile_isBefore {cutoff : Number} {samples : List Sample}
    (h : samples.Pairwise fun a b => a.timestamp.le b.timestamp = true) :
    samples.dropWhile (isBefore cutoff) = samples.filter fun s => !isBefore cutoff s := by
  induction samples with
  | nil => rfl
  | cons s rest ih =>
    obtain ⟨hs, hrest⟩ := List.pairwise_cons.mp h
    by_cases hb : isBefore cutoff s = true
    · rw [List.dropWhile_cons_of_pos hb, ih hrest, List.filter_cons_of_neg (by simp [hb])]
    · have hall : ∀ t ∈ rest, (!isBefore cutoff t) = true := by
        intro t ht
        have hlt : ¬ t.timestamp.lt cutoff = true :=
          fun hc => hb (Number.lt_of_le_of_lt (hs t ht) hc)
        simpa [isBefore] using hlt
      rw [List.dropWhile_cons_of_neg hb, List.filter_cons_of_pos (by simpa using hb),
        List.filter_eq_self.mpr hall]

/-- One step of the window: if it holds the samples of a history that are not before an earlier
cutoff, it then holds the samples of the longer history that are not before the new one. -/
theorem samples_evict_append (w : Window) (history : List Sample) (earlier cutoff : Number)
    (s : Sample) (hw : w.samples = history.filter fun s => !isBefore earlier s)
    (hcut : ∀ t ∈ history, isBefore earlier t = true → isBefore cutoff t = true)
    (hord : (history ++ [s]).Pairwise fun a b => a.timestamp.le b.timestamp = true) :
    ((w.append s).evict cutoff).samples =
      (history ++ [s]).filter fun s => !isBefore cutoff s := by
  have hsub : ((history.filter fun s => !isBefore earlier s) ++ [s]).Pairwise
      fun a b => a.timestamp.le b.timestamp = true :=
    hord.sublist ((List.filter_sublist).append_right _)
  have hkeep : (history.filter fun s => !isBefore earlier s).filter (fun s => !isBefore cutoff s) =
      history.filter fun s => !isBefore cutoff s := by
    rw [List.filter_filter]
    refine List.filter_congr fun t ht => ?_
    have h := hcut t ht
    cases he : isBefore earlier t with
    | false => simp
    | true => simp [h he]
  rw [samples_evict, samples_append, hw, dropWhile_isBefore hsub, List.filter_append, hkeep,
    List.filter_append]

end Window

end Telemetry.Alert

namespace Telemetry.Monitor
open Telemetry.Metric (Trials)

structure Arrival where
  observation : Observation
  now : Number
  trials : Trials

def Arrival.call (a : Arrival) : Call := ⟨a.observation, .ok a.now, a.trials⟩

def Arrival.sample (a : Arrival) : Alert.Sample := a.observation.sample a.now

/-- The readings of the clock never go back. -/
def Ordered (arrivals : List Arrival) : Prop :=
  arrivals.Pairwise fun a b => a.now.le b.now = true

instance (arrivals : List Arrival) : Decidable (Ordered arrivals) :=
  inferInstanceAs (Decidable (List.Pairwise _ _))

/-- The samples that are not before a cutoff, in the order of arrival. -/
def recent (cutoff : Number) (arrivals : List Arrival) : List Alert.Sample :=
  (arrivals.map Arrival.sample).filter fun s => !Alert.Window.isBefore cutoff s

theorem Ordered.samples {arrivals : List Arrival} (h : Ordered arrivals) :
    (arrivals.map Arrival.sample).Pairwise fun a b => a.timestamp.le b.timestamp = true :=
  List.pairwise_map.mpr h

variable (m : Monitor)

theorem run_arrivals_concat (earlier : List Arrival) (last : Arrival) :
    m.run ((earlier ++ [last]).map Arrival.call) =
      (m.run (earlier.map Arrival.call)).call last.call := by
  rw [List.map_append, List.map_singleton, run_concat]

/-- The window after one more arrival, with the cutoff that the settings of the start give. -/
theorem window_run_concat (halerts : m.settings.alertsEnabled = true) (earlier : List Arrival)
    (last : Arrival) :
    (m.run ((earlier ++ [last]).map Arrival.call)).window =
      ((m.run (earlier.map Arrival.call)).window.append last.sample).evict (m.cutoff last.now) := by
  have hs : (m.run (earlier.map Arrival.call)).settings.alertsEnabled = true := by
    rw [run_settings]
    exact halerts
  obtain ⟨sink, hr⟩ := record_ok _ last.observation last.now last.trials hs
  rw [run_arrivals_concat, call, Arrival.call, hr, moved, cutoff, run_settings]
  rfl

/-- What a window of a run holds: the samples that are not before the last cutoff. -/
theorem samples_run (hempty : m.window.samples = []) (halerts : m.settings.alertsEnabled = true)
    (hwidth : (m.settings.alertWindowSec * 1000).isFinite = true ∨
      m.settings.alertWindowSec * 1000 = .infinity false)
    (earlier : List Arrival) (last : Arrival) (hord : Ordered (earlier ++ [last])) :
    (m.run ((earlier ++ [last]).map Arrival.call)).window.samples =
      recent (m.cutoff last.now) (earlier ++ [last]) := by
  induction earlier using List.reverseRecOn generalizing last with
  | nil =>
    have hstep := Alert.Window.samples_evict_append m.window [] (m.cutoff last.now)
      (m.cutoff last.now) last.sample hempty (by simp) (by simp)
    rw [window_run_concat m halerts]
    exact hstep
  | append_singleton before previous ih =>
    obtain ⟨hbefore, -, hlast⟩ := List.pairwise_append.mp hord
    have hle : previous.now.le last.now = true := hlast previous (by simp) last (by simp)
    have hsamples := hord.samples
    rw [List.map_append] at hsamples
    rw [window_run_concat m halerts]
    refine (Alert.Window.samples_evict_append _ _ (m.cutoff previous.now) (m.cutoff last.now)
      last.sample (ih previous hbefore) ?_ hsamples).trans ?_
    · intro t _ ht
      exact Number.lt_sub_of_lt_sub hle hwidth ht
    · simp only [recent, List.map_append, List.map_cons, List.map_nil]

theorem active_run (halerts : m.settings.alertsEnabled = true)
    (hmin : m.settings.alertMinRequests.isNaN = false) (earlier : List Arrival) (last : Arrival)
    (alert : Alert.Kind) :
    let samples := (m.run ((earlier ++ [last]).map Arrival.call)).window.samples
    alert ∈ Alert.active (m.run ((earlier ++ [last]).map Arrival.call)).alerts ↔
      Alert.Exceeded (alertRules m.settings) samples alert := by
  have hs : (m.run (earlier.map Arrival.call)).settings.alertsEnabled = true := by
    rw [run_settings]
    exact halerts
  obtain ⟨sink, hr⟩ := record_ok _ last.observation last.now last.trials hs
  dsimp only
  rw [run_arrivals_concat, call, Arrival.call, hr, run_settings]
  exact Alert.mem_active_evaluate_iff _ _ _ _ alert hmin

/-- After every request of a run the window holds exactly the requests so far that are not older
than its width, in the order of arrival, and each alert is active exactly if there are enough of
them and they exceed its threshold. -/
theorem window_and_alerts_of_run (raw : Datum) (startedAt : Number) (earlier : List Arrival)
    (last : Arrival) (hon : (Settings.Observability.resolve raw).alertsEnabled = true)
    (hord : Ordered (earlier ++ [last])) :
    let settings := Settings.Observability.resolve raw
    let m := (start settings startedAt).run ((earlier ++ [last]).map Arrival.call)
    let live := recent (last.now - settings.alertWindowSec * 1000) (earlier ++ [last])
    m.window.samples = live ∧
      ∀ alert, alert ∈ Alert.active m.alerts ↔ Alert.Exceeded (alertRules settings) live alert := by
  intro settings m live
  have hsamples : m.window.samples = live :=
    samples_run (start settings startedAt) rfl hon (Settings.Observability.windowMs_finite_or raw)
      earlier last hord
  have hmin := Number.isNaN_of_isFinite (Settings.Observability.alertMinRequests_bounds raw).1
  refine ⟨hsamples, fun alert => ?_⟩
  rw [← hsamples]
  exact active_run (start settings startedAt) hon hmin earlier last alert

def failedRequest : Observation :=
  { method := .text "GET", path := .text "/", statusCode := .number 503, elapsedMs := .number 5 }

def tenSecondWindow : Datum :=
  .record [("alertWindowSec", .number 10), ("alertMinRequests", .number 2),
    ("thresholds", .record [("errorRatePct", .number 50)])]

/-- Of three failed requests the first is too old by the time of the third, and the two that
remain raise the alert on errors. -/
theorem window_and_alerts_of_three_failures :
    let earlier : List Arrival := [⟨failedRequest, 0, .calm⟩, ⟨failedRequest, 5000, .calm⟩]
    let last : Arrival := ⟨failedRequest, 12000, .calm⟩
    let settings := Settings.Observability.resolve tenSecondWindow
    let m := (start settings 0).run ((earlier ++ [last]).map Arrival.call)
    settings.alertsEnabled = true ∧ Ordered (earlier ++ [last]) ∧
      m.window.samples.length = 2 ∧ .errorRate ∈ Alert.active m.alerts := by
  intro earlier last settings m
  have hon : settings.alertsEnabled = true := by decide +kernel
  have hord : Ordered (earlier ++ [last]) := by decide +kernel
  obtain ⟨hsamples, hactive⟩ := window_and_alerts_of_run tenSecondWindow 0 earlier last hon hord
  refine ⟨hon, hord, ?_, (hactive .errorRate).mpr ?_⟩
  · rw [hsamples]
    decide +kernel
  · decide +kernel

end Telemetry.Monitor
