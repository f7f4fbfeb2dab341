import Telemetry.Monitor.Health
import Telemetry.Proofs.Monitor.Window

/-! # What a snapshot tells of the window

A snapshot of the health does not look at the clock of the window. What it tells is the window at
the last request for which that clock could be read. This is the window of the present as long as
none of its requests has become too old; from then on until the next request the snapshot counts
requests that are no longer recent, and it may list alerts that no recent request supports.
-/
namespace Telemetry.Monitor

/-- The requests that reach the window: with the alerts on, those for which the clock was read. -/
def noted (settings : Settings.Observability) (calls : List Call) : List Arrival :=
  if settings.alertsEnabled then
    calls.filterMap fun c =>
      match c.clock with
      | .ok now => some ⟨c.observation, now, c.trials⟩
      | .error _ => none
  else []

theorem noted_append (settings : Settings.Observability) (calls more : List Call) :
    noted settings (calls ++ more) = noted settings calls ++ noted settings more := by
  unfold noted
  split
  · exact List.filterMap_append
  · rfl

/-- The requests that are recent at a time: not before the window that ends then. -/
def recentAt (settings : Settings.Observability) (arrivals : List Arrival) (t : Number) :
    List Alert.Sample :=
  recent (t - settings.alertWindowSec * 1000) arrivals

section Steps

variable {m : Monitor} {c : Call}

/-- Without the alerts or a reading of the clock, a request leaves window and alerts alone. -/
theorem call_unnoted (h : noted m.settings [c] = []) :
    (m.call c).window = m.window ∧ (m.call c).alerts = m.alerts := by
  unfold call
  by_cases hon : m.settings.alertsEnabled = true
  · cases hclock : c.clock with
    | error failure =>
      rw [record_eq, if_pos hon]
      exact ⟨rfl, rfl⟩
    | ok now =>
      rw [noted, if_pos hon, List.filterMap_cons_some (by rw [hclock])] at h
      cases h
  · obtain ⟨sink, hforward⟩ :=
      forward_frame (m.counted c.observation.tally) c.observation.tally c.trials
    rw [record_eq, if_neg hon, hforward]
    exact ⟨rfl, rfl⟩

/-- A request is noted or not. -/
theorem noted_singleton (settings : Settings.Observability) (c : Call) :
    noted settings [c] = [] ∨
      ∃ a : Arrival, noted settings [c] = [a] ∧ c = a.call ∧ settings.alertsEnabled = true := by
  obtain ⟨observation, clock, trials⟩ := c
  by_cases hon : settings.alertsEnabled = true
  · cases clock with
    | error failure =>
      refine .inl ?_
      rw [noted, if_pos hon]
      rfl
    | ok now =>
      refine .inr ⟨⟨observation, now, trials⟩, ?_, rfl, hon⟩
      rw [noted, if_pos hon]
      rfl
  · refine .inl ?_
    rw [noted, if_neg hon]

end Steps

/-- The window and the alerts are those of the last request that was noted. -/
structure AsOf (m : Monitor) (seen : List Arrival) : Prop where
  unseen : seen = [] → m.window.samples = [] ∧ Alert.active m.alerts = []
  window : ∀ last ∈ seen.getLast?, m.window.samples = recentAt m.settings seen last.now
  alerts : ∀ last ∈ seen.getLast?, ∀ alert, alert ∈ Alert.active m.alerts ↔
    Alert.Exceeded (alertRules m.settings) (recentAt m.settings seen last.now) alert

section Runs

variable {m : Monitor} {seen : List Arrival}

theorem asOf_start (settings : Settings.Observability) (startedAt : Number) :
    AsOf (start settings startedAt) [] :=
  ⟨fun _ => ⟨rfl, rfl⟩, by simp, by simp⟩

theorem AsOf.unnoted {c : Call} (h : AsOf m seen) (hc : noted m.settings [c] = []) :
    AsOf (m.call c) seen := by
  obtain ⟨hwindow, halerts⟩ := call_unnoted hc
  constructor
  · rw [hwindow, halerts]
    exact h.unseen
  · rw [hwindow, call_settings]
    exact h.window
  · rw [halerts, call_settings]
    exact h.alerts

/-- The window moves on with every request that is noted, in the order of time. -/
theorem AsOf.arrival (h : AsOf m seen) (hon : m.settings.alertsEnabled = true)
    (hmin : m.settings.alertMinRequests.isNaN = false) {a : Arrival}
    (hord : Ordered (seen ++ [a])) : AsOf (m.call a.call) (seen ++ [a]) := by
  obtain ⟨sink, hrecord⟩ := record_ok m a.observation a.now a.trials hon
  have hwindow : (m.call a.call).window = m.moved a.observation a.now :=
    congrArg Monitor.window hrecord
  have halerts : (m.call a.call).alerts = (Alert.evaluate (alertRules m.settings)
      (m.moved a.observation a.now).samples a.now m.alerts).1 := congrArg Monitor.alerts hrecord
  have hsamples : (m.moved a.observation a.now).samples =
      recentAt m.settings (seen ++ [a]) a.now := by
    have hordered := hord.samples
    rw [List.map_append, List.map_singleton] at hordered
    rw [recentAt, recent, List.map_append, List.map_singleton]
    rcases List.eq_nil_or_concat seen with rfl | ⟨before, previous, rfl⟩
    · exact Alert.Window.samples_evict_append m.window [] (m.cutoff a.now) (m.cutoff a.now)
        a.sample (h.unseen rfl).1 (by simp) hordered
    · -- What was too old for the window before is too old for the later one.
      have hlast : previous ∈ (before.concat previous).getLast? := by simp
      have hle : previous.now.le a.now = true := by
        obtain ⟨-, -, hpairs⟩ := List.pairwise_append.mp hord
        exact hpairs previous (List.mem_of_mem_getLast? hlast) a (by simp)
      exact Alert.Window.samples_evict_append m.window _ (m.cutoff previous.now) (m.cutoff a.now)
        a.sample (h.window previous hlast) (fun t _ ht => Number.lt_sub_mono hle ht) hordered
  constructor
  · simp
  · rw [hwindow, call_settings]
    simp [hsamples]
  · intro last hlast alert
    rw [List.getLast?_concat, Option.mem_some_iff] at hlast
    rw [halerts, call_settings, ← hlast, ← hsamples]
    exact Alert.mem_active_evaluate_iff _ _ _ _ alert hmin

/-- After any run the window and the alerts are as of the last request that was noted. -/
theorem asOf_run (settings : Settings.Observability) (startedAt : Number)
    (hmin : settings.alertMinRequests.isNaN = false) (calls : List Call)
    (hord : Ordered (noted settings calls)) :
    AsOf ((start settings startedAt).run calls) (noted settings calls) := by
  induction calls using List.reverseRecOn with
  | nil =>
    have hnone : noted settings [] = [] := by
      unfold noted
      split <;> rfl
    rw [hnone]
    exact asOf_start settings startedAt
  | append_singleton before c ih =>
    have hsettings : ((start settings startedAt).run before).settings = settings := run_settings _ _
    rw [noted_append] at hord ⊢
    have hbefore := ih (List.pairwise_append.mp hord).1
    rw [run_concat]
    rcases noted_singleton settings c with hc | ⟨a, ha, rfl, hon⟩
    · rw [hc, List.append_nil]
      exact hbefore.unnoted (by rw [hsettings, hc])
    · rw [ha] at hord ⊢
      exact hbefore.arrival (by rw [hsettings, hon]) (by rw [hsettings, hmin]) hord

end Runs

/-- What is recent at a later time is what is left of what was recent before. -/
theorem recentAt_later (settings : Settings.Observability) (arrivals : List Arrival)
    {earlier t : Number} (h : earlier.le t = true) :
    recentAt settings arrivals t = (recentAt settings arrivals earlier).filter
      fun s => !Alert.Window.isBefore (t - settings.alertWindowSec * 1000) s := by
  rw [recentAt, recentAt, recent, recent, List.filter_filter]
  refine List.filter_congr fun s _ => ?_
  cases hold : Alert.Window.isBefore (earlier - settings.alertWindowSec * 1000) s with
  | false => simp
  | true =>
    have hlater : Alert.Window.isBefore (t - settings.alertWindowSec * 1000) s = true :=
      Number.lt_sub_mono h hold
    simp [hlater]

/-- A snapshot is as of the last request that was noted: its size is the number of the requests that
were recent then, and it lists the alerts that these exceed. At a later time it may count too many
requests but never too few, and as long as none of the requests that it counts has become too old,
it counts and lists what is recent at that time. Before the first such request it is empty. -/
theorem snapshot_of_run (settings : Settings.Observability) (startedAt wall : Number)
    (calls : List Call) (hmin : settings.alertMinRequests.isNaN = false)
    (hord : Ordered (noted settings calls)) :
    let seen := noted settings calls
    let exceeds := Alert.Exceeded (alertRules settings)
    ∃ h, ((start settings startedAt).run calls).health (.ok wall) = .ok h ∧
      (seen = [] → h.windowSampleSize = 0 ∧ h.activeAlerts = []) ∧
      ∀ last ∈ seen.getLast?,
        (h.windowSampleSize = (recentAt settings seen last.now).length ∧
          ∀ alert, alert ∈ h.activeAlerts ↔ exceeds (recentAt settings seen last.now) alert) ∧
        ∀ t, last.now.le t = true →
          (recentAt settings seen t).length ≤ h.windowSampleSize ∧
          (h.windowSampleSize = (recentAt settings seen t).length ↔
            ∀ s ∈ recentAt settings seen last.now,
              Alert.Window.isBefore (t - settings.alertWindowSec * 1000) s = false) ∧
          (h.windowSampleSize = (recentAt settings seen t).length →
            ∀ alert, alert ∈ h.activeAlerts ↔ exceeds (recentAt settings seen t) alert) := by
  intro seen exceeds
  have hasOf := asOf_run settings startedAt hmin calls hord
  have hsettings : ((start settings startedAt).run calls).settings = settings := run_settings _ _
  have hsize : (((start settings startedAt).run calls).healthAt wall).windowSampleSize =
      ((start settings startedAt).run calls).window.samples.length :=
    (Alert.Window.length_samples _).symm
  refine ⟨_, rfl, fun hnone => ?_, fun last hlast => ?_⟩
  · obtain ⟨hwindow, halerts⟩ := hasOf.unseen hnone
    rw [hwindow] at hsize
    exact ⟨hsize, halerts⟩
  · have hwindow := hasOf.window last hlast
    have halerts := hasOf.alerts last hlast
    rw [hsettings] at hwindow halerts
    rw [hwindow] at hsize
    refine ⟨⟨hsize, halerts⟩, fun t ht => ?_⟩
    have hlater := recentAt_later settings seen ht
    have hsub : (recentAt settings seen t).Sublist (recentAt settings seen last.now) := by
      rw [hlater]
      exact List.filter_sublist
    rw [hsize]
    refine ⟨hsub.length_le, ?_, fun hequal => ?_⟩
    · rw [hlater, eq_comm, List.length_filter_eq_length_iff]
      simp only [Bool.not_eq_true']
    · rw [hsub.eq_of_length hequal.symm]
      exact halerts

/-- Two failed requests raise the alert on errors, a third for which the clock fails does not count.
Ten seconds later the snapshot still counts two requests, of which one is recent. -/
theorem snapshot_of_two_failures :
    let settings := Settings.Observability.resolve tenSecondWindow
    let last : Arrival := ⟨failedRequest, 5000, .calm⟩
    let calls : List Call :=
      [⟨failedRequest, .ok 0, .calm⟩, last.call, ⟨failedRequest, .error (.plain "no clock"), .calm⟩]
    settings.alertMinRequests.isNaN = false ∧ Ordered (noted settings calls) ∧
      last ∈ (noted settings calls).getLast? ∧ last.now.le 12000 = true ∧
      ∃ h, ((start settings 0).run calls).health (.ok 12000) = .ok h ∧
        h.windowSampleSize = 2 ∧ .errorRate ∈ h.activeAlerts ∧
        (recentAt settings (noted settings calls) 12000).length = 1 := by
  intro settings last calls
  have hmin : settings.alertMinRequests.isNaN = false := by decide +kernel
  have hnoted : noted settings calls = [⟨failedRequest, 0, .calm⟩, last] := by
    have hon : settings.alertsEnabled = true := by decide +kernel
    rw [noted, if_pos hon]
    rfl
  have hord : Ordered (noted settings calls) := by
    rw [hnoted]
    decide +kernel
  have hlast : last ∈ (noted settings calls).getLast? := by
    rw [hnoted]
    rfl
  obtain ⟨h, hhealth, -, hseen⟩ := snapshot_of_run settings 0 12000 calls hmin hord
  obtain ⟨⟨hsize, halerts⟩, -⟩ := hseen last hlast
  rw [hnoted] at hsize halerts
  refine ⟨hmin, hord, hlast, by decide +kernel, h, hhealth, ?_, (halerts .errorRate).mpr ?_, ?_⟩
  · rw [hsize]
    decide +kernel
  · decide +kernel
  · rw [hnoted]
    decide +kernel

def oneRequestWindow : Datum :=
  .record [("alertWindowSec", .number 10), ("alertMinRequests", .number 1),
    ("thresholds", .record [("errorRatePct", .number 1)])]

/-- One failed request and a minute of silence: the snapshot counts the request and lists the alert
on errors, although nothing is recent. With the alerts off it does not even count a request of the
same moment. -/
theorem snapshot_outlives_window :
    let arrivals : List Arrival := [⟨failedRequest, 0, .calm⟩]
    let settings := Settings.Observability.resolve oneRequestWindow
    let silent := { settings with alertsEnabled := false }
    (∃ h, ((start settings 0).run (arrivals.map Arrival.call)).health (.ok 60000) = .ok h ∧
      h.windowSampleSize = 1 ∧ .errorRate ∈ h.activeAlerts ∧
      recentAt settings arrivals 60000 = [] ∧
      ¬ Alert.Exceeded (alertRules settings) (recentAt settings arrivals 60000) .errorRate) ∧
    ∃ h, ((start silent 0).run (arrivals.map Arrival.call)).health (.ok 0) = .ok h ∧
      h.windowSampleSize = 0 ∧ (recentAt silent arrivals 0).length = 1 := by
  intro arrivals settings silent
  refine ⟨⟨_, rfl, ?_, ?_, ?_, ?_⟩, _, rfl, ?_, ?_⟩ <;> decide +kernel

end Telemetry.Monitor
