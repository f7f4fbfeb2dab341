import Telemetry.Proofs.Metric.Permutation
import Telemetry.Proofs.Monitor.Exposition

/-! # Requests in another order

Without alerts the text of a monitor is decided by its store and the wall clock. Two runs with the
same requests in different orders make the same counts and the same exact sums under the same keys,
and the text lists the keys in their own order. So neither the order of the requests nor the order
in which routes were first seen shows in the text.
-/
namespace Telemetry.Monitor
open Telemetry.Metric (LabelKey Store Change ExactSum countAt exactEntries sortSeries wholeCount
  observations observedKeys valuesAt)
open Telemetry.Number (exactLimit)

/-- The requests of a route that a family of histograms observes. -/
def Timer.timed (t : Timer) (calls : List Call) (method path : String) : List Call :=
  (routed calls method path).filter fun c => t.observes c.tally

/-- Observed durations are whole numbers, and their sum on each route stays exact. -/
structure WholeTimes (calls : List Call) : Prop where
  whole : ∀ t ∈ timers, ∀ c ∈ calls, t.observes c.tally = true →
    Number.ofNat (wholeCount (t.value c.tally)) = t.value c.tally
  small : ∀ t ∈ timers, ∀ method path,
    total t.value (t.timed calls method path) < exactLimit

/-- It is enough that the sums over all routes are small. -/
theorem wholeTimes_of_totals {calls : List Call}
    (hwhole : ∀ t ∈ timers, ∀ c ∈ calls, t.observes c.tally = true →
      Number.ofNat (wholeCount (t.value c.tally)) = t.value c.tally)
    (hsmall : ∀ t ∈ timers, total t.value calls < exactLimit) : WholeTimes calls := by
  refine ⟨hwhole, fun t ht method path => lt_of_le_of_lt ?_ (hsmall t ht)⟩
  have hsub : (t.timed calls method path).Sublist calls :=
    List.filter_sublist.trans List.filter_sublist
  exact (hsub.map _).sum_le_sum fun _ _ => Nat.zero_le _

section Tallies

variable {calls others : List Call}

theorem perm_tallies (h : (calls.map Call.observation).Perm (others.map Call.observation)) :
    (calls.map Call.tally).Perm (others.map Call.tally) := by
  have hmap := h.map Observation.tally
  rwa [List.map_map, List.map_map] at hmap

variable (h : (calls.map Call.tally).Perm (others.map Call.tally))
include h

theorem changes_perm : (changes calls).Perm (changes others) := by
  have hflat := h.flatMap_right Tally.changes
  rwa [List.flatMap_map, List.flatMap_map] at hflat

theorem countEntries_perm (key : Tally → LabelKey) (n : Tally → Nat) :
    (countEntries key n calls).Perm (countEntries key n others) := by
  have hflat := h.flatMap_right fun t => if n t = 0 then [] else [(key t, n t)]
  rwa [List.flatMap_map, List.flatMap_map] at hflat

theorem total_perm (pick : Tally → Number) (method path : String) :
    total pick (routed calls method path) = total pick (routed others method path) := by
  have hrouted := ((h.filter fun t => decide (t.method = method ∧ t.path = path)).map
    fun t => wholeCount (pick t)).sum_eq
  rw [List.filter_map, List.filter_map, List.map_map, List.map_map] at hrouted
  simpa only [total, routed, Function.comp_def] using hrouted

theorem Countable.perm (hcalls : Countable calls) : Countable others := by
  obtain ⟨hrequests, hdatabase, hhits, herrors⟩ := hcalls
  have hlength : calls.length = others.length := by
    simpa using h.length_eq
  refine ⟨hlength ▸ hrequests, fun method path => ?_, fun method path => ?_,
    fun method path => ?_⟩
  · rw [← total_perm h]
    exact hdatabase method path
  · rw [← total_perm h]
    exact hhits method path
  · rw [← total_perm h]
    exact herrors method path

/-- Every family of counters lists the same series. -/
theorem counters_perm (hcalls : Countable calls) : ∀ f ∈ counterFamilies,
    sortSeries (Metric.family (({} : Store).applyAll (changes calls)).counters f.name) =
      sortSeries (Metric.family (({} : Store).applyAll (changes others)).counters f.name) := by
  intro f hf
  obtain ⟨t, ht, rfl⟩ := exists_tallied hf
  obtain ⟨hincrements, -, hsmall⟩ := counted_tallied hcalls t ht
  rw [Store.counters_applyAll, Store.counters_applyAll, hincrements,
    (counted_tallied (Countable.perm h hcalls) t ht).increments, Metric.family_nil]
  exact Metric.sortSeries_enterAll_perm (countEntries_perm h t.key t.amount)
    fun key => (hsmall key).le

end Tallies

section Times

variable {calls others : List Call}

theorem exactSum_valuesAt (htimes : WholeTimes calls) {t : Timer} (ht : t ∈ timers)
    {key : LabelKey} (hkey : key ∈ observedKeys t.family.name (changes calls)) :
    ExactSum (valuesAt t.family.name (changes calls) key) := by
  obtain ⟨c, -, -, rfl⟩ := (mem_observedKeys (timers_observe t ht)).mp hkey
  have hvalues : valuesAt t.family.name (changes calls) c.tally.key =
      (t.timed calls c.tally.method c.tally.path).map fun d => t.value d.tally := by
    rw [valuesAt, Metric.measuredAt, entriesAt_observations (timers_observe t ht), List.map_map,
      Timer.timed, ← filter_key, List.filter_filter]
    simp only [Bool.and_comm]
    rfl
  rw [hvalues]
  constructor
  · intro v hv
    obtain ⟨d, hd, rfl⟩ := List.mem_map.mp hv
    obtain ⟨hrouted, hobserves⟩ := List.mem_filter.mp hd
    exact htimes.whole t ht d (List.mem_filter.mp hrouted).1 hobserves
  · rw [List.map_map]
    exact (htimes.small t ht _ _).le

/-- Every family of histograms lists the same series. -/
theorem histograms_perm (h : (calls.map Call.tally).Perm (others.map Call.tally))
    (htimes : WholeTimes calls) : ∀ f ∈ timingFamilies,
    sortSeries (Metric.family (({} : Store).applyAll (changes calls)).histograms f.name) =
      sortSeries (Metric.family (({} : Store).applyAll (changes others)).histograms f.name) := by
  intro f hf
  obtain ⟨t, ht, rfl⟩ := exists_timer hf
  have hobservations : (observations t.family.name (changes calls)).Perm
      (observations t.family.name (changes others)) := (changes_perm h).filterMap _
  exact Metric.sortSeries_histograms_perm t.bounds hobservations
    (bounds_observations (timers_observe t ht)) fun key hkey => exactSum_valuesAt htimes ht hkey

end Times

section Text

theorem run_alerts_of_disabled (m : Monitor) (hoff : m.settings.alertsEnabled = false)
    (calls : List Call) : (m.run calls).alerts = m.alerts := by
  induction calls generalizing m with
  | nil => rfl
  | cons c rest ih =>
    have hcall : (m.call c).alerts = m.alerts := by
      obtain ⟨sink, hforward⟩ :=
        forward_frame (m.counted c.observation.tally) c.observation.tally c.trials
      rw [call, record_eq, if_neg (by rw [hoff]; decide), hforward, counted_alerts]
    refine (ih (m.call c) ?_).trans hcall
    rw [call_settings]
    exact hoff

/-- What two monitors share that print the same lines: the sorted series and the alerts. -/
structure SameSeries (m n : Monitor) : Prop where
  counters : ∀ f ∈ counterFamilies, sortSeries (Metric.family m.store.counters f.name) =
    sortSeries (Metric.family n.store.counters f.name)
  histograms : ∀ f ∈ timingFamilies, sortSeries (Metric.family m.store.histograms f.name) =
    sortSeries (Metric.family n.store.histograms f.name)
  alerts : m.alerts = n.alerts

theorem SameSeries.lines_eq {m n : Monitor} (h : SameSeries m n) (uptime : Number) :
    m.lines uptime = n.lines uptime := by
  have hcounter : ∀ f ∈ counterFamilies, ∀ labels,
      counterFamily m.store.snapshot f.name f.help labels =
        counterFamily n.store.snapshot f.name f.help labels := by
    intro f hf labels
    have hname := name_ne_reservedName f (List.mem_append_left _ hf)
    have hm := Metric.snapshot_counters m.store hname
    have hn := Metric.snapshot_counters n.store hname
    have hsorted := h.counters f hf
    unfold Metric.family at hm hn hsorted
    rw [counterFamily, counterFamily, hm, hn, Metric.counterLines, Metric.counterLines, hsorted]
  have hhistogram : ∀ f ∈ timingFamilies, histogramFamily m.store.snapshot f.name f.help =
      histogramFamily n.store.snapshot f.name f.help := by
    intro f hf
    have hname := name_ne_reservedName f (List.mem_append_right _ hf)
    have hm := Metric.snapshot_histograms m.store hname
    have hn := Metric.snapshot_histograms n.store hname
    have hsorted := h.histograms f hf
    unfold Metric.family at hm hn hsorted
    rw [histogramFamily, histogramFamily, hm, hn, Metric.histogramLines, Metric.histogramLines,
      Metric.sortSeries_map_snd, Metric.sortSeries_map_snd, hsorted]
  simp only [counterFamilies, List.forall_mem_cons] at hcounter
  obtain ⟨hrequests, herrors, hcalls, hhits, hfailures, -⟩ := hcounter
  simp only [timingFamilies, List.forall_mem_cons] at hhistogram
  obtain ⟨hrequest, hdatabase, -⟩ := hhistogram
  have hlines : ∀ k : Monitor, k.lines uptime =
      counterFamily k.store.snapshot requestsFamily.name requestsFamily.help
        ["method", "path", "status_class"] ++
      counterFamily k.store.snapshot requestErrorsFamily.name requestErrorsFamily.help
        routeLabels ++
      histogramFamily k.store.snapshot requestDurationFamily.name requestDurationFamily.help ++
      counterFamily k.store.snapshot databaseCallsFamily.name databaseCallsFamily.help
        routeLabels ++
      counterFamily k.store.snapshot cacheHitsFamily.name cacheHitsFamily.help routeLabels ++
      counterFamily k.store.snapshot databaseErrorsFamily.name databaseErrorsFamily.help
        routeLabels ++
      histogramFamily k.store.snapshot databaseDurationFamily.name databaseDurationFamily.help ++
      Metric.counterLines breachesFamily k.breaches ++
      Metric.gaugeLines activeFamily k.activity ++
      Metric.gaugeLines uptimeFamily [([], uptime)] := fun _ => rfl
  rw [hlines, hlines, hrequests, herrors, hcalls, hhits, hfailures, hrequest, hdatabase, breaches,
    breaches, activity, activity, h.alerts]

/-- Without alerts two runs with the same requests print the same lines, in whatever order the
requests came. -/
theorem sameSeries_run (settings : Settings.Observability) (startedAt : Number)
    (hoff : settings.alertsEnabled = false) {calls others : List Call}
    (h : (calls.map Call.observation).Perm (others.map Call.observation))
    (hcalls : Countable calls) (htimes : WholeTimes calls) :
    SameSeries ((start settings startedAt).run calls) ((start settings startedAt).run others) := by
  have halerts := run_alerts_of_disabled (start settings startedAt) hoff
  have hperm := perm_tallies h
  cases hmetrics : settings.metricsEnabled with
  | true =>
    have hstore := store_run (start settings startedAt) hmetrics
    constructor
    · intro f hf
      rw [hstore, hstore]
      exact counters_perm hperm hcalls f hf
    · intro f hf
      rw [hstore, hstore]
      exact histograms_perm hperm htimes f hf
    · rw [halerts, halerts]
  | false =>
    have hstore := store_run_of_disabled (start settings startedAt) hmetrics
    constructor
    · intro f _
      rw [hstore, hstore]
    · intro f _
      rw [hstore, hstore]
    · rw [halerts, halerts]

/-- With the exposition on and the alerts off, two runs whose requests are permutations of each
other give the same text at the same reading of the wall clock, provided that the observed durations
are whole numbers and the totals of each route are exact. -/
theorem render_perm (settings : Settings.Observability) (startedAt : Number)
    (hprometheus : settings.prometheusEnabled = true) (halerts : settings.alertsEnabled = false)
    {calls others : List Call}
    (h : (calls.map Call.observation).Perm (others.map Call.observation))
    (hcalls : Countable calls) (htimes : WholeTimes calls) (now : Number) :
    ∃ text, ((start settings startedAt).run calls).render (.ok now) = .ok text ∧
      ((start settings startedAt).run others).render (.ok now) = .ok text := by
  have hsame := sameSeries_run settings startedAt halerts h hcalls htimes
  have huptime : ((start settings startedAt).run calls).uptime now =
      ((start settings startedAt).run others).uptime now := by
    rw [uptime, uptime, run_startedAt, run_startedAt]
  have hrender : ∀ cs : List Call, ((start settings startedAt).run cs).render (.ok now) =
      .ok (String.intercalate "\n" (((start settings startedAt).run cs).lines
        (((start settings startedAt).run cs).uptime now) ++ [""])) := by
    intro cs
    have hon : ((start settings startedAt).run cs).settings.prometheusEnabled = true := by
      rw [run_settings]
      exact hprometheus
    rw [render, if_pos hon]
  refine ⟨_, hrender calls, ?_⟩
  rw [hrender, ← huptime, hsame.lines_eq]

/-- Three requests on two routes, in two orders. -/
theorem render_perm_of_three_requests :
    let settings := Settings.Observability.resolve (.record [("alertsEnabled", .flag false)])
    let plain : Observation :=
      { method := .text "get", path := .text "/b", statusCode := .number 200
        elapsedMs := .number 40 }
    let late : Call := ⟨{ queriedRequest with elapsedMs := .number 30 }, .ok 5, .calm⟩
    let calls : List Call := [⟨plain, .ok 1, .calm⟩, ⟨queriedRequest, .ok 2, .calm⟩, late]
    let others : List Call := [⟨queriedRequest, .ok 7, .calm⟩, late, ⟨plain, .ok 9, .calm⟩]
    (settings.prometheusEnabled = true ∧ settings.alertsEnabled = false ∧
      (calls.map Call.observation).Perm (others.map Call.observation) ∧ Countable calls ∧
      WholeTimes calls) ∧
      ∃ text, ((start settings 0).run calls).render (.ok 60000) = .ok text ∧
        ((start settings 0).run others).render (.ok 60000) = .ok text := by
  intro settings plain late calls others
  have hprometheus : settings.prometheusEnabled = true := by decide +kernel
  have halerts : settings.alertsEnabled = false := by decide +kernel
  have hperm : (calls.map Call.observation).Perm (others.map Call.observation) := by
    exact (List.perm_append_comm :
      ([plain] ++ [queriedRequest, late.observation]).Perm _)
  have hcalls : Countable calls := countable_of_totals (by decide) (by decide +kernel)
    (by decide +kernel) (by decide +kernel)
  have htimes : WholeTimes calls :=
    wholeTimes_of_totals (by decide +kernel) (by decide +kernel)
  exact ⟨⟨hprometheus, halerts, hperm, hcalls, htimes⟩,
    render_perm settings 0 hprometheus halerts hperm hcalls htimes 60000⟩

end Text

end Telemetry.Monitor
