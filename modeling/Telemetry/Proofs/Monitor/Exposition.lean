import Telemetry.Monitor.Exposition
import Telemetry.Proofs.Metric.Families
import Telemetry.Proofs.Monitor.Accounting

/-! # A scraper finds the store again

The text of a monitor is a list of blocks with fixed names. Whatever the texts of the requests are,
a scraper reads back the keys and numbers of the store and nothing else.
-/
namespace Telemetry.Monitor
open Telemetry.Metric (LabelKey Store Change Family Block Series Counted Shaped Timed counterBlock
  timingBlock numberBlock wholeText valueText samples? keysOf scrape? compareKeys exactEntries
  sortedHistograms countAt increments)
open Telemetry.Number (exactLimit)

/-- The requests that reach the store. -/
def stored (settings : Settings.Observability) (calls : List Call) : List Call :=
  if settings.metricsEnabled then calls else []

theorem stored_append (settings : Settings.Observability) (calls more : List Call) :
    stored settings (calls ++ more) = stored settings calls ++ stored settings more := by
  unfold stored
  split <;> rfl

theorem store_run_of_disabled (m : Monitor) (hoff : m.settings.metricsEnabled = false)
    (calls : List Call) : (m.run calls).store = m.store := by
  induction calls generalizing m with
  | nil => rfl
  | cons c rest ih =>
    have hc : (m.call c).settings.metricsEnabled = false := by
      rw [call_settings]
      exact hoff
    refine (ih (m.call c) hc).trans ?_
    rw [call_store, if_neg (by rw [hoff]; decide)]

theorem store_run_start (settings : Settings.Observability) (startedAt : Number)
    (calls : List Call) : ((start settings startedAt).run calls).store =
      ({} : Store).applyAll (changes (stored settings calls)) := by
  cases h : settings.metricsEnabled with
  | true =>
    rw [stored, if_pos h]
    exact store_run _ h calls
  | false =>
    rw [stored, if_neg (by rw [h]; decide)]
    exact store_run_of_disabled _ h calls

section Families

def requestsFamily : Family :=
  ⟨requestsTotal, "Total HTTP requests.", ["method", "path", "status_class"]⟩

def requestErrorsFamily : Family :=
  ⟨requestErrorsTotal, "Total HTTP 5xx requests.", routeLabels⟩

def requestDurationFamily : Family :=
  ⟨requestDuration, "HTTP request duration in milliseconds.", routeLabels⟩

def databaseCallsFamily : Family :=
  ⟨databaseCallsTotal, "Total DB calls per request path.", routeLabels⟩

def cacheHitsFamily : Family :=
  ⟨cacheHitsTotal, "Total DB cache hits per request path.", routeLabels⟩

def databaseErrorsFamily : Family :=
  ⟨databaseErrorsTotal, "Total DB errors per request path.", routeLabels⟩

def databaseDurationFamily : Family :=
  ⟨databaseDuration, "Total DB duration in milliseconds per request.", routeLabels⟩

def breachesFamily : Family :=
  ⟨"tvendor_alert_breaches_total", "Total number of alert threshold breaches.", ["alert"]⟩

def activeFamily : Family :=
  ⟨"tvendor_alert_active", "Alert active state (1 active, 0 inactive).", ["alert"]⟩

def uptimeFamily : Family :=
  ⟨"tvendor_uptime_seconds", "Process uptime in seconds.", []⟩

def counterFamilies : List Family :=
  [requestsFamily, requestErrorsFamily, databaseCallsFamily, cacheHitsFamily, databaseErrorsFamily]

def timingFamilies : List Family := [requestDurationFamily, databaseDurationFamily]

def gaugeFamilies : List Family := [breachesFamily, activeFamily, uptimeFamily]

theorem family_sound : ∀ f ∈ counterFamilies ++ timingFamilies ++ gaugeFamilies, f.Sound := by
  have h : ∀ f ∈ counterFamilies ++ timingFamilies ++ gaugeFamilies,
      f.name.toList.all Metric.isNameChar = true ∧
        ∀ label ∈ f.labels, label.toList.all Metric.isNameChar = true := by decide +kernel
  intro f hf
  obtain ⟨hname, hlabels⟩ := h f hf
  exact ⟨List.all_eq_true.mp hname, fun label hl => List.all_eq_true.mp (hlabels label hl)⟩

theorem name_ne_reservedName :
    ∀ f ∈ counterFamilies ++ timingFamilies, f.name ≠ Metric.reservedName := by
  decide +kernel

def breaches (m : Monitor) : List (LabelKey × Number) :=
  alertSamples fun alert => Number.ofNat (m.alerts.get alert).breachCount

def activity (m : Monitor) : List (LabelKey × Number) :=
  alertSamples fun alert => Number.ofNat (m.alerts.get alert).active

def blocks (m : Monitor) (uptime : Number) : List Block :=
  [counterBlock m.store requestsFamily, counterBlock m.store requestErrorsFamily,
    timingBlock m.store requestDurationFamily, counterBlock m.store databaseCallsFamily,
    counterBlock m.store cacheHitsFamily, counterBlock m.store databaseErrorsFamily,
    timingBlock m.store databaseDurationFamily,
    numberBlock breachesFamily "counter" wholeText m.breaches,
    numberBlock activeFamily "gauge" valueText m.activity,
    numberBlock uptimeFamily "gauge" valueText [([], uptime)]]

/-- The names of all series with the names of their labels, in the order of the text. -/
def schema : List (String × List String) :=
  let counter := fun f : Family => [(f.name, f.labels)]
  let timing := fun f : Family => [(f.name ++ "_bucket", f.labels ++ ["le"]),
    (f.name ++ "_sum", f.labels), (f.name ++ "_count", f.labels)]
  counter requestsFamily ++ counter requestErrorsFamily ++ timing requestDurationFamily ++
    counter databaseCallsFamily ++ counter cacheHitsFamily ++ counter databaseErrorsFamily ++
    timing databaseDurationFamily ++ gaugeFamilies.flatMap counter

/-- The help and type lines in the order of the text. -/
def comments : List String :=
  let counter := fun f : Family => Metric.headLines f "counter"
  let timing := fun f : Family => Metric.headLines f "histogram"
  let gauge := fun f : Family => Metric.headLines f "gauge"
  counter requestsFamily ++ counter requestErrorsFamily ++ timing requestDurationFamily ++
    counter databaseCallsFamily ++ counter cacheHitsFamily ++ counter databaseErrorsFamily ++
    timing databaseDurationFamily ++ counter breachesFamily ++ gauge activeFamily ++
    gauge uptimeFamily

variable (m : Monitor) (uptime : Number)

theorem comments_eq : (m.blocks uptime).flatMap Block.head = comments := rfl

theorem schema_eq : (m.blocks uptime).flatMap Block.schema = schema := rfl

theorem nodup_names : ((m.blocks uptime).flatMap Block.names).Nodup := by
  have h : (schema.map (·.1)).Nodup := by decide +kernel
  exact h

/-- The text is the lines of its blocks, whatever the store holds. -/
theorem lines_eq : m.lines uptime = (m.blocks uptime).flatMap Block.lines := by
  have hcounter : ∀ f ∈ counterFamilies,
      (counterBlock m.store f).lines = counterFamily m.store.snapshot f.name f.help f.labels := by
    intro f hf
    exact Metric.lines_counterBlock _ (name_ne_reservedName f (List.mem_append_left _ hf))
  have htiming : ∀ f ∈ timingFamilies, f.labels = routeLabels →
      (timingBlock m.store f).lines = histogramFamily m.store.snapshot f.name f.help := by
    intro f hf hlabels
    rw [Metric.lines_timingBlock _ (name_ne_reservedName f (List.mem_append_right _ hf)),
      histogramFamily, ← hlabels]
    rfl
  have hbreaches := Metric.lines_numberBlock breachesFamily "counter" wholeText m.breaches
  have hactivity := Metric.lines_numberBlock activeFamily "gauge" valueText m.activity
  have huptime := Metric.lines_numberBlock uptimeFamily "gauge" valueText [([], uptime)]
  simp only [counterFamilies, List.forall_mem_cons] at hcounter
  obtain ⟨hrequests, herrors, hcalls, hhits, hfailures, -⟩ := hcounter
  simp only [timingFamilies, List.forall_mem_cons] at htiming
  obtain ⟨hrequest, hdatabase, -⟩ := htiming
  simp only [blocks, List.flatMap_cons, List.flatMap_nil, List.append_nil]
  rw [hbreaches, hactivity, huptime, hrequests, herrors, hcalls, hhits, hfailures, hrequest rfl,
    hdatabase rfl]
  simp only [lines, List.append_assoc]
  rfl

end Families

theorem length_key (t : Tally) : t.key.length = routeLabels.length := rfl

section Entries

variable {key : Tally → LabelKey} {n : Tally → Nat} {calls : List Call}

theorem mem_countEntries {e : LabelKey × Nat} (he : e ∈ countEntries key n calls) :
    ∃ c ∈ calls, e.1 = key c.tally := by
  obtain ⟨c, hc, he⟩ := List.mem_flatMap.mp he
  refine ⟨c, hc, ?_⟩
  split at he
  · cases he
  · rw [List.mem_singleton.mp he]

/-- It is enough that the totals of the keys in use are small. -/
theorem counted_of {f : Family} (h : Counts key n calls f.name)
    (hlen : ∀ t, (key t).length = f.labels.length)
    (hsmall : ∀ c ∈ calls, countAt (countEntries key n calls) (key c.tally) < exactLimit) :
    Counted (changes calls) f (countEntries key n calls) := by
  refine ⟨increments_changes h, fun e he => ?_, fun k => ?_⟩
  · obtain ⟨c, -, hc⟩ := mem_countEntries he
    rw [hc]
    exact hlen c.tally
  · by_cases hk : k ∈ (countEntries key n calls).map (·.1)
    · obtain ⟨e, he, rfl⟩ := List.mem_map.mp hk
      obtain ⟨c, hc, hkey⟩ := mem_countEntries he
      rw [hkey]
      exact hsmall c hc
    · rw [countAt, (Table.entriesAt_eq_nil_iff k _).mpr hk]
      decide

theorem countAt_errors_le (k : LabelKey) :
    countAt (countEntries Tally.key (fun t => if t.isError then 1 else 0) calls) k ≤
      calls.length := by
  rw [countAt_countEntries, sum_map_ite]
  exact List.countP_le_length.trans (List.length_filter_le _ _)

theorem counted_total {pick : Tally → Number} {f : Family}
    (ha : (f.name, pick) ∈ amountCounters) (hlabels : f.labels = routeLabels)
    (hle : ∀ method path, total pick (routed calls method path) < exactLimit) :
    Counted (changes calls) f (countEntries Tally.key (fun t => Metric.wholeCount (pick t)) calls) := by
  have hall : ∀ c ∈ calls, Metric.wholeCount (pick c.tally) ≤ exactLimit :=
    fun c hc => (le_total hc).trans (hle _ _).le
  refine counted_of (counts_amount ha hall) (fun t => ?_) fun c _ => ?_
  · rw [hlabels, length_key]
  · rw [Tally.key, countAt_total]
    exact hle _ _

/-- A family of counters with the key of each request and what the request adds. -/
structure Tallied where
  family : Family
  key : Tally → LabelKey
  amount : Tally → Nat

def tallied : List Tallied :=
  [⟨requestsFamily, Tally.seriesKey, fun _ => 1⟩,
    ⟨requestErrorsFamily, Tally.key, fun t => if t.isError then 1 else 0⟩,
    ⟨databaseCallsFamily, Tally.key, fun t => Metric.wholeCount t.databaseCalls⟩,
    ⟨cacheHitsFamily, Tally.key, fun t => Metric.wholeCount t.cacheHits⟩,
    ⟨databaseErrorsFamily, Tally.key, fun t => Metric.wholeCount t.databaseErrors⟩]

theorem exists_tallied {f : Family} (hf : f ∈ counterFamilies) : ∃ t ∈ tallied, t.family = f := by
  have hfamilies : tallied.map Tallied.family = counterFamilies := rfl
  rw [← hfamilies] at hf
  exact List.mem_map.mp hf

theorem length_tallied_key : ∀ t ∈ tallied, ∀ x, (t.key x).length = t.family.labels.length := by
  simp only [tallied, List.forall_mem_cons]
  exact ⟨fun _ => rfl, length_key, length_key, length_key, length_key, by simp⟩

/-- A request adds to its own series of a counter, and never less than nothing. -/
theorem gain_tallied (c : Call) : ∀ t ∈ tallied, ∀ e ∈ increments t.family.name c.tally.changes,
    e.1 = t.key c.tally ∧ Metric.Gain e.2 := by
  have hamount : ∀ a ∈ amountCounters, ∀ e ∈ increments a.1 c.tally.changes,
      e.1 = c.tally.key ∧ Metric.Gain e.2 := by
    intro a ha e he
    obtain ⟨value, hvalue⟩ := exists_wholeAmount c a ha
    rw [increments_amount _ a ha, hvalue] at he
    split at he
    · rename_i hpositive
      rw [List.mem_singleton.mp he]
      exact ⟨rfl, Metric.gain_wholeAmount hpositive⟩
    · cases he
  simp only [tallied, List.forall_mem_cons]
  refine ⟨fun e he => ?_, fun e he => ?_, hamount _ List.mem_cons_self,
    hamount _ (List.mem_cons_of_mem _ List.mem_cons_self),
    hamount _ (List.mem_cons_of_mem _ (List.mem_cons_of_mem _ List.mem_cons_self)), by simp⟩
  · replace he : e ∈ increments requestsTotal c.tally.changes := he
    rw [increments_requests, List.mem_singleton] at he
    rw [he]
    exact ⟨rfl, Metric.gain_one⟩
  · replace he : e ∈ increments requestErrorsTotal c.tally.changes := he
    rw [increments_errors] at he
    split at he
    · rw [List.mem_singleton.mp he]
      exact ⟨rfl, Metric.gain_one⟩
    · cases he

/-- What a run adds to a counter has a value for each label. -/
theorem gain_increments (calls : List Call) : ∀ f ∈ counterFamilies,
    ∀ e ∈ increments f.name (changes calls), e.1.length = f.labels.length ∧ Metric.Gain e.2 := by
  intro f hf e he
  obtain ⟨t, ht, rfl⟩ := exists_tallied hf
  obtain ⟨c, -, he⟩ := mem_increments_changes.mp he
  obtain ⟨hkey, hgain⟩ := gain_tallied c t ht e he
  rw [hkey]
  exact ⟨length_tallied_key t ht _, hgain⟩

/-- Every counter of the store takes small whole numbers. -/
theorem counted_tallied (hcalls : Countable calls) :
    ∀ t ∈ tallied, Counted (changes calls) t.family (countEntries t.key t.amount calls) := by
  have hrequests : ∀ c ∈ calls, countAt (countEntries Tally.seriesKey (fun _ => 1) calls)
      c.tally.seriesKey < exactLimit := by
    intro c _
    rw [countAt_requests]
    exact (List.length_filter_le _ _).trans_lt hcalls.requests
  simp only [tallied, List.forall_mem_cons]
  exact ⟨counted_of (counts_requests calls) (fun _ => rfl) hrequests,
    counted_of (counts_errors calls) (fun _ => rfl) fun c _ =>
      (countAt_errors_le c.tally.key).trans_lt hcalls.requests,
    counted_total List.mem_cons_self rfl hcalls.databaseCalls,
    counted_total (List.mem_cons_of_mem _ List.mem_cons_self) rfl hcalls.cacheHits,
    counted_total (List.mem_cons_of_mem _ (List.mem_cons_of_mem _ List.mem_cons_self)) rfl
      hcalls.databaseErrors, by simp⟩

theorem counted_run (hcalls : Countable calls) :
    ∀ f ∈ counterFamilies, ∃ entries, Counted (changes calls) f entries := by
  intro f hf
  obtain ⟨t, ht, rfl⟩ := exists_tallied hf
  exact ⟨_, counted_tallied hcalls t ht⟩

end Entries

section Timings

variable {value : Tally → Number} {bounds : List Number} {p : Tally → Bool} {calls : List Call}

theorem mem_observedKeys {metric : String} (h : Observes (fun t => (value t, bounds)) p metric)
    {key : LabelKey} :
    key ∈ Metric.observedKeys metric (changes calls) ↔
      ∃ c ∈ calls, p c.tally = true ∧ c.tally.key = key := by
  rw [Metric.observedKeys, Table.mem_distinct, observations_changes h, List.map_map, List.mem_map]
  simp only [List.mem_filter, Function.comp_apply, and_assoc]

theorem bounds_observations {metric : String}
    (h : Observes (fun t => (value t, bounds)) p metric) :
    ∀ e ∈ Metric.observations metric (changes calls), e.2.2 = bounds := by
  intro e he
  rw [observations_changes h] at he
  obtain ⟨c, -, rfl⟩ := List.mem_map.mp he
  rfl

theorem boundsAt_changes {metric : String} (h : Observes (fun t => (value t, bounds)) p metric)
    {key : LabelKey} (hkey : key ∈ Metric.observedKeys metric (changes calls)) :
    Metric.boundsAt metric (changes calls) key = bounds :=
  Metric.boundsAt_of_constant _ _ (bounds_observations h) hkey

/-- A family of histograms with what it observes of a request. -/
structure Timer where
  family : Metric.Family
  bounds : List Number
  value : Tally → Number
  observes : Tally → Bool

def timers : List Timer :=
  [⟨requestDurationFamily, Metric.requestBounds, Tally.totalMs, fun _ => true⟩,
    ⟨databaseDurationFamily, Metric.databaseBounds, Tally.databaseMs,
      fun t => positive t.databaseCalls && positive t.databaseMs⟩]

theorem exists_timer {f : Family} (hf : f ∈ timingFamilies) : ∃ t ∈ timers, t.family = f := by
  have hfamilies : timers.map Timer.family = timingFamilies := rfl
  rw [← hfamilies] at hf
  exact List.mem_map.mp hf

theorem timers_observe :
    ∀ t ∈ timers, Observes (fun x => (t.value x, t.bounds)) t.observes t.family.name := by
  simp only [timers, List.forall_mem_cons]
  exact ⟨observes_requests, observes_database, by simp⟩

theorem timers_bounds : ∀ t ∈ timers, Metric.Ascending t.bounds ∧
    (t.bounds.map valueText ++ ["+Inf"]).Nodup := by
  simp only [timers, List.forall_mem_cons]
  exact ⟨⟨⟨by decide +kernel, by decide +kernel⟩, by decide +kernel⟩,
    ⟨⟨by decide +kernel, by decide +kernel⟩, by decide +kernel⟩, by simp⟩

/-- The labels and bounds of each family of histograms do not depend on the requests. -/
theorem shaped_run (calls : List Call) : ∀ f ∈ timingFamilies, Shaped (changes calls) f := by
  have hlabels : ∀ t ∈ timers, t.family.labels = routeLabels := by
    simp only [timers, List.forall_mem_cons]
    exact ⟨rfl, rfl, by simp⟩
  intro f hf
  obtain ⟨t, ht, rfl⟩ := exists_timer hf
  refine ⟨fun key hkey => ?_, fun key hkey => ?_⟩
  · obtain ⟨c, -, -, rfl⟩ := (mem_observedKeys (timers_observe t ht)).mp hkey
    rw [hlabels t ht, length_key]
  · rw [boundsAt_changes (timers_observe t ht) hkey]
    exact (timers_bounds t ht).2

theorem timed_run (hcalls : calls.length < exactLimit) :
    ∀ f ∈ timingFamilies, Timed (changes calls) f := by
  intro f hf
  obtain ⟨t, ht, rfl⟩ := exists_timer hf
  refine ⟨shaped_run calls t.family hf, ?_, ?_⟩
  · intro key hkey
    rw [boundsAt_changes (timers_observe t ht) hkey]
    exact (timers_bounds t ht).1
  · rw [observations_changes (timers_observe t ht), List.length_map]
    exact (List.length_filter_le _ _).trans_lt hcalls

end Timings

section Recovery

theorem nodup_alertKeys : (Alert.Kind.all.map fun alert => [alert.name]).Nodup := by
  decide

theorem alertSamples_sound {f : Family} (hf : f.Sound) (hlabels : f.labels = ["alert"])
    {kind : String} (hkind : '\n' ∉ kind.toList) {text : Number → String}
    (htext : ∀ x, ∀ c ∈ (text x).toList, Number.isPlain c = true) (pick : Alert.Kind → Number) :
    (numberBlock f kind text (alertSamples pick)).Sound := by
  have hkeys : (alertSamples pick).map (·.1) = Alert.Kind.all.map fun alert => [alert.name] := by
    rw [alertSamples, List.map_map]
    rfl
  refine Metric.numberBlock_sound hf hkind htext ?_ fun s hs => ?_
  · rw [hkeys]
    exact nodup_alertKeys
  · obtain ⟨alert, -, rfl⟩ := List.mem_map.mp hs
    rw [hlabels]
    rfl

/-- How often each alert was announced, in the order of the names. -/
def announced (m : Monitor) : List (LabelKey × Nat) :=
  Alert.Kind.sorted.map fun alert => ([alert.name], (m.alerts.get alert).breachCount)

theorem sortSeries_alerts {α : Type} (pick : Alert.Kind → α) :
    Metric.sortSeries (Alert.Kind.all.map fun alert => ([alert.name], pick alert)) =
      Alert.Kind.sorted.map fun alert => ([alert.name], pick alert) := by
  have hrate : Metric.keyLe ["request_p95_ms"] ["error_rate_pct"] = false := by decide +kernel
  have haverage : Metric.keyLe ["error_rate_pct"] ["db_avg_ms"] = false := by decide +kernel
  have hsorted : Alert.Kind.all.mergeSort (fun a b => Metric.keyLe [a.name] [b.name]) =
      Alert.Kind.sorted := by
    simp [Alert.Kind.all, Alert.Kind.sorted, Alert.Kind.name, List.mergeSort, hrate, haverage]
  rw [← hsorted, Metric.sortSeries]
  exact (List.map_mergeSort (r := fun (a b : Alert.Kind) => Metric.keyLe [a.name] [b.name])
    (s := fun (a b : LabelKey × α) => Metric.keyLe a.1 b.1) fun _ _ _ _ => rfl).symm

theorem samples?_breaches {m : Monitor}
    (h : ∀ alert, (m.alerts.get alert).breachCount < exactLimit) :
    samples? breachesFamily.name (numberBlock breachesFamily "counter" wholeText m.breaches).rows =
      some m.announced := by
  have hitems : exactEntries (Alert.Kind.all.map fun alert =>
      ([alert.name], (m.alerts.get alert).breachCount)) = m.breaches := by
    rw [exactEntries, List.map_map]
    rfl
  rw [← hitems, announced, ← sortSeries_alerts]
  refine Metric.samples?_numberBlock ?_ (fun i hi => ?_) (fun i hi => ?_) _
  · rw [List.map_map]
    exact nodup_alertKeys
  · obtain ⟨alert, -, rfl⟩ := List.mem_map.mp hi
    rfl
  · obtain ⟨alert, -, rfl⟩ := List.mem_map.mp hi
    exact h alert

variable {m : Monitor} {calls : List Call}
  (hstore : m.store = ({} : Store).applyAll (changes calls))
include hstore

/-- Whatever was requested, every block of the text is sound. -/
theorem blocks_sound (uptime : Number) : ∀ b ∈ m.blocks uptime, b.Sound := by
  have hcounter : ∀ f ∈ counterFamilies, (counterBlock m.store f).Sound := by
    intro f hf
    rw [hstore]
    exact Metric.counterBlock_sound (family_sound f (by simp [hf])) fun e he =>
      (gain_increments calls f hf e he).1
  have htiming : ∀ f ∈ timingFamilies, (timingBlock m.store f).Sound := by
    intro f hf
    rw [hstore]
    exact (shaped_run calls f hf).sound (family_sound f (by simp [hf]))
  have hgauge : ∀ f ∈ gaugeFamilies, f.Sound := fun f hf => family_sound f (by simp [hf])
  simp only [gaugeFamilies, List.forall_mem_cons] at hgauge
  obtain ⟨hbreaches, hactive, huptime, -⟩ := hgauge
  simp only [counterFamilies, List.forall_mem_cons] at hcounter
  obtain ⟨hrequests, herrors, hdatabaseCalls, hhits, hfailures, -⟩ := hcounter
  simp only [timingFamilies, List.forall_mem_cons] at htiming
  obtain ⟨hrequest, hdatabase, -⟩ := htiming
  simp only [blocks, List.forall_mem_cons]
  refine ⟨hrequests, herrors, hrequest, hdatabaseCalls, hhits, hfailures, hdatabase,
    alertSamples_sound hbreaches rfl (by decide) Metric.isPlain_wholeText _,
    alertSamples_sound hactive rfl (by decide) Metric.isPlain_valueText _, ?_, by simp⟩
  refine Metric.numberBlock_sound huptime (by decide) Metric.isPlain_valueText
    (List.nodup_singleton _) fun s hs => ?_
  rw [List.mem_singleton.mp hs]
  rfl

/-- A scraper reads the totals of a family of counters. -/
theorem samples?_counter {f : Family} (hf : f ∈ counterFamilies) {entries : List (LabelKey × Nat)}
    (h : Counted (changes calls) f entries) (uptime : Number) :
    samples? f.name ((m.blocks uptime).flatMap Block.rows) =
      some (Metric.sortSeries (Metric.totals entries)) := by
  have hcounter : ∀ f ∈ counterFamilies, counterBlock m.store f ∈ m.blocks uptime := by
    simp [counterFamilies, blocks]
  have hread := h.samples?
  rw [← hstore] at hread
  rw [Metric.samples?_block (blocks_sound hstore uptime) (nodup_names m uptime) (hcounter f hf)
    List.mem_cons_self]
  exact hread

end Recovery

/-- What a scraper finds in a text: the content of the store and the announced alerts, and no line,
series or label that is not meant. -/
structure Recovers (m : Monitor) (text : String) (doc : List Series) : Prop where
  read : scrape? text = some doc
  counters : ∀ f ∈ counterFamilies, ∃ rows, samples? f.name doc = some rows ∧
    (exactEntries rows).Perm (Metric.family m.store.counters f.name)
  buckets : ∀ f ∈ timingFamilies, samples? (f.name ++ "_bucket") doc =
    some ((sortedHistograms m.store f.name).flatMap fun s =>
      s.2.cumulated.map fun b => (s.1 ++ [b.1], b.2))
  counts : ∀ f ∈ timingFamilies, samples? (f.name ++ "_count") doc =
    some ((sortedHistograms m.store f.name).map fun s => (s.1, s.2.count))
  alerts : samples? breachesFamily.name doc = some m.announced
  once : (doc.map fun s => (s.name, s.labels)).Nodup
  ordered : ∀ entry ∈ schema, "le" ∉ entry.2 →
    (keysOf entry.1 doc).Pairwise fun a b => compareKeys a b < 0
  named : ∀ s ∈ doc, (s.name, s.labels.map (·.1)) ∈ schema
  silent : (Text.splitWhere (· == '\n') text.toList).filter Metric.isSilent =
    comments.map String.toList ++ [[]]
  lines : (Text.splitWhere (· == '\n') text.toList).length = comments.length + doc.length + 1

theorem recovers_of_blocks {m : Monitor} {calls : List Call} (hcalls : Countable calls)
    (hstore : m.store = ({} : Store).applyAll (changes calls))
    (halerts : ∀ alert, (m.alerts.get alert).breachCount < exactLimit) (uptime : Number) :
    Recovers m (String.intercalate "\n" (m.lines uptime ++ [""]))
      ((m.blocks uptime).flatMap Block.rows) := by
  have hsound := blocks_sound hstore uptime
  have hnames := nodup_names m uptime
  have htimed := timed_run hcalls.requests
  have hlines := lines_eq m uptime
  have htiming : ∀ f ∈ timingFamilies, timingBlock m.store f ∈ m.blocks uptime := by
    simp [timingFamilies, blocks]
  have hbreaches : numberBlock breachesFamily "counter" wholeText m.breaches ∈
      m.blocks uptime := by
    simp [blocks]
  constructor
  case read =>
    rw [hlines]
    exact Metric.scrape?_blocks hsound
  case counters =>
    intro f hf
    obtain ⟨entries, h⟩ := counted_run hcalls f hf
    refine ⟨_, samples?_counter hstore hf h uptime, ?_⟩
    rw [hstore, h.family_eq]
    exact (List.mergeSort_perm _ _).map _
  case buckets =>
    intro f hf
    rw [Metric.samples?_block hsound hnames (htiming f hf) List.mem_cons_self, hstore]
    exact (htimed f hf).samples?_bucket
  case counts =>
    intro f hf
    have hname : f.name ++ "_count" ∈ (timingBlock m.store f).names :=
      List.mem_cons_of_mem _ (List.mem_cons_of_mem _ List.mem_cons_self)
    rw [Metric.samples?_block hsound hnames (htiming f hf) hname, hstore]
    exact (htimed f hf).samples?_count
  case alerts =>
    rw [Metric.samples?_block hsound hnames hbreaches List.mem_cons_self]
    exact samples?_breaches halerts
  case once => exact Metric.nodup_blocks hsound hnames
  case ordered =>
    rw [← schema_eq m uptime]
    exact Metric.ordered_blocks hsound hnames
  case named =>
    rw [← schema_eq m uptime]
    exact Metric.schema_blocks hsound
  case silent =>
    rw [hlines, Metric.silent_blocks hsound, comments_eq]
  case lines =>
    rw [hlines, Metric.splitWhere_lines (Metric.newline_not_mem_lines hsound), List.length_append,
      List.length_map, Metric.length_lines, comments_eq]
    rfl

/-- The keys of the counted requests are their cleaned texts. -/
theorem mem_keys_requests (calls : List Call) (key : LabelKey) :
    key ∈ (Metric.family (({} : Store).applyAll (changes calls)).counters requestsTotal).keys ↔
      ∃ c ∈ calls, c.tally.seriesKey = key := by
  have hkeys : (exactEntries (countEntries Tally.seriesKey (fun _ => 1) calls)).map (·.1) =
      calls.map fun c => c.tally.seriesKey := by
    rw [countEntries_requests, exactEntries, List.map_map, List.map_map]
    rfl
  rw [Store.counters_applyAll, increments_changes (counts_requests calls), Metric.family_nil,
    Table.keys_enterAll, Table.mem_distinct, hkeys, List.mem_map]

theorem countable_stored {calls : List Call} (h : Countable calls)
    (settings : Settings.Observability) : Countable (stored settings calls) := by
  unfold stored
  split
  · exact h
  · exact countable_of_totals (by decide) (by decide) (by decide) (by decide)

/-- With the exposition on and a wall clock that can be read, one fixed reader finds in the text the
content of the store: the keys and values of each family of counters, and the keys, the sums of the
buckets and the counts of each family of histograms. Every series is on one line, keys are strictly
increasing under each name, comments and names are fixed and the keys of the requests are their
cleaned texts, whatever characters these have. -/
theorem scrape_render (settings : Settings.Observability) (startedAt : Number)
    (hon : settings.prometheusEnabled = true) (calls : List Call) (hcalls : Countable calls)
    (now : Number) :
    let m := (start settings startedAt).run calls
    ∃ text doc, m.render (.ok now) = .ok text ∧ Recovers m text doc ∧
      ∀ key, key ∈ keysOf requestsTotal doc ↔
        settings.metricsEnabled = true ∧ ∃ c ∈ calls, c.tally.seriesKey = key := by
  intro m
  have hsettings : m.settings.prometheusEnabled = true := by
    rw [run_settings]
    exact hon
  have hstore := store_run_start settings startedAt calls
  have halerts : ∀ alert, (m.alerts.get alert).breachCount < exactLimit := by
    intro alert
    have hzero : ((start settings startedAt).alerts.get alert).breachCount = 0 := by
      cases alert <;> rfl
    have hle := breachCount_run_le (start settings startedAt) calls alert
    rw [hzero, Nat.zero_add] at hle
    exact hle.trans_lt hcalls.requests
  have hrecovers :=
    recovers_of_blocks (countable_stored hcalls settings) hstore halerts (m.uptime now)
  refine ⟨_, _, if_pos hsettings, hrecovers, fun key => ?_⟩
  -- The keys that are read are those of the store, and these are those of the requests.
  obtain ⟨rows, hrows, hperm⟩ := hrecovers.counters requestsFamily List.mem_cons_self
  have hkeys := Metric.keysOf_of_samples? hrows
  have hfst : (exactEntries rows).map (·.1) = rows.map (·.1) := by
    rw [exactEntries, List.map_map]
    rfl
  have hmem := (hperm.map (·.1)).mem_iff (a := key)
  rw [hfst, ← hkeys, hstore] at hmem
  refine hmem.trans ((mem_keys_requests (stored settings calls) key).trans ?_)
  unfold stored
  split
  · rename_i h
    simp [h]
  · rename_i h
    simp [h]

/-- Two requests whose texts look like labels, series and lines. -/
def forgingCalls : List Call :=
  [⟨{ method := .text "get\"\x7d 9\n", path := .text "/a\",path=\"/b\\", statusCode := .number 200
      elapsedMs := .number 3 }, .error (.plain "no clock"), .calm⟩,
    ⟨{ method := .text "get", path := .text "/a\n# TYPE x counter\nx 1", statusCode := .text "503"
       elapsedMs := .number 7, cacheHits := .number 2 }, .ok 5, .calm⟩]

theorem scrape_render_forgingCalls :
    let settings := Settings.Observability.resolve .absent
    let m := (start settings 0).run forgingCalls
    (settings.prometheusEnabled = true ∧ Countable forgingCalls) ∧
      ∃ text doc, m.render (.ok 9000) = .ok text ∧ Recovers m text doc ∧
        ["GET\"\x7d 9", "/a\",path=\"/b\\", "2xx"] ∈ keysOf requestsTotal doc ∧
        ["GET", "/a # TYPE x counter x 1", "5xx"] ∈ keysOf requestsTotal doc ∧
        ["GET", "/a", "5xx"] ∉ keysOf requestsTotal doc := by
  intro settings m
  have hon : settings.prometheusEnabled = true := by decide +kernel
  have hmetrics : settings.metricsEnabled = true := by decide +kernel
  have hcalls : Countable forgingCalls := countable_of_totals (by decide) (by decide +kernel)
    (by decide +kernel) (by decide +kernel)
  obtain ⟨text, doc, hrender, hrecovers, hkeys⟩ :=
    scrape_render settings 0 hon forgingCalls hcalls 9000
  refine ⟨⟨hon, hcalls⟩, text, doc, hrender, hrecovers, ?_, ?_, ?_⟩
  · rw [hkeys]
    exact ⟨hmetrics, by decide +kernel⟩
  · rw [hkeys]
    exact ⟨hmetrics, by decide +kernel⟩
  · rw [hkeys]
    exact fun h => absurd h.2 (by decide +kernel)

end Telemetry.Monitor
