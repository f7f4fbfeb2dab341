import Telemetry.Proofs.Metric.Wire
import Telemetry.Proofs.Monitor.Exposition

/-! # The two exports agree

As long as no clock and no socket fails, the datagrams that a run sends and the text of its monitor
afterwards tell the same: under each pair of names the datagrams add up to what the series add up
to, which is what the requests add up to.
-/
namespace Telemetry.Monitor
open Telemetry.Metric (LabelKey Store Emission IsClean counts? timings readDatagram? datagram?
  sentLines scrape? samples? wholeCount countAt Counted)
open Telemetry.Number (exactLimit)

/-- A call that meets a clock that can be read and sockets that send. -/
structure Call.Quiet (c : Call) : Prop where
  clock : ∃ now, c.clock = .ok now
  network : ∀ n, (c.trials n).network.Sound

/-- The lines that the requests of a run send. -/
def sent (m : Monitor) : List Call → List String
  | [] => []
  | c :: rest =>
    sentLines (m.record c.observation c.clock c.trials).actions ++ (m.call c).sent rest

section Sending

variable {m : Monitor}

theorem forward_sends (hon : m.settings.metricsEnabled = true)
    (hsink : m.sink.settings.enabled = true) (t : Tally) {trials : Metric.Trials}
    (hsound : ∀ n, (trials n).network.Sound) :
    sentLines (m.forward t trials).actions =
        (t.emissions.filterMap (datagram? m.sink.settings.scope)).map Metric.Datagram.text ∧
      (m.forward t trials).monitor.sink.settings = m.sink.settings := by
  have hsends := Metric.performAll_sends hsound hsink t.emissions
  have hboth : (m.settings.metricsEnabled && m.sink.settings.enabled) = true := by
    rw [hon, hsink, Bool.and_self]
  unfold forward
  rw [if_pos hboth]
  generalize m.sink.performAll trials t.emissions = step at hsends
  exact ⟨hsends.lines, hsends.settings⟩

/-- With a working clock a request is recorded first and then forwarded. -/
theorem record_forward (m : Monitor) (o : Observation) (now : Number) (trials : Metric.Trials) :
    ∃ before : Monitor, before.settings = m.settings ∧ before.sink = m.sink ∧
      (m.record o (.ok now) trials).actions = (before.forward o.tally trials).actions ∧
      (m.record o (.ok now) trials).monitor = (before.forward o.tally trials).monitor := by
  unfold record
  dsimp only
  rw [← counted_eq, counted_settings]
  split
  · refine ⟨((m.counted o.tally).updateAlerts o.tally now).monitor, ?_, ?_, rfl, rfl⟩
    · rw [updateAlerts_monitor]
      rfl
    · rw [updateAlerts_monitor]
      rfl
  · exact ⟨m.counted o.tally, rfl, rfl, rfl, rfl⟩

/-- A call sends the emissions of its request. -/
theorem record_sends (hon : m.settings.metricsEnabled = true)
    (hsink : m.sink.settings.enabled = true) {c : Call} (h : c.Quiet) :
    sentLines (m.record c.observation c.clock c.trials).actions =
        (c.tally.emissions.filterMap (datagram? m.sink.settings.scope)).map
          Metric.Datagram.text ∧
      (m.call c).sink.settings = m.sink.settings := by
  obtain ⟨now, hclock⟩ := h.clock
  obtain ⟨before, hsettings, hsame, hactions, hmonitor⟩ :=
    record_forward m c.observation now c.trials
  rw [← hsettings] at hon
  rw [← hsame] at hsink ⊢
  rw [call, hclock, hactions, hmonitor]
  exact forward_sends hon hsink c.tally h.network

theorem sent_run (hon : m.settings.metricsEnabled = true)
    (hsink : m.sink.settings.enabled = true) {calls : List Call} (h : ∀ c ∈ calls, c.Quiet) :
    m.sent calls = ((calls.flatMap fun c => c.tally.emissions).filterMap
      (datagram? m.sink.settings.scope)).map Metric.Datagram.text := by
  induction calls generalizing m with
  | nil => rfl
  | cons c rest ih =>
    obtain ⟨hlines, hsettings⟩ := record_sends hon hsink (h c List.mem_cons_self)
    have hrest := ih (m := m.call c) (by rw [call_settings]; exact hon)
      (by rw [hsettings]; exact hsink) fun c hc => h c (List.mem_cons_of_mem _ hc)
    rw [sent, hlines, hrest, hsettings, List.flatMap_cons, List.filterMap_append, List.map_append]

end Sending

section Emissions

theorem exact_one {name : String} (h : IsClean name) : (Emission.counter name 1).Exact := by
  rw [Number.literal_eq]
  exact .counter h (by decide)

theorem exact_amount {name : String} (h : IsClean name) {value : Datum}
    (hpos : positive (Metric.wholeAmount value) = true)
    (hsmall : wholeCount (Metric.wholeAmount value) < exactLimit) :
    (Emission.counter name (Metric.wholeAmount value)).Exact := by
  have hcount := (positive_wholeAmount value).mp hpos
  rw [Metric.wholeAmount_eq_ofNat hcount hsmall.le]
  exact .counter h hsmall

/-- What a request sends are counts and durations under clean names. -/
theorem exact_emissions {calls : List Call} (hcalls : Countable calls) {c : Call} (hc : c ∈ calls)
    (hcode : ∀ code, Metric.statusCode? c.observation.statusCode = some code →
      code.lt (Number.ofNat (10 ^ 21)) = true) : ∀ e ∈ c.tally.emissions, e.Exact := by
  have hclean : ∀ name ∈ ["http.requests_total", "http.request_duration_ms",
      "http.request_errors_total", "db.calls_total", "db.duration_ms", "db.cache_hits_total",
      "db.errors_total"], IsClean name := by
    decide +kernel
  simp only [List.forall_mem_cons] at hclean
  obtain ⟨hrequests, hduration, herrors, hdatabase, hdatabaseMs, hhits, hfailures, -⟩ := hclean
  obtain ⟨hfin, hpos⟩ := Metric.amount_nonneg c.observation.elapsedMs
  obtain ⟨hdbfin, hdbpos⟩ := Metric.amount_nonneg c.observation.databaseMs
  have hite : ∀ (b : Bool) (e : Emission), (b = true → e.Exact) →
      ∀ x ∈ (if b then [e] else []), x.Exact := by
    intro b e he x hx
    cases b with
    | false => cases hx
    | true => exact List.mem_singleton.mp hx ▸ he rfl
  unfold Tally.emissions
  simp only [List.forall_mem_append, List.forall_mem_cons]
  refine ⟨⟨⟨⟨⟨⟨exact_one hrequests, exact_one (Metric.isClean_status hcode),
    .timing hduration hfin hpos, by simp⟩, ?_⟩, ?_⟩, ?_⟩, ?_⟩, ?_⟩
  · exact hite _ _ fun _ => exact_one herrors
  · exact hite _ _ fun h => exact_amount hdatabase h
      ((le_total hc).trans_lt (hcalls.databaseCalls _ _))
  · exact hite _ _ fun _ => .timing hdatabaseMs hdbfin hdbpos
  · exact hite _ _ fun h => exact_amount hhits h ((le_total hc).trans_lt (hcalls.cacheHits _ _))
  · exact hite _ _ fun h => exact_amount hfailures h
      ((le_total hc).trans_lt (hcalls.databaseErrors _ _))

theorem sum_count_ite (name other : String) (b : Bool) (value : Number) :
    ((if b then [Emission.counter other value] else []).map (Emission.count name)).sum =
      if b && decide (other = name) then wholeCount value else 0 := by
  cases b <;> by_cases h : other = name <;> simp [Emission.count, h]

theorem sum_count_ite_timing (name other : String) (b : Bool) (ms : Number) :
    ((if b then [Emission.timing other ms] else []).map (Emission.count name)).sum = 0 := by
  cases b <;> simp [Emission.count]

/-- An amount that is not sent is zero. -/
theorem ite_positive (value : Datum) (b : Bool) :
    (if positive (Metric.wholeAmount value) && b then wholeCount (Metric.wholeAmount value) else 0) =
      if b then wholeCount (Metric.wholeAmount value) else 0 := by
  have hpos := positive_wholeAmount value
  cases hp : positive (Metric.wholeAmount value) with
  | true => rw [Bool.true_and]
  | false =>
    rw [hp] at hpos
    have hz : wholeCount (Metric.wholeAmount value) = 0 := by
      by_contra hne
      exact absurd (hpos.mpr (Nat.pos_of_ne_zero hne)) (by decide)
    rw [hz, ite_self, ite_self]

theorem sum_count_emissions (o : Observation) (name : String) :
    (o.tally.emissions.map (Emission.count name)).sum =
      (if "http.requests_total" = name then 1 else 0) +
      (if "http.status_" ++ o.tally.statusClass = name then 1 else 0) +
      (if o.tally.isError && decide ("http.request_errors_total" = name) then 1 else 0) +
      (if "db.calls_total" = name then wholeCount o.tally.databaseCalls else 0) +
      (if "db.cache_hits_total" = name then wholeCount o.tally.cacheHits else 0) +
      (if "db.errors_total" = name then wholeCount o.tally.databaseErrors else 0) := by
  have hone : wholeCount 1 = 1 := by
    rw [Number.literal_eq, Metric.wholeCount_ofNat (by decide)]
  have hcalls := ite_positive o.databaseCalls (decide ("db.calls_total" = name))
  have hhits := ite_positive o.cacheHits (decide ("db.cache_hits_total" = name))
  have hfailures := ite_positive o.databaseErrors (decide ("db.errors_total" = name))
  simp only [decide_eq_true_eq] at hcalls hhits hfailures
  unfold Tally.emissions
  simp only [List.map_append, List.sum_append, sum_count_ite, sum_count_ite_timing]
  simp only [List.map_cons, List.map_nil, List.sum_cons, List.sum_nil, Emission.count, hone]
  rw [Observation.tally]
  dsimp only
  rw [hcalls, hhits, hfailures]
  simp only [Nat.add_zero, Nat.add_assoc]

theorem status_ne {name : String} (h : ¬ "http.status_".toList <+: name.toList)
    (statusClass : String) : "http.status_" ++ statusClass ≠ name := by
  rintro rfl
  refine h ?_
  rw [String.toList_append]
  exact List.prefix_append _ _

theorem status_inj {a b : String} : "http.status_" ++ a = "http.status_" ++ b ↔ a = b := by
  simp [← String.toList_inj]

/-- The datagrams of a class count the requests of that class. -/
theorem sum_count_status (o : Observation) (statusClass : String) :
    (o.tally.emissions.map (Emission.count ("http.status_" ++ statusClass))).sum =
      if o.tally.statusClass = statusClass then 1 else 0 := by
  have hne : ∀ name ∈ ["http.requests_total", "http.request_errors_total", "db.calls_total",
      "db.cache_hits_total", "db.errors_total"], ¬ name = "http.status_" ++ statusClass := by
    have hstart : ∀ name ∈ ["http.requests_total", "http.request_errors_total", "db.calls_total",
        "db.cache_hits_total", "db.errors_total"], ¬ "http.status_".toList <+: name.toList := by
      decide
    exact fun name hname => Ne.symm (status_ne (hstart name hname) statusClass)
  simp only [List.forall_mem_cons] at hne
  obtain ⟨hrequests, herrors, hcalls, hhits, hfailures, -⟩ := hne
  rw [sum_count_emissions]
  simp only [status_inj, hrequests, herrors, hcalls, hhits, hfailures, if_false, decide_false,
    Bool.and_false, Bool.false_eq_true, Nat.zero_add, Nat.add_zero]

theorem countP_timing_ite (name other : String) (b : Bool) (ms : Number) :
    (if b then [Emission.timing other ms] else []).countP (Emission.isTiming name) =
      if b && decide (other = name) then 1 else 0 := by
  cases b <;> by_cases h : other = name <;> simp [Emission.isTiming, h]

theorem countP_counter_ite (name other : String) (b : Bool) (value : Number) :
    (if b then [Emission.counter other value] else []).countP (Emission.isTiming name) = 0 := by
  cases b <;> simp [Emission.isTiming]

theorem countP_timing_emissions (t : Tally) (name : String) :
    t.emissions.countP (Emission.isTiming name) =
      (if "http.request_duration_ms" = name then 1 else 0) +
      (if (positive t.databaseCalls && positive t.databaseMs) &&
        decide ("db.duration_ms" = name) then 1 else 0) := by
  have hhead : ∀ (total status duration : String) (one ms : Number),
      [Emission.counter total one, .counter status one, .timing duration ms].countP
        (Emission.isTiming name) = if duration = name then 1 else 0 := by
    simp [List.countP_cons, Emission.isTiming]
  unfold Tally.emissions
  simp only [List.countP_append, hhead, countP_timing_ite, countP_counter_ite, Nat.add_zero]

end Emissions

section Names

/-- The counters that are exported twice, under their names on the wire. -/
def exports : List (String × Tallied) :=
  [("http.requests_total", ⟨requestsFamily, Tally.seriesKey, fun _ => 1⟩),
    ("http.request_errors_total",
      ⟨requestErrorsFamily, Tally.key, fun t => if t.isError then 1 else 0⟩),
    ("db.calls_total", ⟨databaseCallsFamily, Tally.key, fun t => wholeCount t.databaseCalls⟩),
    ("db.cache_hits_total", ⟨cacheHitsFamily, Tally.key, fun t => wholeCount t.cacheHits⟩),
    ("db.errors_total", ⟨databaseErrorsFamily, Tally.key, fun t => wholeCount t.databaseErrors⟩)]

/-- The durations that are exported twice, with the requests that have them. -/
def timedExports : List (String × Metric.Family × (Tally → Bool)) :=
  [("http.request_duration_ms", requestDurationFamily, fun _ => true),
    ("db.duration_ms", databaseDurationFamily,
      fun t => positive t.databaseCalls && positive t.databaseMs)]

theorem exports_tallied : exports.map (·.2) = tallied := rfl

theorem sum_count_exports (o : Observation) : ∀ e ∈ exports,
    (o.tally.emissions.map (Emission.count e.1)).sum = e.2.amount o.tally := by
  have hstatus : ∀ name ∈ exports.map (·.1), ¬ "http.status_".toList <+: name.toList := by
    decide +kernel
  intro e he
  have hne := status_ne (hstatus e.1 (List.mem_map_of_mem he)) o.tally.statusClass
  rw [sum_count_emissions, if_neg hne]
  clear hne hstatus
  revert e
  simp only [exports, List.forall_mem_cons]
  refine ⟨?_, ?_, ?_, ?_, ?_, by simp⟩ <;> simp

theorem countP_timedExports (t : Tally) : ∀ e ∈ timedExports,
    t.emissions.countP (Emission.isTiming e.1) = if e.2.2 t then 1 else 0 := by
  simp only [timedExports, List.forall_mem_cons]
  refine ⟨?_, ?_, by simp⟩
  · refine (countP_timing_emissions t _).trans ?_
    simp only [String.reduceEq, decide_false, Bool.and_false, Bool.false_eq_true, if_false, if_true,
      Nat.add_zero]
  · refine (countP_timing_emissions t _).trans ?_
    simp only [String.reduceEq, decide_true, Bool.and_true, if_false, Nat.zero_add]

theorem length_observations (calls : List Call) : ∀ e ∈ timedExports,
    (Metric.observations e.2.1.name (changes calls)).length =
      calls.countP fun c => e.2.2 c.tally := by
  simp only [timedExports, List.forall_mem_cons]
  refine ⟨?_, ?_, by simp⟩
  · rw [List.countP_eq_length_filter]
    exact (congrArg List.length (observations_changes observes_requests calls)).trans
      (List.length_map _)
  · rw [List.countP_eq_length_filter]
    exact (congrArg List.length (observations_changes observes_database calls)).trans
      (List.length_map _)

end Names

section Sums

variable {calls : List Call}

theorem sum_flatMap_emissions (count : Emission → Nat) (calls : List Call) :
    ((calls.flatMap fun c => c.tally.emissions).map count).sum =
      (calls.map fun c => (c.tally.emissions.map count).sum).sum := by
  induction calls with
  | nil => rfl
  | cons c rest ih =>
    rw [List.flatMap_cons, List.map_append, List.sum_append, ih, List.map_cons, List.sum_cons]

/-- Adding up the entries under the selected keys is adding up the requests with these keys. -/
theorem sum_countEntries (key : Tally → LabelKey) (amount : Tally → Nat) (calls : List Call)
    (p : LabelKey → Bool) :
    (((countEntries key amount calls).filter fun e => p e.1).map (·.2)).sum =
      ((calls.filter fun c => p (key c.tally)).map fun c => amount c.tally).sum := by
  induction calls with
  | nil => rfl
  | cons c rest ih =>
    unfold countEntries at ih ⊢
    rw [List.flatMap_cons, List.filter_append, List.map_append, List.sum_append, ih,
      List.filter_cons]
    by_cases hn : amount c.tally = 0 <;> by_cases hp : p (key c.tally) = true <;> simp [hn, hp]

theorem sum_sortSeries_countEntries (key : Tally → LabelKey) (amount : Tally → Nat)
    (calls : List Call) (p : LabelKey → Bool) :
    (((Metric.sortSeries (Metric.totals (countEntries key amount calls))).filter
        fun row => p row.1).map (·.2)).sum =
      ((calls.filter fun c => p (key c.tally)).map fun c => amount c.tally).sum :=
  (Metric.sum_totals _ p).trans (sum_countEntries key amount calls p)

end Sums

section Received

/-- The datagrams of the requests, in the order in which they are sent. -/
def received (scope : String) (calls : List Call) : List Metric.Datagram :=
  (calls.flatMap fun c => c.tally.emissions).filterMap (datagram? scope)

variable (scope : String) {calls : List Call}
  (hexact : ∀ e ∈ calls.flatMap fun c => c.tally.emissions, e.Exact)
include hexact

/-- If every request adds an amount under a name, the counters received add up to the amounts. -/
theorem counts?_received {name : String} {amount : Call → Nat}
    (h : ∀ c, (c.tally.emissions.map (Emission.count name)).sum = amount c) :
    ∃ found, counts? (scope ++ "." ++ name) (received scope calls) = some found ∧
      found.sum = (calls.map amount).sum := by
  obtain ⟨found, hfound, hsum⟩ := Metric.counts?_datagrams scope name hexact
  refine ⟨found, hfound, ?_⟩
  rw [hsum, sum_flatMap_emissions]
  exact congrArg List.sum (List.map_congr_left fun c _ => h c)

theorem length_timings_received (e : String × Metric.Family × (Tally → Bool))
    (he : e ∈ timedExports) :
    (timings (scope ++ "." ++ e.1) (received scope calls)).length =
      calls.countP fun c => e.2.2 c.tally := by
  rw [received, Metric.length_timings scope e.1 hexact, List.countP_flatMap, ← sum_map_ite]
  exact congrArg List.sum (List.map_congr_left fun c _ => countP_timedExports c.tally e he)

end Received

def classOf? : LabelKey → Option String
  | [_, _, statusClass] => some statusClass
  | _ => none

/-- While no clock and no socket fails, the exports of a run agree. The counters received under a
name add up to the values of the matching family over all its keys, and to what the requests add.
The counters of a class add up to the requests with that class, and the durations received under a
name are as many as the matching histograms have observed. -/
theorem exports_of_run (settings : Settings.Observability) (startedAt : Number)
    (hmetrics : settings.metricsEnabled = true) (hprometheus : settings.prometheusEnabled = true)
    (hstatsd : settings.statsd.enabled = true) (calls : List Call)
    (hquiet : ∀ c ∈ calls, c.Quiet) (hcalls : Countable calls)
    (hcodes : ∀ c ∈ calls, ∀ code, Metric.statusCode? c.observation.statusCode = some code →
      code.lt (Number.ofNat (10 ^ 21)) = true) (now : Number) :
    let m := start settings startedAt
    let named := fun name => settings.statsd.scope ++ "." ++ name
    ∃ text doc received, (m.run calls).render (.ok now) = .ok text ∧ scrape? text = some doc ∧
      (m.sent calls).mapM readDatagram? = some received ∧
      (∀ e ∈ exports, ∃ found rows, counts? (named e.1) received = some found ∧
        samples? e.2.family.name doc = some rows ∧ found.sum = (rows.map (·.2)).sum ∧
        found.sum = (calls.map fun c => e.2.amount c.tally).sum) ∧
      (∀ statusClass, ∃ found rows,
        counts? (named ("http.status_" ++ statusClass)) received = some found ∧
        samples? requestsTotal doc = some rows ∧
        found.sum = ((rows.filter fun row => classOf? row.1 = some statusClass).map (·.2)).sum ∧
        found.sum = calls.countP fun c => c.tally.statusClass = statusClass) ∧
      (∀ e ∈ timedExports, ∃ rows, samples? (e.2.1.name ++ "_count") doc = some rows ∧
        (timings (named e.1) received).length = (rows.map (·.2)).sum ∧
        (timings (named e.1) received).length = calls.countP fun c => e.2.2 c.tally) := by
  intro m named
  have hstore : (m.run calls).store = ({} : Store).applyAll (changes calls) :=
    store_run m hmetrics calls
  have halerts : ∀ alert, ((m.run calls).alerts.get alert).breachCount < exactLimit := by
    intro alert
    have hzero : (m.alerts.get alert).breachCount = 0 := by cases alert <;> rfl
    have hle := breachCount_run_le m calls alert
    rw [hzero, Nat.zero_add] at hle
    exact hle.trans_lt hcalls.requests
  have hsettings : (m.run calls).settings.prometheusEnabled = true := by
    rw [run_settings]
    exact hprometheus
  have hrecovers := recovers_of_blocks hcalls hstore halerts ((m.run calls).uptime now)
  have hcounter := fun t (ht : t ∈ tallied) => samples?_counter hstore
    (List.mem_map_of_mem (f := Tallied.family) ht) (counted_tallied hcalls t ht)
    ((m.run calls).uptime now)
  have hexact : ∀ e ∈ calls.flatMap fun c => c.tally.emissions, e.Exact := by
    intro e he
    obtain ⟨c, hc, he⟩ := List.mem_flatMap.mp he
    exact exact_emissions hcalls hc (hcodes c hc) e he
  have hsent := sent_run (m := m) hmetrics hstatsd hquiet
  refine ⟨_, _, received settings.statsd.scope calls, if_pos hsettings, hrecovers.read, ?_, ?_, ?_,
    ?_⟩
  · rw [hsent]
    exact Metric.mapM_readDatagram? _ _
  · intro e he
    have hmem : e.2 ∈ tallied := exports_tallied ▸ List.mem_map_of_mem he
    obtain ⟨found, hfound, htotal⟩ := counts?_received settings.statsd.scope hexact
      fun c => sum_count_exports c.observation e he
    refine ⟨found, _, hfound, hcounter e.2 hmem, ?_, htotal⟩
    have hrows := sum_sortSeries_countEntries e.2.key e.2.amount calls fun _ => true
    rw [List.filter_true, List.filter_true] at hrows
    rw [htotal, hrows]
    rfl
  · intro statusClass
    have hstatus : ∀ c : Call,
        (c.tally.emissions.map (Emission.count ("http.status_" ++ statusClass))).sum =
          if decide (c.tally.statusClass = statusClass) then 1 else 0 := by
      intro c
      rw [Call.tally, sum_count_status]
      simp
    obtain ⟨found, hfound, htotal⟩ := counts?_received settings.statsd.scope hexact hstatus
    rw [sum_map_ite] at htotal
    refine ⟨found, _, hfound, hcounter _ List.mem_cons_self, ?_, htotal⟩
    have hrows := sum_sortSeries_countEntries Tally.seriesKey (fun _ => 1) calls fun key =>
      classOf? key = some statusClass
    rw [htotal, hrows, List.countP_eq_length_filter]
    simp [Tally.seriesKey, classOf?]
  · intro e he
    have hfamily : e.2.1 ∈ timingFamilies := by
      have hmap : timedExports.map (fun e => e.2.1) = timingFamilies := rfl
      rw [← hmap]
      exact List.mem_map_of_mem he
    have htotal := length_timings_received settings.statsd.scope hexact e he
    refine ⟨_, hrecovers.counts e.2.1 hfamily, ?_, htotal⟩
    rw [htotal, List.map_map, hstore]
    exact (length_observations calls e he).symm.trans
      (Metric.sum_count_sortedHistograms e.2.1.name (changes calls)).symm

/-- A request whose amounts are fractions and whose code is larger than any double that is exact. -/
def fractionalRequest : Observation :=
  { method := .text "post", path := .text "/orders", statusCode := .text "9007199254740993"
    elapsedMs := .text "0.5", databaseCalls := .text "2.9", databaseMs := .number 0
    cacheHits := .number 1 }

theorem exports_of_two_requests :
    let settings := Settings.Observability.resolve
      (.record [("statsd", .record [("enabled", .flag true)])])
    let calls : List Call := [⟨queriedRequest, .ok 5, .calm⟩, ⟨fractionalRequest, .ok 7, .calm⟩]
    let m := start settings 0
    (settings.metricsEnabled = true ∧ settings.prometheusEnabled = true ∧
      settings.statsd.enabled = true ∧ (∀ c ∈ calls, c.Quiet) ∧ Countable calls) ∧
      ∃ text doc received found rows, (m.run calls).render (.ok 9000) = .ok text ∧
        scrape? text = some doc ∧ (m.sent calls).mapM readDatagram? = some received ∧
        counts? (settings.statsd.scope ++ "." ++ "db.calls_total") received = some found ∧
        samples? databaseCallsTotal doc = some rows ∧ found.sum = 5 ∧
        (rows.map (·.2)).sum = 5 ∧
        (timings (settings.statsd.scope ++ "." ++ "db.duration_ms") received).length = 1 := by
  intro settings calls m
  have hmetrics : settings.metricsEnabled = true := by decide +kernel
  have hprometheus : settings.prometheusEnabled = true := by decide +kernel
  have hstatsd : settings.statsd.enabled = true := by decide +kernel
  have hquiet : ∀ c ∈ calls, c.Quiet := by
    simp only [calls, List.forall_mem_cons]
    exact ⟨⟨⟨5, rfl⟩, Metric.Trials.sound_calm⟩, ⟨⟨7, rfl⟩, Metric.Trials.sound_calm⟩, by simp⟩
  have hcalls : Countable calls := countable_of_totals (by decide) (by decide +kernel)
    (by decide +kernel) (by decide +kernel)
  have hcodes : ∀ c ∈ calls, ∀ code,
      Metric.statusCode? c.observation.statusCode = some code →
        code.lt (Number.ofNat (10 ^ 21)) = true := by
    have hall : ∀ c ∈ calls, (Metric.statusCode? c.observation.statusCode).all
        (fun code => code.lt (Number.ofNat (10 ^ 21))) = true := by
      decide +kernel
    intro c hc code hcode
    have hone := hall c hc
    rwa [hcode] at hone
  obtain ⟨text, doc, received, hrender, hread, hreceived, hcounters, -, htimings⟩ :=
    exports_of_run settings 0 hmetrics hprometheus hstatsd calls hquiet hcalls hcodes 9000
  simp only [exports, List.forall_mem_cons] at hcounters
  obtain ⟨-, -, ⟨found, rows, hfound, hrows, hagree, htotal⟩, -⟩ := hcounters
  simp only [timedExports, List.forall_mem_cons] at htimings
  obtain ⟨-, ⟨-, -, -, htimed⟩, -⟩ := htimings
  have hfive : (calls.map fun c => wholeCount c.tally.databaseCalls).sum = 5 := by decide +kernel
  refine ⟨⟨hmetrics, hprometheus, hstatsd, hquiet, hcalls⟩, text, doc, received, found, rows,
    hrender, hread, hreceived, hfound, hrows, htotal.trans hfive,
    hagree.symm.trans (htotal.trans hfive), htimed.trans (by decide +kernel)⟩

end Telemetry.Monitor
