import Mathlib.Algebra.Order.BigOperators.Group.List
import Telemetry.Proofs.Monitor.Changes

/-! # The counts of a run agree

Every request is counted once, whatever the clock and the sockets do meanwhile. So the families
of one route agree with each other and with the requests themselves.
-/
namespace Telemetry.Monitor
open Telemetry.Metric (LabelKey Store countAt wholeCount isErrorClass)
open Telemetry.Number (exactLimit)

def routed (calls : List Call) (method path : String) : List Call :=
  calls.filter fun c => c.tally.method = method ∧ c.tally.path = path

/-- The sum of one of the amounts over some requests. -/
def total (pick : Tally → Number) (calls : List Call) : Nat :=
  (calls.map fun c => wholeCount (pick c.tally)).sum

/-- The requests and the totals of each route stay among the exact counts. -/
structure Countable (calls : List Call) : Prop where
  requests : calls.length < exactLimit
  databaseCalls : ∀ method path, total Tally.databaseCalls (routed calls method path) < exactLimit
  cacheHits : ∀ method path, total Tally.cacheHits (routed calls method path) < exactLimit
  databaseErrors : ∀ method path,
    total Tally.databaseErrors (routed calls method path) < exactLimit

def onRoute (method path : String) (p : String → Bool) : LabelKey → Bool
  | [m, q, statusClass] => decide (m = method ∧ q = path) && p statusClass
  | _ => false

/-- The counted requests of a route, added up over the classes of codes that `p` selects. -/
def requestsOn (s : Store) (method path : String) (p : String → Bool) : Number :=
  (((Metric.family s.counters requestsTotal).filter fun row => onRoute method path p row.1).map
    (·.2)).foldl (· + ·) 0

/-- The counted requests of the selected keys, added up. -/
def requestsUnder (s : Store) (p : LabelKey → Bool) : Number :=
  (((Metric.family s.counters requestsTotal).filter fun row => p row.1).map (·.2)).foldl (· + ·) 0

variable {calls : List Call}

theorem key_eq_iff (t : Tally) (method path : String) :
    t.key = [method, path] ↔ t.method = method ∧ t.path = path := by
  simp [Tally.key]

theorem filter_key (calls : List Call) (method path : String) :
    (calls.filter fun c => c.tally.key = [method, path]) = routed calls method path := by
  unfold routed
  simp only [key_eq_iff]

theorem le_total {pick : Tally → Number} {c : Call} (hc : c ∈ calls) :
    wholeCount (pick c.tally) ≤ total pick (routed calls c.tally.method c.tally.path) := by
  have hmem : c ∈ routed calls c.tally.method c.tally.path := by simp [routed, hc]
  exact List.le_sum_of_mem (List.mem_map_of_mem hmem)

/-- It is enough that the totals over all routes are small. -/
theorem countable_of_totals (hcalls : calls.length < exactLimit)
    (hdatabase : total Tally.databaseCalls calls < exactLimit)
    (hhits : total Tally.cacheHits calls < exactLimit)
    (herrors : total Tally.databaseErrors calls < exactLimit) : Countable calls := by
  have hle : ∀ pick method path, total pick (routed calls method path) ≤ total pick calls :=
    fun pick method path =>
      (List.filter_sublist.map _).sum_le_sum fun _ _ => Nat.zero_le _
  exact ⟨hcalls, fun _ _ => (hle _ _ _).trans_lt hdatabase, fun _ _ => (hle _ _ _).trans_lt hhits,
    fun _ _ => (hle _ _ _).trans_lt herrors⟩

theorem countAt_total (calls : List Call) (pick : Tally → Number) (method path : String) :
    countAt (countEntries Tally.key (fun t => wholeCount (pick t)) calls) [method, path] =
      total pick (routed calls method path) := by
  rw [countAt_countEntries, filter_key]
  rfl

theorem sum_map_ite (here : List Call) (p : Call → Bool) :
    (here.map fun c => if p c then 1 else 0).sum = here.countP p := by
  induction here with
  | nil => rfl
  | cons c rest ih =>
    rw [List.map_cons, List.sum_cons, ih, List.countP_cons]
    omega

section Routes

variable (calls)

theorem countEntries_requests :
    countEntries Tally.seriesKey (fun _ => 1) calls =
      calls.map fun c => (c.tally.seriesKey, 1) := by
  simp [countEntries, ← List.map_eq_flatMap]

theorem countAt_requests (key : LabelKey) :
    countAt (countEntries Tally.seriesKey (fun _ => 1) calls) key =
      (calls.filter fun c => c.tally.seriesKey = key).length := by
  rw [countAt_countEntries]
  simp

theorem onRoute_seriesKey (method path : String) (p : String → Bool) :
    (calls.filter fun c => onRoute method path p c.tally.seriesKey) =
      (routed calls method path).filter fun c => p c.tally.statusClass := by
  rw [routed, List.filter_filter]
  refine List.filter_congr fun c _ => ?_
  rw [Tally.seriesKey, onRoute, Bool.and_comm]

/-- Adding up the selected series is counting the requests that belong to them. -/
theorem sum_series (p : LabelKey → Bool) :
    (((Table.distinct ((countEntries Tally.seriesKey (fun _ => 1) calls).map (·.1))).filter p).map
      (countAt (countEntries Tally.seriesKey (fun _ => 1) calls))).sum =
      calls.countP fun c => p c.tally.seriesKey := by
  have h := Table.sum_by_key (countEntries Tally.seriesKey (fun _ => 1) calls) p
  refine h.trans ?_
  rw [countEntries_requests, List.filter_map, List.map_map, List.countP_eq_length_filter]
  simp [Function.comp_def]

end Routes

theorem isErrorClass_tally (c : Call) : isErrorClass c.tally.statusClass = c.tally.isError :=
  Metric.isErrorClass_statusClass c.observation.statusCode

section Run

variable (m : Monitor) (hon : m.settings.metricsEnabled = true) (hempty : m.store = {})
include hon hempty

/-- The family of requests with its keys in order of first use and its exact counts. -/
theorem requests_run (h : calls.length < exactLimit) :
    Metric.family (m.run calls).store.counters requestsTotal =
      (Table.distinct ((countEntries Tally.seriesKey (fun _ => 1) calls).map (·.1))).map fun key =>
        (key, Number.ofNat (countAt (countEntries Tally.seriesKey (fun _ => 1) calls) key)) := by
  have hle : ∀ key, countAt (countEntries Tally.seriesKey (fun _ => 1) calls) key ≤ exactLimit := by
    intro key
    rw [countAt_requests]
    exact (List.length_filter_le _ _).trans h.le
  rw [store_run m hon, hempty, Store.counters_applyAll, increments_changes (counts_requests calls),
    Metric.family_nil, Metric.enterAll_exactEntries _ hle]

theorem requestsUnder_run (h : calls.length < exactLimit) (p : LabelKey → Bool) :
    requestsUnder (m.run calls).store p =
      Number.ofNat (calls.countP fun c => p c.tally.seriesKey) := by
  have hle : calls.countP (fun c => p c.tally.seriesKey) ≤ exactLimit :=
    List.countP_le_length.trans h.le
  rw [← sum_series] at hle ⊢
  have hfold := Number.foldl_map_ofNat 0 _ ((Nat.zero_add _).trans_le hle)
  rw [List.map_map, Nat.zero_add] at hfold
  rw [requestsUnder, requests_run m hon hempty h, List.filter_map, List.map_map, Number.literal_eq]
  exact hfold

theorem requestsOn_run (h : calls.length < exactLimit) (method path : String)
    (p : String → Bool) :
    requestsOn (m.run calls).store method path p =
      Number.ofNat ((routed calls method path).countP fun c => p c.tally.statusClass) := by
  refine (requestsUnder_run m hon hempty h (onRoute method path p)).trans ?_
  rw [List.countP_eq_length_filter, onRoute_seriesKey, List.countP_eq_length_filter]

theorem counter_class (h : calls.length < exactLimit) (method path statusClass : String) :
    (m.run calls).store.counter requestsTotal [method, path, statusClass] =
      Number.ofNat ((routed calls method path).countP fun c =>
        c.tally.statusClass = statusClass) := by
  have hcount : countAt (countEntries Tally.seriesKey (fun _ => 1) calls)
      [method, path, statusClass] =
      (routed calls method path).countP fun c => c.tally.statusClass = statusClass := by
    rw [countAt_requests, List.countP_eq_length_filter, routed, List.filter_filter]
    refine congrArg List.length (List.filter_congr fun c _ => ?_)
    rw [Bool.and_comm]
    simp [Tally.seriesKey, Bool.and_assoc]
  have hle : countAt (countEntries Tally.seriesKey (fun _ => 1) calls)
      [method, path, statusClass] ≤ exactLimit := by
    rw [countAt_requests]
    exact (List.length_filter_le _ _).trans h.le
  rw [counter_run m hon hempty (counts_requests calls) hle, hcount]

theorem counter_errors (h : calls.length < exactLimit) (method path : String) :
    (m.run calls).store.counter requestErrorsTotal [method, path] =
      Number.ofNat ((routed calls method path).countP fun c => c.tally.isError) := by
  have hcount : countAt (countEntries Tally.key (fun t => if t.isError then 1 else 0) calls)
      [method, path] = (routed calls method path).countP fun c => c.tally.isError := by
    rw [countAt_countEntries, filter_key, sum_map_ite]
  have hle : (routed calls method path).countP (fun c => c.tally.isError) ≤ exactLimit :=
    (List.countP_le_length.trans (List.length_filter_le _ _)).trans h.le
  rw [← hcount] at hle
  rw [counter_run m hon hempty (counts_errors calls) hle, hcount]

/-- A counter of amounts holds the total of the route. -/
theorem counter_total {metric : String} {pick : Tally → Number}
    (ha : (metric, pick) ∈ amountCounters)
    (hle : ∀ method path, total pick (routed calls method path) < exactLimit)
    (method path : String) :
    (m.run calls).store.counter metric [method, path] =
      Number.ofNat (total pick (routed calls method path)) := by
  have hall : ∀ c ∈ calls, wholeCount (pick c.tally) ≤ exactLimit :=
    fun c hc => (le_total hc).trans (hle _ _).le
  have hat := countAt_total calls pick method path
  have hroute := (hle method path).le
  rw [← hat] at hroute
  rw [counter_run m hon hempty (counts_amount ha hall) hroute, hat]

end Run

/-- In a run with metrics every request is counted exactly once, and the families of a route agree
with each other: the requests over all classes of codes, the observed durations and the requests
themselves are as many, the errors are the requests of the classes from five up, and the database
counters hold the totals of the amounts. -/
theorem counts_of_run (settings : Settings.Observability) (startedAt : Number)
    (hmetrics : settings.metricsEnabled = true) (calls : List Call) (hcalls : Countable calls)
    (method path : String) :
    let store := ((start settings startedAt).run calls).store
    let here := routed calls method path
    (∀ statusClass, store.counter requestsTotal [method, path, statusClass] =
      Number.ofNat (here.countP fun c => c.tally.statusClass = statusClass)) ∧
    requestsOn store method path (fun _ => true) = Number.ofNat here.length ∧
    observed store requestDuration [method, path] = here.length ∧
    store.counter requestErrorsTotal [method, path] = requestsOn store method path isErrorClass ∧
    store.counter databaseCallsTotal [method, path] =
      Number.ofNat (total Tally.databaseCalls here) ∧
    store.counter cacheHitsTotal [method, path] = Number.ofNat (total Tally.cacheHits here) ∧
    store.counter databaseErrorsTotal [method, path] =
      Number.ofNat (total Tally.databaseErrors here) ∧
    observed store databaseDuration [method, path] =
      here.countP fun c => positive c.tally.databaseCalls && positive c.tally.databaseMs := by
  intro store here
  have hlen := hcalls.requests
  have hm : (start settings startedAt).settings.metricsEnabled = true := hmetrics
  have hs : (start settings startedAt).store = {} := rfl
  have hdurations := observed_run _ hm hs calls observes_requests [method, path]
  have hdatabase := observed_run _ hm hs calls observes_database [method, path]
  refine ⟨counter_class _ hm hs hlen method path, ?_, ?_, ?_,
    counter_total _ hm hs (by simp [amountCounters]) hcalls.databaseCalls method path,
    counter_total _ hm hs (by simp [amountCounters]) hcalls.cacheHits method path,
    counter_total _ hm hs (by simp [amountCounters]) hcalls.databaseErrors method path, ?_⟩
  · rw [requestsOn_run _ hm hs hlen, List.countP_true]
  · simp only [Bool.and_true] at hdurations
    rw [hdurations, filter_key]
  · rw [counter_errors _ hm hs hlen, requestsOn_run _ hm hs hlen]
    simp only [isErrorClass_tally]
  · have hhere : here = calls.filter fun c => c.tally.key = [method, path] :=
      (filter_key calls method path).symm
    rw [hdatabase, List.countP_eq_length_filter, hhere, List.filter_filter]
    simp only [Bool.and_comm]

def queriedRequest : Observation :=
  { method := .text "get", path := .text " /orders ", statusCode := .text "502"
    elapsedMs := .number 12, databaseCalls := .number 3, databaseMs := .text "7"
    cacheHits := .number (-1) }

/-- Of two failed requests the first meets a clock that cannot be read. The third datagram of the
second is refused, and then the clock cannot be read for the report. Both requests are counted. -/
theorem counts_of_faulty_run :
    let settings := Settings.Observability.resolve
      (.record [("statsd", .record [("enabled", .flag true)])])
    let refused : Metric.Trial :=
      { network := { sendThrows := true }, clock := .error (.plain "no clock") }
    let calls : List Call := [⟨queriedRequest, .error (.plain "no clock"), .calm⟩,
      ⟨queriedRequest, .ok 5, fun n => if n = 2 then refused else {}⟩]
    let store := ((start settings 0).run calls).store
    settings.metricsEnabled = true ∧ Countable calls ∧
      store.counter requestErrorsTotal ["GET", "/orders"] = 2 ∧
      store.counter databaseCallsTotal ["GET", "/orders"] = 6 ∧
      observed store databaseDuration ["GET", "/orders"] = 2 := by
  intro settings refused calls store
  have hon : settings.metricsEnabled = true := by decide +kernel
  have hcalls : Countable calls := countable_of_totals (by decide) (by decide +kernel)
    (by decide +kernel) (by decide +kernel)
  obtain ⟨-, -, -, herrors, hdatabase, -, -, hms⟩ :=
    counts_of_run settings 0 hon calls hcalls "GET" "/orders"
  refine ⟨hon, hcalls, ?_, ?_, ?_⟩
  · rw [herrors]
    decide +kernel
  · rw [hdatabase]
    decide +kernel
  · rw [hms]
    decide +kernel

end Telemetry.Monitor
