import Telemetry.Proofs.Metric.Amount
import Telemetry.Proofs.Metric.History
import Telemetry.Proofs.Monitor.Run

/-! # What a run changes in the store

The store of a run takes the changes of its requests in order and nothing else, whatever the clock
and the sockets do meanwhile. Each metric is told here by the series that a request adds to and by
how much it adds.
-/
namespace Telemetry.Monitor
open Telemetry.Metric (LabelKey Store Change increments observations exactEntries countAt
  wholeCount)
open Telemetry.Number (exactLimit)

def Call.tally (c : Call) : Tally := c.observation.tally

def Tally.seriesKey (t : Tally) : LabelKey := [t.method, t.path, t.statusClass]

def Tally.changes (t : Tally) : List Change :=
  [.increment requestsTotal t.seriesKey 1,
    .observe requestDuration t.key t.totalMs Metric.requestBounds] ++
  (if t.isError then [.increment requestErrorsTotal t.key 1] else []) ++
  (if positive t.databaseCalls then
    [.increment databaseCallsTotal t.key t.databaseCalls] else []) ++
  (if positive t.databaseCalls && positive t.databaseMs then
    [.observe databaseDuration t.key t.databaseMs Metric.databaseBounds] else []) ++
  (if positive t.cacheHits then [.increment cacheHitsTotal t.key t.cacheHits] else []) ++
  (if positive t.databaseErrors then
    [.increment databaseErrorsTotal t.key t.databaseErrors] else [])

def changes (calls : List Call) : List Change := calls.flatMap fun c => c.tally.changes

theorem changes_append (calls more : List Call) :
    changes (calls ++ more) = changes calls ++ changes more := List.flatMap_append

theorem applyAll_ite (s : Store) (b : Bool) (c : Change) :
    s.applyAll (if b then [c] else []) = if b then s.apply c else s := by
  cases b <;> rfl

theorem count_eq_applyAll (t : Tally) (s : Store) : t.count s = s.applyAll t.changes := by
  unfold Tally.changes
  simp only [Store.applyAll_append, applyAll_ite]
  rfl

/-- The store of a run depends on the requests alone. -/
theorem store_run (m : Monitor) (hon : m.settings.metricsEnabled = true) (calls : List Call) :
    (m.run calls).store = m.store.applyAll (changes calls) := by
  induction calls generalizing m with
  | nil => rfl
  | cons c rest ih =>
    have hc : (m.call c).settings.metricsEnabled = true := by
      rw [call_settings]
      exact hon
    rw [changes, List.flatMap_cons, Store.applyAll_append]
    refine (ih (m.call c) hc).trans ?_
    rw [call_store, if_pos hon, count_eq_applyAll]
    rfl

section Counters

variable (key : Tally → LabelKey) (n : Tally → Nat) (calls : List Call)

/-- What the requests add to a counter, where `n` tells how much and `key` to which series. -/
def countEntries : List (LabelKey × Nat) :=
  calls.flatMap fun c => if n c.tally = 0 then [] else [(key c.tally, n c.tally)]

/-- The changes of each request add to a counter what `n` tells. -/
def Counts (metric : String) : Prop :=
  ∀ c ∈ calls, increments metric c.tally.changes =
    exactEntries (if n c.tally = 0 then [] else [(key c.tally, n c.tally)])

variable {key n calls}

theorem increments_changes {metric : String} (h : Counts key n calls metric) :
    increments metric (changes calls) = exactEntries (countEntries key n calls) := by
  unfold increments changes countEntries exactEntries
  rw [List.filterMap_flatMap, List.map_flatMap]
  refine List.flatMap_congr fun c hc => ?_
  exact h c hc

theorem mem_increments_changes {metric : String} {e : LabelKey × Number} :
    e ∈ increments metric (changes calls) ↔ ∃ c ∈ calls, e ∈ increments metric c.tally.changes := by
  rw [increments, changes, List.filterMap_flatMap, List.mem_flatMap]
  rfl

theorem countAt_countEntries (k : LabelKey) :
    countAt (countEntries key n calls) k =
      ((calls.filter fun c => key c.tally = k).map fun c => n c.tally).sum := by
  induction calls with
  | nil => rfl
  | cons c rest ih =>
    unfold countAt countEntries at ih ⊢
    rw [List.flatMap_cons, Table.entriesAt_append, List.sum_append, ih, List.filter_cons]
    by_cases hk : key c.tally = k
    · by_cases hn : n c.tally = 0 <;> simp [hk, hn, Table.entriesAt]
    · by_cases hn : n c.tally = 0 <;> simp [hk, hn, Table.entriesAt]

/-- A counter of a run holds the exact total of its series. -/
theorem counter_run (m : Monitor) (hon : m.settings.metricsEnabled = true)
    (hempty : m.store = {}) {metric : String} (h : Counts key n calls metric) {k : LabelKey}
    (hle : countAt (countEntries key n calls) k ≤ exactLimit) :
    (m.run calls).store.counter metric k =
      Number.ofNat (countAt (countEntries key n calls) k) := by
  have hfamily := Store.counters_applyAll {} (changes calls) metric
  rw [increments_changes h, Metric.family_nil] at hfamily
  rw [store_run m hon, hempty, Store.counter_eq, hfamily,
    Metric.get?_enterAll_exactEntries _ hle]
  split
  · rw [Option.getD_some]
  · rename_i hmem
    rw [countAt, (Table.entriesAt_eq_nil_iff k _).mpr hmem, List.sum_nil, Option.getD_none]
    exact Number.literal_eq 0

end Counters

section Entries

variable (t : Tally)

theorem increments_append (metric : String) (first second : List Change) :
    increments metric (first ++ second) = increments metric first ++ increments metric second :=
  List.filterMap_append

theorem increments_ite (metric name : String) (b : Bool) (key : LabelKey) (amount : Number) :
    increments metric (if b then [.increment name key amount] else []) =
      if b && decide (name = metric) then [(key, amount)] else [] := by
  cases b <;> by_cases h : name = metric <;> simp [increments, Change.increment?, h]

theorem increments_ite_observe (metric name : String) (b : Bool) (key : LabelKey)
    (value : Number) (bounds : List Number) :
    increments metric (if b then [.observe name key value bounds] else []) = [] := by
  cases b <;> simp [increments, Change.increment?]

theorem increments_tally (metric : String) :
    increments metric t.changes =
      (if requestsTotal = metric then [(t.seriesKey, 1)] else []) ++
      (if t.isError && decide (requestErrorsTotal = metric) then [(t.key, 1)] else []) ++
      (if positive t.databaseCalls && decide (databaseCallsTotal = metric) then
        [(t.key, t.databaseCalls)] else []) ++
      (if positive t.cacheHits && decide (cacheHitsTotal = metric) then
        [(t.key, t.cacheHits)] else []) ++
      (if positive t.databaseErrors && decide (databaseErrorsTotal = metric) then
        [(t.key, t.databaseErrors)] else []) := by
  have hhead : increments metric [.increment requestsTotal t.seriesKey 1,
      .observe requestDuration t.key t.totalMs Metric.requestBounds] =
      if requestsTotal = metric then [(t.seriesKey, 1)] else [] := by
    by_cases h : requestsTotal = metric <;> simp [increments, Change.increment?, h]
  unfold Tally.changes
  simp only [increments_append, hhead, increments_ite, increments_ite_observe, List.append_nil]

theorem increments_requests : increments requestsTotal t.changes = [(t.seriesKey, 1)] := by
  simp [increments_tally, requestsTotal, requestErrorsTotal, databaseCallsTotal, cacheHitsTotal,
    databaseErrorsTotal]

theorem increments_errors :
    increments requestErrorsTotal t.changes = if t.isError then [(t.key, 1)] else [] := by
  simp [increments_tally, requestsTotal, requestErrorsTotal, databaseCallsTotal, cacheHitsTotal,
    databaseErrorsTotal]

/-- The counters that add amounts, with the amount that each adds. -/
def amountCounters : List (String × (Tally → Number)) :=
  [(databaseCallsTotal, Tally.databaseCalls), (cacheHitsTotal, Tally.cacheHits),
    (databaseErrorsTotal, Tally.databaseErrors)]

theorem increments_amount : ∀ a ∈ amountCounters,
    increments a.1 t.changes = if positive (a.2 t) then [(t.key, a.2 t)] else [] := by
  simp only [amountCounters, List.forall_mem_cons]
  refine ⟨?_, ?_, ?_, by simp⟩ <;>
    simp [increments_tally, requestsTotal, requestErrorsTotal, databaseCallsTotal, cacheHitsTotal,
      databaseErrorsTotal]

end Entries

section Amounts

variable {calls : List Call}

theorem exactEntries_one (key : LabelKey) : exactEntries [(key, 1)] = [(key, (1 : Number))] :=
  congrArg (fun x => [(key, x)]) (Number.literal_eq 1).symm

theorem counts_requests (calls : List Call) :
    Counts Tally.seriesKey (fun _ => 1) calls requestsTotal := by
  intro c _
  rw [increments_requests, if_neg Nat.one_ne_zero, exactEntries_one]

theorem counts_errors (calls : List Call) :
    Counts Tally.key (fun t => if t.isError then 1 else 0) calls requestErrorsTotal := by
  intro c _
  rw [increments_errors]
  by_cases h : c.tally.isError = true
  · simp only [h, if_true, Nat.one_ne_zero, if_false, exactEntries_one]
  · simp only [h, if_false, Bool.false_eq_true, if_true]
    rfl

theorem positive_wholeAmount (value : Datum) :
    positive (Metric.wholeAmount value) = true ↔ 0 < wholeCount (Metric.wholeAmount value) :=
  Metric.lt_zero_wholeAmount value

/-- An amount that was read from an observation is added as its count. -/
theorem exactEntries_wholeAmount (key : LabelKey) {value : Datum}
    (h : wholeCount (Metric.wholeAmount value) ≤ exactLimit) :
    (if positive (Metric.wholeAmount value) then [(key, Metric.wholeAmount value)] else []) =
      exactEntries (if wholeCount (Metric.wholeAmount value) = 0 then []
        else [(key, wholeCount (Metric.wholeAmount value))]) := by
  rcases Nat.eq_zero_or_pos (wholeCount (Metric.wholeAmount value)) with hz | hn
  · have hf : ¬ positive (Metric.wholeAmount value) = true := fun hp => by
      rw [positive_wholeAmount] at hp
      omega
    rw [if_neg hf, if_pos hz]
    rfl
  · have he := Metric.wholeAmount_eq_ofNat hn h
    rw [if_pos ((positive_wholeAmount value).mpr hn), if_neg hn.ne', exactEntries,
      List.map_singleton]
    exact congrArg (fun x => [(key, x)]) he

theorem exists_wholeAmount (c : Call) :
    ∀ a ∈ amountCounters, ∃ value, a.2 c.tally = Metric.wholeAmount value := by
  simp only [amountCounters, List.forall_mem_cons]
  exact ⟨⟨_, rfl⟩, ⟨_, rfl⟩, ⟨_, rfl⟩, by simp⟩

theorem counts_amount {metric : String} {pick : Tally → Number}
    (ha : (metric, pick) ∈ amountCounters)
    (h : ∀ c ∈ calls, wholeCount (pick c.tally) ≤ exactLimit) :
    Counts Tally.key (fun t => wholeCount (pick t)) calls metric := by
  intro c hc
  obtain ⟨value, hvalue⟩ := exists_wholeAmount c _ ha
  have hsmall := h c hc
  dsimp only at hvalue
  rw [hvalue] at hsmall
  have hentry := exactEntries_wholeAmount c.tally.key hsmall
  rw [← hvalue] at hentry
  exact (increments_amount c.tally _ ha).trans hentry

end Amounts

section Observations

variable {value : Tally → Metric.Measured} {p : Tally → Bool} {calls : List Call}

theorem observations_append (metric : String) (first second : List Change) :
    observations metric (first ++ second) = observations metric first ++ observations metric second :=
  List.filterMap_append

theorem observations_ite (metric name : String) (b : Bool) (key : LabelKey) (x : Number)
    (bounds : List Number) :
    observations metric (if b then [.observe name key x bounds] else []) =
      if b && decide (name = metric) then [(key, x, bounds)] else [] := by
  cases b <;> by_cases h : name = metric <;> simp [observations, Change.observation?, h]

theorem observations_ite_increment (metric name : String) (b : Bool) (key : LabelKey)
    (amount : Number) :
    observations metric (if b then [.increment name key amount] else []) = [] := by
  cases b <;> simp [observations, Change.observation?]

theorem observations_tally (t : Tally) (metric : String) :
    observations metric t.changes =
      (if requestDuration = metric then [(t.key, t.totalMs, Metric.requestBounds)] else []) ++
      (if (positive t.databaseCalls && positive t.databaseMs) &&
          decide (databaseDuration = metric) then
        [(t.key, t.databaseMs, Metric.databaseBounds)] else []) := by
  have hhead : observations metric [.increment requestsTotal t.seriesKey 1,
      .observe requestDuration t.key t.totalMs Metric.requestBounds] =
      if requestDuration = metric then [(t.key, t.totalMs, Metric.requestBounds)] else [] := by
    by_cases h : requestDuration = metric <;>
      simp [observations, List.filterMap_cons, Change.observation?, h]
  unfold Tally.changes
  simp only [observations_append, hhead, observations_ite, observations_ite_increment,
    List.append_nil]

/-- The requests that `p` selects are observed with what `value` tells. -/
def Observes (value : Tally → Metric.Measured) (p : Tally → Bool) (metric : String) : Prop :=
  ∀ t : Tally, observations metric t.changes = if p t then [(t.key, value t)] else []

theorem observes_requests :
    Observes (fun t => (t.totalMs, Metric.requestBounds)) (fun _ => true) requestDuration := by
  intro t
  simp [observations_tally, requestDuration, databaseDuration]

theorem observes_database :
    Observes (fun t => (t.databaseMs, Metric.databaseBounds))
      (fun t => positive t.databaseCalls && positive t.databaseMs) databaseDuration := by
  intro t
  simp [observations_tally, requestDuration, databaseDuration]

/-- A run is observed request by request. -/
theorem observations_changes {metric : String} (h : Observes value p metric) (calls : List Call) :
    observations metric (changes calls) =
      (calls.filter fun c => p c.tally).map fun c => (c.tally.key, value c.tally) := by
  induction calls with
  | nil => rfl
  | cons c rest ih =>
    rw [changes, List.flatMap_cons, observations_append, ← changes, ih, h c.tally,
      List.filter_cons]
    cases p c.tally <;> rfl

theorem entriesAt_observations {metric : String} (h : Observes value p metric) (key : LabelKey) :
    Table.entriesAt key (observations metric (changes calls)) =
      (calls.filter fun c => decide (c.tally.key = key) && p c.tally).map fun c =>
        value c.tally := by
  rw [observations_changes h, Table.entriesAt, List.filter_map, List.map_map, List.filter_filter]
  rfl

def observed (s : Store) (metric : String) (key : LabelKey) : Nat :=
  ((s.histogram? metric key).map (·.count)).getD 0

theorem observed_run (m : Monitor) (hon : m.settings.metricsEnabled = true)
    (hempty : m.store = {}) (calls : List Call) {metric : String} (h : Observes value p metric)
    (key : LabelKey) :
    observed (m.run calls).store metric key =
      (calls.filter fun c => decide (c.tally.key = key) && p c.tally).length := by
  have hfamily := Store.histograms_applyAll {} (changes calls) metric
  rw [Metric.family_nil] at hfamily
  rw [observed, store_run m hon, hempty, Store.histogram?_eq, hfamily, Table.get?_enterAll,
    Metric.count_foldl_addObservation, entriesAt_observations h, List.length_map]
  exact Nat.zero_add _

end Observations

end Telemetry.Monitor
