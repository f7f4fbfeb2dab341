import Mathlib.Data.List.Infix
import Telemetry.Proofs.Metric.Encoding
import Telemetry.Proofs.Number.Integer

/-! # Counters as sums

A counter of a new store is the sum of the amounts for its metric and its tuple, exact as long as
the sums on the way are, and a snapshot lists the series that were counted and no others.
-/
namespace Telemetry.Metric
open Telemetry.Number (exactLimit)

/-- The amounts for one series in order. -/
def amountsAt (metric : String) (key : LabelKey) (changes : List Change) : List Number :=
  Table.entriesAt key (increments metric changes)

/-- The sum of whole amounts. -/
def exactSum (amounts : List Number) : Int := (amounts.map fun a => a.toInt?.getD 0).sum

/-- Whole amounts whose sums on the way are numbers. -/
structure Exact (amounts : List Number) : Prop where
  whole : ∀ a ∈ amounts, a.isWhole = true
  bounded : ∀ before, before <+: amounts → (exactSum before).natAbs ≤ exactLimit

section Sums

variable {amounts : List Number} {a : Number}

theorem exactSum_concat : exactSum (amounts ++ [a]) = exactSum amounts + a.toInt?.getD 0 := by
  simp [exactSum]

theorem Exact.of_concat (h : Exact (amounts ++ [a])) : Exact amounts := by
  constructor
  · intro b hb
    exact h.whole b (List.mem_append_left [a] hb)
  · intro before hbefore
    exact h.bounded before (hbefore.trans (List.prefix_append amounts [a]))

/-- The first amount is taken as it is, and every other one is added exactly. -/
theorem foldl_addAmount_exact (h : Exact amounts) (hne : amounts ≠ []) :
    ∃ v, amounts.foldl (fun old b => some (addAmount old b)) none = some v ∧
      v.toInt? = some (exactSum amounts) := by
  induction amounts using List.reverseRecOn with
  | nil => exact absurd rfl hne
  | append_singleton before a ih =>
    have hwhole : a.isWhole = true := h.whole a (by simp)
    obtain ⟨x, hx⟩ := Option.isSome_iff_exists.mp hwhole
    have hbound := h.bounded _ (List.prefix_refl (before ++ [a]))
    rw [exactSum_concat, hx, Option.getD_some] at hbound ⊢
    rw [List.foldl_concat]
    cases before with
    | nil =>
      refine ⟨a.truncate, rfl, ?_⟩
      rw [Number.truncate_of_isWhole hwhole, hx]
      simp [exactSum]
    | cons b rest =>
      obtain ⟨v, hv, hsum⟩ := ih h.of_concat (List.cons_ne_nil b rest)
      refine ⟨v + a.truncate, by rw [hv]; rfl, ?_⟩
      rw [Number.truncate_of_isWhole hwhole]
      exact Number.toInt?_add hsum hx hbound

end Sums

section Histories

variable (changes : List Change) {metric : String} {key : LabelKey}

theorem counter_applyAll (metric : String) (key : LabelKey) :
    (({} : Store).applyAll changes).counter metric key =
      ((amountsAt metric key changes).foldl (fun old b => some (addAmount old b)) none).getD 0 := by
  rw [Store.counter_eq, Store.counters_applyAll, Table.get?_enterAll]
  rfl

theorem toInt?_counter (h : Exact (amountsAt metric key changes)) :
    ((({} : Store).applyAll changes).counter metric key).toInt? =
      some (exactSum (amountsAt metric key changes)) := by
  rw [counter_applyAll]
  cases hamounts : amountsAt metric key changes with
  | nil =>
    rw [List.foldl_nil, Option.getD_none, Number.literal_eq]
    exact Number.toInt?_ofNat (Nat.zero_le exactLimit)
  | cons a rest =>
    rw [hamounts] at h
    obtain ⟨v, hv, hsum⟩ := foldl_addAmount_exact h (List.cons_ne_nil a rest)
    rw [hv]
    exact hsum

/-- The series that a change counts in. -/
def Change.series? : Change → Option (String × LabelKey)
  | .increment metric key _ => some (metric, key)
  | .observe .. => none

/-- A change leaves every counter alone but its own, whatever the store holds. -/
theorem counter_apply_of_ne (s : Store) {c : Change} (h : c.series? ≠ some (metric, key)) :
    (s.apply c).counter metric key = s.counter metric key := by
  rw [Store.counter_eq, Store.counter_eq, Store.counters_apply]
  cases c with
  | observe name other value bounds => rfl
  | increment name other amount =>
    by_cases hname : name = metric
    · subst hname
      have hother : other ≠ key := by
        rintro rfl
        exact h rfl
      simp [Change.increment?, Table.enterAll, Table.get?_alter_of_ne _ _ hother]
    · simp [Change.increment?, hname, Table.enterAll]

theorem mem_keys_apply (s : Store) (c : Change) (metric : String) :
    metric ∈ (s.apply c).counters.keys ↔
      metric ∈ s.counters.keys ∨ (c.increment? metric).isSome = true := by
  cases c with
  | observe name key value bounds => simp [Store.apply, Store.observe, Change.increment?]
  | increment name key amount =>
    have hkeys : (s.apply (.increment name key amount)).counters.keys = _ :=
      Table.keys_alter s.counters name _
    have hnew : ((Change.increment name key amount).increment? metric).isSome = true ↔
        metric = name := by
      by_cases hname : name = metric <;> simp [Change.increment?, hname]
      exact Ne.symm hname
    rw [hkeys, hnew]
    split
    · rename_i hmem
      constructor
      · exact .inl
      · rintro (h | rfl)
        · exact h
        · exact hmem
    · simp

theorem mem_keys_applyAll (s : Store) (metric : String) :
    metric ∈ (s.applyAll changes).counters.keys ↔
      metric ∈ s.counters.keys ∨ increments metric changes ≠ [] := by
  induction changes generalizing s with
  | nil => simp [Store.applyAll, increments]
  | cons c rest ih =>
    refine (ih (s.apply c)).trans ?_
    rw [mem_keys_apply]
    cases h : c.increment? metric <;> simp [increments, h]

theorem nodup_keys_applyAll (s : Store) (h : s.counters.keys.Nodup) :
    (s.applyAll changes).counters.keys.Nodup := by
  induction changes generalizing s with
  | nil => exact h
  | cons c rest ih =>
    apply ih (s.apply c)
    cases c with
    | observe name key value bounds => exact h
    | increment name key amount => exact Table.nodup_keys_alter h name _

end Histories

/-- What a snapshot lists for a metric: each tuple that was counted, once, with its counter. -/
structure Lists (store : Store) (changes : List Change) (metric : String)
    (series : Table LabelKey Number) : Prop where
  once : series.keys.Nodup
  counted : ∀ key, key ∈ series.keys ↔ amountsAt metric key changes ≠ []
  values : ∀ e ∈ series, e.2 = store.counter metric e.1

section Snapshots

variable (changes : List Change)

theorem keys_snapshot (s : Store) :
    s.snapshot.counters.keys = s.counters.keys.filter fun metric => metric ≠ reservedName := by
  simp [Store.snapshot, Table.keys, List.filter_map, Function.comp_def]

theorem lists_family (metric : String) :
    Lists (({} : Store).applyAll changes) changes metric
      (family (({} : Store).applyAll changes).counters metric) := by
  have hfamily : family (({} : Store).applyAll changes).counters metric =
      Table.enterAll addAmount [] (increments metric changes) :=
    Store.counters_applyAll {} changes metric
  have hnodup : (family (({} : Store).applyAll changes).counters metric).keys.Nodup := by
    rw [hfamily]
    exact Table.nodup_keys_enterAll addAmount (t := []) List.nodup_nil _
  refine ⟨hnodup, ?_, ?_⟩
  · intro key
    rw [hfamily, Table.keys_enterAll, Table.mem_distinct, amountsAt, Ne,
      Table.entriesAt_eq_nil_iff, not_not]
  · intro e he
    rw [Store.counter_eq, Table.get?_of_mem hnodup he]
    rfl

/-- Under each metric a snapshot lists the family of that metric. -/
theorem lists_of_mem_snapshot {metric : String} {series : Table LabelKey Number}
    (h : (metric, series) ∈ (({} : Store).applyAll changes).snapshot.counters) :
    Lists (({} : Store).applyAll changes) changes metric series := by
  have hmem : (metric, series) ∈ (({} : Store).applyAll changes).counters :=
    (List.mem_filter.mp h).1
  have hnodup := nodup_keys_applyAll changes {} List.nodup_nil
  have hseries : family (({} : Store).applyAll changes).counters metric = series := by
    rw [family, Table.get?_of_mem hnodup hmem]
    rfl
  exact hseries ▸ lists_family changes metric

end Snapshots

/-- In a new store after any changes a counter is the sum of the amounts for its metric and its
tuple; a change leaves every other counter alone; a snapshot lists exactly the series that were
counted, but for the reserved name; and series looked up by the text of their tuples are the
same. -/
theorem counters_are_sums (changes : List Change) :
    let store := ({} : Store).applyAll changes
    (∀ metric key, Exact (amountsAt metric key changes) →
        (store.counter metric key).toInt? = some (exactSum (amountsAt metric key changes))) ∧
      (∀ (s : Store) (c : Change) metric key, c.series? ≠ some (metric, key) →
        (s.apply c).counter metric key = s.counter metric key) ∧
      store.snapshot.counters.keys.Nodup ∧
      (∀ metric, metric ∈ store.snapshot.counters.keys ↔
        metric ≠ reservedName ∧ increments metric changes ≠ []) ∧
      (∀ metric series, (metric, series) ∈ store.snapshot.counters →
        Lists store changes metric series) ∧
      Function.Injective encodeKey ∧
      (∀ metric key,
        (Coded.applyAll [] changes).counter metric key = store.counter metric key) ∧
      (Coded.applyAll [] changes).snapshot = store.snapshot.counters := by
  intro store
  have hcoded : Coded.applyAll [] changes = coded store.counters := coded_applyAll {} changes
  refine ⟨?_, ?_, ?_, ?_, ?_, encodeKey_injective, ?_, ?_⟩
  · intro metric key h
    exact toInt?_counter changes h
  · intro s c metric key h
    exact counter_apply_of_ne s h
  · rw [keys_snapshot]
    exact (nodup_keys_applyAll changes {} List.nodup_nil).filter _
  · intro metric
    rw [keys_snapshot, List.mem_filter, mem_keys_applyAll]
    simp [Table.keys, and_comm]
  · intro metric series h
    exact lists_of_mem_snapshot changes h
  · intro metric key
    rw [hcoded]
    exact counter_coded store metric key
  · rw [hcoded]
    exact snapshot_coded store

/-- Two series whose labels are the same when they are joined, and a metric of the reserved name. -/
def lookalikes : List Change :=
  [.increment "m" ["a,b"] 5, .increment "m" ["a", "b"] (Number.neg 2),
    .increment "m" ["a,b"] (Number.neg 7), .increment reservedName ["x"] 1, .increment "n" [] 3]

theorem counters_are_sums_of_lookalikes :
    let store := ({} : Store).applyAll lookalikes
    Exact (amountsAt "m" ["a,b"] lookalikes) ∧
      (store.counter "m" ["a,b"]).toInt? = some (-2) ∧
      store.counter "m" ["a", "b"] =
        (store.apply (.increment "m" ["a,b"] 1)).counter "m" ["a", "b"] ∧
      store.snapshot.counters.map (fun f => (f.1, f.2.keys)) =
        [("m", [["a,b"], ["a", "b"]]), ("n", [[]])] := by
  intro store
  obtain ⟨hsums, hframe, -⟩ := counters_are_sums lookalikes
  have hexact : Exact (amountsAt "m" ["a,b"] lookalikes) := by
    constructor
    · decide +kernel
    · intro before hbefore
      have hbounds : ∀ before ∈ (amountsAt "m" ["a,b"] lookalikes).inits,
          (exactSum before).natAbs ≤ exactLimit := by decide +kernel
      exact hbounds before ((List.mem_inits _ _).mpr hbefore)
  refine ⟨hexact, ?_, ?_, by decide +kernel⟩
  · have hsum : exactSum (amountsAt "m" ["a,b"] lookalikes) = -2 := by decide +kernel
    rw [hsums "m" ["a,b"] hexact, hsum]
  · exact (hframe store (.increment "m" ["a,b"] 1) "m" ["a", "b"] (by decide)).symm

end Telemetry.Metric
