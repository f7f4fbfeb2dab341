import Telemetry.Metric.Store
import Telemetry.Proofs.Number.Whole
import Telemetry.Proofs.Table

/-! # What a store holds after a history of changes

Each family of a store is a table of its own: it takes the entries that are meant for its metric
and no others. So the counters and histograms of a store are read off the history.
-/
namespace Telemetry.Metric

inductive Change where
  | increment (metric : String) (key : LabelKey) (amount : Number)
  | observe (metric : String) (key : LabelKey) (value : Number) (bounds : List Number)

/-- An observed value with the bounds that came with it. -/
abbrev Measured := Number × List Number

namespace Change

def increment? (metric : String) : Change → Option (LabelKey × Number)
  | .increment name key amount => if name = metric then some (key, amount) else none
  | .observe .. => none

def observation? (metric : String) : Change → Option (LabelKey × Measured)
  | .increment .. => none
  | .observe name key value bounds => if name = metric then some (key, value, bounds) else none

end Change

def increments (metric : String) (changes : List Change) : List (LabelKey × Number) :=
  changes.filterMap (Change.increment? metric)

def observations (metric : String) (changes : List Change) : List (LabelKey × Measured) :=
  changes.filterMap (Change.observation? metric)

def addAmount (old : Option Number) (amount : Number) : Number :=
  match old with
  | none => amount.truncate
  | some value => value + amount.truncate

def addObservation (old : Option Histogram) (m : Measured) : Histogram :=
  (old.getD (Histogram.empty m.2)).observe m.1

def family {α : Type} (families : Table String (Table LabelKey α)) (metric : String) :
    Table LabelKey α :=
  (families.get? metric).getD []

@[simp] theorem family_nil {α : Type} (metric : String) :
    family ([] : Table String (Table LabelKey α)) metric = [] := rfl

theorem family_alter {α : Type} (families : Table String (Table LabelKey α))
    (name metric : String) (change : Table LabelKey α → Table LabelKey α) :
    family (families.alter name fun old => change (old.getD [])) metric =
      if name = metric then change (family families metric) else family families metric := by
  unfold family
  rw [Table.get?_alter]
  by_cases h : name = metric
  · subst h
    simp
  · simp [h]

namespace Store

def apply (s : Store) : Change → Store
  | .increment metric key amount => s.increment metric key amount
  | .observe metric key value bounds => s.observe metric key value bounds

def applyAll (s : Store) (changes : List Change) : Store := changes.foldl apply s

theorem applyAll_append (s : Store) (first second : List Change) :
    s.applyAll (first ++ second) = (s.applyAll first).applyAll second := List.foldl_append ..

theorem counters_apply (s : Store) (c : Change) (metric : String) :
    family (s.apply c).counters metric =
      (family s.counters metric).enterAll addAmount (c.increment? metric).toList := by
  cases c with
  | increment name key amount =>
    refine (family_alter s.counters name metric fun t => t.alter key fun old =>
      addAmount old amount).trans ?_
    by_cases h : name = metric <;> simp [Change.increment?, h, Table.enterAll]
  | observe name key value bounds => rfl

theorem histograms_apply (s : Store) (c : Change) (metric : String) :
    family (s.apply c).histograms metric =
      (family s.histograms metric).enterAll addObservation (c.observation? metric).toList := by
  cases c with
  | increment name key amount => rfl
  | observe name key value bounds =>
    refine (family_alter s.histograms name metric fun t => t.alter key fun old =>
      addObservation old (value, bounds)).trans ?_
    by_cases h : name = metric <;> simp [Change.observation?, h, Table.enterAll]

theorem counter_eq (s : Store) (metric : String) (key : LabelKey) :
    s.counter metric key = ((family s.counters metric).get? key).getD 0 := by
  rfl

theorem histogram?_eq (s : Store) (metric : String) (key : LabelKey) :
    s.histogram? metric key = (family s.histograms metric).get? key := by
  rfl

/-- A family of counters takes the increments of its metric. -/
theorem counters_applyAll (s : Store) (changes : List Change) (metric : String) :
    family (s.applyAll changes).counters metric =
      (family s.counters metric).enterAll addAmount (increments metric changes) := by
  induction changes generalizing s with
  | nil => rfl
  | cons c rest ih =>
    refine (ih (s.apply c)).trans ?_
    rw [counters_apply]
    cases h : c.increment? metric <;> simp [increments, h, Table.enterAll]

/-- A family of histograms takes the observations of its metric. -/
theorem histograms_applyAll (s : Store) (changes : List Change) (metric : String) :
    family (s.applyAll changes).histograms metric =
      (family s.histograms metric).enterAll addObservation (observations metric changes) := by
  induction changes generalizing s with
  | nil => rfl
  | cons c rest ih =>
    refine (ih (s.apply c)).trans ?_
    rw [histograms_apply]
    cases h : c.observation? metric <;> simp [observations, h, Table.enterAll]

end Store

/-- Only the reserved name is missing from a snapshot. -/
theorem get?_filter_name {α : Type} (families : Table String (Table LabelKey α)) {metric : String}
    (h : metric ≠ reservedName) :
    Table.get? (families.filter fun f => f.1 ≠ reservedName) metric = families.get? metric := by
  induction families with
  | nil => rfl
  | cons f rest ih =>
    by_cases hr : f.1 = reservedName
    · have hne : ¬ f.1 = metric := fun e => h (e ▸ hr)
      rw [List.filter_cons_of_neg (by simp [hr]), ih]
      simp [Table.get?, hne]
    · rw [List.filter_cons_of_pos (by simp [hr])]
      by_cases hm : f.1 = metric
      · rw [Table.get?, Table.get?, if_pos hm, if_pos hm]
      · rw [Table.get?, Table.get?, if_neg hm, if_neg hm]
        exact ih

theorem snapshot_counters (s : Store) {metric : String} (h : metric ≠ reservedName) :
    family s.snapshot.counters metric = family s.counters metric := by
  unfold family Store.snapshot
  rw [get?_filter_name _ h]

theorem snapshot_histograms (s : Store) {metric : String} (h : metric ≠ reservedName) :
    family s.snapshot.histograms metric = family s.histograms metric := by
  unfold family Store.snapshot
  rw [get?_filter_name _ h]

/-- Each observation adds one to the count of its series. -/
theorem count_foldl_addObservation (ms : List Measured) (old : Option Histogram) :
    (((ms.foldl (fun old m => some (addObservation old m)) old).map (·.count)).getD 0) =
      (old.map (·.count)).getD 0 + ms.length := by
  induction ms generalizing old with
  | nil => rfl
  | cons m rest ih =>
    have hone : (addObservation old m).count = (old.map (·.count)).getD 0 + 1 := by
      cases old <;> rfl
    rw [List.foldl_cons, ih, Option.map_some, Option.getD_some, hone, List.length_cons]
    omega

section Counts

variable (entries : List (LabelKey × Nat))

def countAt (key : LabelKey) : Nat := (Table.entriesAt key entries).sum

def exactEntries : List (LabelKey × Number) := entries.map fun e => (e.1, Number.ofNat e.2)

theorem entriesAt_exactEntries (key : LabelKey) :
    Table.entriesAt key (exactEntries entries) =
      (Table.entriesAt key entries).map Number.ofNat := by
  simp [Table.entriesAt, exactEntries, List.filter_map, Function.comp_def]

theorem foldl_addAmount (start : Nat) (ns : List Nat) (h : start + ns.sum ≤ Number.exactLimit) :
    (ns.map Number.ofNat).foldl (fun old b => some (addAmount old b)) (some (Number.ofNat start)) =
      some (Number.ofNat (start + ns.sum)) := by
  induction ns generalizing start with
  | nil => rw [List.map_nil, List.foldl_nil, List.sum_nil, Nat.add_zero]
  | cons n rest ih =>
    rw [List.sum_cons] at h
    have hn : n ≤ Number.exactLimit := by omega
    have hs : start ≤ Number.exactLimit := by omega
    rw [List.map_cons, List.foldl_cons, addAmount, Number.truncate_ofNat hn,
      Number.ofNat_add_ofNat hs hn, ih (start + n) (by omega), List.sum_cons, Nat.add_assoc]

/-- A counter whose total is small enough is exact. -/
theorem get?_enterAll_exactEntries {key : LabelKey}
    (h : countAt entries key ≤ Number.exactLimit) :
    (Table.enterAll addAmount [] (exactEntries entries)).get? key =
      if key ∈ entries.map (·.1) then some (Number.ofNat (countAt entries key)) else none := by
  rw [Table.get?_enterAll, entriesAt_exactEntries]
  unfold countAt at h ⊢
  split
  · rename_i hmem
    have hne : Table.entriesAt key entries ≠ [] :=
      fun hnil => (Table.entriesAt_eq_nil_iff key entries).mp hnil hmem
    obtain ⟨n, rest, hcons⟩ := List.exists_cons_of_ne_nil hne
    rw [hcons] at h ⊢
    rw [List.sum_cons] at h
    rw [List.map_cons, List.foldl_cons, Table.get?, addAmount,
      Number.truncate_ofNat (by omega), foldl_addAmount n rest h, List.sum_cons]
  · rename_i hmem
    rw [(Table.entriesAt_eq_nil_iff key entries).mpr hmem]
    rfl

/-- A family of counters with its keys in order of first use and their exact totals. -/
theorem enterAll_exactEntries (h : ∀ key, countAt entries key ≤ Number.exactLimit) :
    Table.enterAll addAmount [] (exactEntries entries) =
      (Table.distinct (entries.map (·.1))).map fun key => (key, Number.ofNat (countAt entries key)) := by
  have hkeys : (Table.enterAll addAmount [] (exactEntries entries)).keys =
      Table.distinct (entries.map (·.1)) := by
    rw [Table.keys_enterAll, exactEntries, List.map_map]
    rfl
  have hnodup := Table.nodup_keys_enterAll addAmount (t := ([] : Table LabelKey Number))
    List.nodup_nil (exactEntries entries)
  rw [← hkeys]
  refine Table.eq_map_keys hnodup fun key hkey => ?_
  rw [hkeys, Table.mem_distinct] at hkey
  rw [get?_enterAll_exactEntries entries (h key), if_pos hkey]

end Counts

end Telemetry.Metric
