import Telemetry.Proofs.Metric.Amount
import Telemetry.Proofs.Metric.Buckets
import Telemetry.Proofs.Metric.Order

/-! # Changes in another order

The order of changes shows in the order of a table only, and sorting by key removes it. What a key
holds is a sum: of counts, of buckets that are filled, and of values. As long as the sums are exact
they do not depend on the order either.
-/
namespace Telemetry.Table

variable {κ β : Type} [DecidableEq κ]

theorem perm_distinct {keys others : List κ} (h : keys.Perm others) :
    (distinct keys).Perm (distinct others) := by
  refine (List.perm_ext_iff_of_nodup (nodup_distinct _) (nodup_distinct _)).mpr fun key => ?_
  rw [mem_distinct, mem_distinct]
  exact h.mem_iff

theorem perm_entriesAt {entries others : List (κ × β)} (h : entries.Perm others) (key : κ) :
    (entriesAt key entries).Perm (entriesAt key others) :=
  (h.filter _).map _

end Telemetry.Table

namespace Telemetry.Metric
open Telemetry.Number (exactLimit)

/-- A family told by its distinct keys is sorted the same in any order of the keys. -/
theorem sortSeries_map_perm {α : Type} {keys others : List LabelKey} (h : keys.Perm others)
    (hnodup : keys.Nodup) {f g : LabelKey → α} (hfg : ∀ key ∈ keys, f key = g key) :
    sortSeries (keys.map fun key => (key, f key)) =
      sortSeries (others.map fun key => (key, g key)) := by
  have hsame : (keys.map fun key => (key, f key)) = keys.map fun key => (key, g key) :=
    List.map_congr_left fun key hkey => by rw [hfg key hkey]
  rw [hsame]
  apply sortSeries_perm (h.map _)
  rw [List.map_map]
  exact hnodup.map fun _ _ => id

section Counters

variable {entries others : List (LabelKey × Nat)}

theorem countAt_perm (h : entries.Perm others) (key : LabelKey) :
    countAt entries key = countAt others key :=
  (Table.perm_entriesAt h key).sum_eq

/-- Counts that stay exact are entered in any order. -/
theorem sortSeries_enterAll_perm (h : entries.Perm others)
    (hsmall : ∀ key, countAt entries key ≤ exactLimit) :
    sortSeries (Table.enterAll addAmount [] (exactEntries entries)) =
      sortSeries (Table.enterAll addAmount [] (exactEntries others)) := by
  have hother : ∀ key, countAt others key ≤ exactLimit := by
    intro key
    rw [← countAt_perm h]
    exact hsmall key
  rw [enterAll_exactEntries entries hsmall, enterAll_exactEntries others hother]
  refine sortSeries_map_perm (Table.perm_distinct (h.map _)) (Table.nodup_distinct _) fun key _ => ?_
  rw [countAt_perm h]

end Counters

section Histograms

theorem firstFit_perm (bounds : List Number) {values others : List Number}
    (h : values.Perm others) : firstFit bounds values = firstFit bounds others := by
  induction bounds generalizing values others with
  | nil => rfl
  | cons b rest ih => rw [firstFit, firstFit, upTo, upTo, h.countP_eq, ih (h.filter _)]

/-- Whole numbers with an exact sum. -/
structure ExactSum (values : List Number) : Prop where
  whole : ∀ v ∈ values, Number.ofNat (wholeCount v) = v
  small : (values.map wholeCount).sum ≤ exactLimit

variable {values others : List Number}

theorem ExactSum.perm (hexact : ExactSum values) (h : values.Perm others) : ExactSum others := by
  refine ⟨fun v hv => hexact.whole v (h.mem_iff.mpr hv), ?_⟩
  rw [← (h.map wholeCount).sum_eq]
  exact hexact.small

theorem ExactSum.foldl_add (h : ExactSum values) :
    values.foldl (· + ·) 0 = Number.ofNat (values.map wholeCount).sum := by
  have hvalues : values = (values.map wholeCount).map Number.ofNat := by
    rw [List.map_map]
    exact ((List.map_congr_left h.whole).trans (List.map_id _)).symm
  have hsum := Number.foldl_map_ofNat 0 (values.map wholeCount)
    ((Nat.zero_add _).trans_le h.small)
  rwa [← hvalues, Nat.zero_add, ← Number.literal_eq] at hsum

/-- A histogram takes exact values in any order. -/
theorem foldl_observe_perm (bounds : List Number) (hexact : ExactSum values)
    (h : values.Perm others) :
    values.foldl Histogram.observe (Histogram.empty bounds) =
      others.foldl Histogram.observe (Histogram.empty bounds) := by
  have hsum : values.foldl (· + ·) 0 = others.foldl (· + ·) 0 := by
    rw [hexact.foldl_add, (hexact.perm h).foldl_add, (h.map wholeCount).sum_eq]
  rw [foldl_observe, foldl_observe, firstFit_perm bounds h, h.length_eq, hsum]

variable {metric : String} {changes altered : List Change}

/-- Exact observations with the same bounds are made in any order. -/
theorem sortSeries_histograms_perm (bounds : List Number)
    (h : (observations metric changes).Perm (observations metric altered))
    (hbounds : ∀ e ∈ observations metric changes, e.2.2 = bounds)
    (hexact : ∀ key ∈ observedKeys metric changes, ExactSum (valuesAt metric changes key)) :
    sortSeries (family (({} : Store).applyAll changes).histograms metric) =
      sortSeries (family (({} : Store).applyAll altered).histograms metric) := by
  have hkeys : (observedKeys metric changes).Perm (observedKeys metric altered) :=
    Table.perm_distinct (h.map _)
  have hother : ∀ e ∈ observations metric altered, e.2.2 = bounds :=
    fun e he => hbounds e (h.mem_iff.mpr he)
  rw [histograms_eq_map, histograms_eq_map]
  refine sortSeries_map_perm hkeys (Table.nodup_distinct _) fun key hkey => ?_
  have hvalues : (valuesAt metric changes key).Perm (valuesAt metric altered key) :=
    (Table.perm_entriesAt h key).map _
  rw [boundsAt_of_constant _ _ hbounds hkey,
    boundsAt_of_constant _ _ hother (hkeys.mem_iff.mp hkey), foldl_observe_perm bounds (hexact key hkey) hvalues]

end Histograms

end Telemetry.Metric
