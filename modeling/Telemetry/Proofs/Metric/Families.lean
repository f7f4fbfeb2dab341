import Telemetry.Proofs.Metric.Rows

/-! # The families of a store

A family of counters or histograms is printed as a block. A scraper finds in it the keys and the
numbers of the store: the totals of the counters, the sums of the buckets and the counts.
-/
namespace Telemetry.Metric
open Telemetry.Number (exactLimit isPlain)

section Numbers

theorem isPlain_wholeText (x : Number) : ∀ c ∈ (wholeText x).toList, isPlain c = true := by
  unfold wholeText
  split
  · rename_i hfin
    rw [Number.toText, String.toList_ofList]
    exact Number.isPlain_of_mem_toChars ((Number.isFinite_truncate x).trans hfin)
  · exact List.all_eq_true.mp (by decide)

theorem sortSeries_map_snd {α β : Type} (g : α → β) (samples : List (LabelKey × α)) :
    sortSeries (samples.map fun s => (s.1, g s.2)) =
      (sortSeries samples).map fun s => (s.1, g s.2) := by
  unfold sortSeries
  exact (List.map_mergeSort (r := fun (a b : LabelKey × α) => keyLe a.1 b.1)
    (s := fun (a b : LabelKey × β) => keyLe a.1 b.1) fun _ _ _ _ => rfl).symm

theorem map_fst_sortSeries {α : Type} (samples : List (LabelKey × α)) :
    (sortSeries samples).map (·.1) = (samples.map (·.1)).mergeSort keyLe := by
  unfold sortSeries
  exact List.map_mergeSort (r := fun (a b : LabelKey × α) => keyLe a.1 b.1) (s := keyLe)
    fun _ _ _ _ => rfl

def numberBlock (f : Family) (kind : String) (text : Number → String)
    (samples : List (LabelKey × Number)) : Block :=
  plainBlock f kind ((sortSeries samples).map fun s => (s.1, text s.2))

theorem lines_numberBlock (f : Family) (kind : String) (text : Number → String)
    (samples : List (LabelKey × Number)) :
    (numberBlock f kind text samples).lines = headLines f kind ++ (sortSeries samples).map fun s =>
      series f.name (pairLabels f.labels s.1) (text s.2) := by
  rw [Block.lines, numberBlock, plainBlock, List.map_map, List.map_map]
  rfl

variable {f : Family} {samples : List (LabelKey × Number)}

theorem keyed_sortSeries {α : Type} {samples : List (LabelKey × α)}
    (hnodup : (samples.map (·.1)).Nodup)
    (hlen : ∀ s ∈ samples, s.1.length = f.labels.length) :
    Keyed f ((sortSeries samples).map (·.1)) := by
  rw [map_fst_sortSeries]
  refine keyed_mergeSort hnodup fun key hkey => ?_
  obtain ⟨s, hs, rfl⟩ := List.mem_map.mp hkey
  exact hlen s hs

theorem numberBlock_sound (hf : f.Sound) {kind : String} (hkind : '\n' ∉ kind.toList)
    {text : Number → String} (htext : ∀ x, ∀ c ∈ (text x).toList, isPlain c = true)
    (hnodup : (samples.map (·.1)).Nodup) (hlen : ∀ s ∈ samples, s.1.length = f.labels.length) :
    (numberBlock f kind text samples).Sound := by
  have hkeyed := keyed_sortSeries hnodup hlen
  have hkeys : ((sortSeries samples).map fun s => (s.1, text s.2)).map (·.1) =
      (sortSeries samples).map (·.1) := by
    rw [List.map_map]
    rfl
  rw [← hkeys] at hkeyed
  refine plainBlock_sound hkeyed hf hkind fun s hs => ?_
  obtain ⟨sample, -, rfl⟩ := List.mem_map.mp hs
  exact htext sample.2

/-- Whole numbers below the limit are read back from a family of counters. -/
theorem samples?_numberBlock {items : List (LabelKey × Nat)} (hnodup : (items.map (·.1)).Nodup)
    (hlen : ∀ i ∈ items, i.1.length = f.labels.length) (hsmall : ∀ i ∈ items, i.2 < exactLimit)
    (kind : String) :
    samples? f.name (numberBlock f kind wholeText (exactEntries items)).rows =
      some (sortSeries items) := by
  have htexts : ((sortSeries (exactEntries items)).map fun s => (s.1, wholeText s.2)) =
      (sortSeries items).map fun i => (i.1, toString i.2) := by
    rw [exactEntries, sortSeries_map_snd, List.map_map]
    refine List.map_congr_left fun i hi => ?_
    have hmem : i ∈ items := List.mem_mergeSort.mp hi
    rw [Function.comp_apply, wholeText_ofNat (hsmall i hmem)]
  rw [numberBlock, htexts]
  exact samples?_plainBlock (keyed_sortSeries hnodup hlen) kind

end Numbers

section Counters

/-- The series of a counter and their totals in order of first use. -/
def totals (entries : List (LabelKey × Nat)) : List (LabelKey × Nat) :=
  (Table.distinct (entries.map (·.1))).map fun key => (key, countAt entries key)

/-- A family of counters that takes small whole numbers only. -/
structure Counted (changes : List Change) (f : Family) (entries : List (LabelKey × Nat)) :
    Prop where
  increments : increments f.name changes = exactEntries entries
  length : ∀ e ∈ entries, e.1.length = f.labels.length
  small : ∀ key, countAt entries key < exactLimit

theorem map_fst_totals (entries : List (LabelKey × Nat)) :
    (totals entries).map (·.1) = Table.distinct (entries.map (·.1)) := by
  rw [totals, List.map_map]
  exact List.map_id _

theorem nodup_totals (entries : List (LabelKey × Nat)) : ((totals entries).map (·.1)).Nodup := by
  rw [map_fst_totals]
  exact Table.nodup_distinct _

/-- Adding up the totals of the selected keys is adding up their entries. -/
theorem sum_totals (entries : List (LabelKey × Nat)) (p : LabelKey → Bool) :
    (((sortSeries (totals entries)).filter fun row => p row.1).map (·.2)).sum =
      ((entries.filter fun e => p e.1).map (·.2)).sum := by
  have hperm : (sortSeries (totals entries)).Perm (totals entries) := List.mergeSort_perm _ _
  refine ((hperm.filter fun row => p row.1).map (·.2)).sum_eq.trans ?_
  refine Eq.trans ?_ (Table.sum_by_key entries p)
  rw [totals, List.filter_map, List.map_map]
  rfl

def counterBlock (s : Store) (f : Family) : Block :=
  numberBlock f "counter" wholeText (family s.counters f.name)

theorem lines_counterBlock (s : Store) {f : Family} (hname : f.name ≠ reservedName) :
    (counterBlock s f).lines = counterLines f (family s.snapshot.counters f.name) := by
  rw [counterBlock, lines_numberBlock, snapshot_counters s hname, counterLines]

variable {changes : List Change} {f : Family} {entries : List (LabelKey × Nat)}

/-- A family of counters is sound whatever its totals are. -/
theorem counterBlock_sound (hf : f.Sound)
    (hlen : ∀ e ∈ increments f.name changes, e.1.length = f.labels.length) :
    (counterBlock (({} : Store).applyAll changes) f).Sound := by
  have hfamily := Store.counters_applyAll {} changes f.name
  have hkeys := Table.keys_enterAll addAmount (increments f.name changes)
  rw [family_nil] at hfamily
  rw [← hfamily] at hkeys
  have hnodup : (Table.keys (family (({} : Store).applyAll changes).counters f.name)).Nodup := by
    rw [hkeys]
    exact Table.nodup_distinct _
  refine numberBlock_sound hf (by decide) isPlain_wholeText hnodup fun s hs => ?_
  have hmem : s.1 ∈ Table.keys (family (({} : Store).applyAll changes).counters f.name) :=
    List.mem_map_of_mem hs
  rw [hkeys, Table.mem_distinct] at hmem
  obtain ⟨e, he, hkey⟩ := List.mem_map.mp hmem
  rw [← hkey]
  exact hlen e he

theorem Counted.family_eq (h : Counted changes f entries) :
    family (({} : Store).applyAll changes).counters f.name = exactEntries (totals entries) := by
  rw [Store.counters_applyAll, h.increments, family_nil,
    enterAll_exactEntries entries fun key => (h.small key).le, exactEntries, totals, List.map_map]
  rfl

theorem Counted.length_totals (h : Counted changes f entries) :
    ∀ i ∈ totals entries, i.1.length = f.labels.length := by
  intro i hi
  obtain ⟨key, hkey, rfl⟩ := List.mem_map.mp hi
  obtain ⟨e, he, rfl⟩ := List.mem_map.mp (Table.mem_distinct.mp hkey)
  exact h.length e he

/-- A scraper reads the keys and the totals of a family of counters. -/
theorem Counted.samples? (h : Counted changes f entries) :
    samples? f.name (counterBlock (({} : Store).applyAll changes) f).rows =
      some (sortSeries (totals entries)) := by
  rw [counterBlock, h.family_eq]
  refine samples?_numberBlock (nodup_totals entries) h.length_totals (fun i hi => ?_) _
  obtain ⟨key, -, rfl⟩ := List.mem_map.mp hi
  exact h.small key

end Counters

section Histograms

/-- The sums of the buckets with the texts of their bounds. -/
def Histogram.cumulated (h : Histogram) : List (String × Nat) :=
  (cumulativeCounts 0 h.bounds h.buckets).map (fun p => (valueText p.1, p.2)) ++
    [("+Inf", h.count)]

theorem cumulated_foldl_observe {bounds : List Number}
    (h : bounds.Pairwise fun a b => a.le b = true) (values : List Number) :
    (values.foldl Histogram.observe (Histogram.empty bounds)).cumulated =
      bucketCounts bounds values := by
  rw [foldl_observe, Histogram.cumulated, bucketCounts]
  dsimp only
  rw [cumulativeCounts_firstFit h, List.map_map]
  simp only [Function.comp_def, Nat.zero_add]

def sortedHistograms (s : Store) (metric : String) : List (LabelKey × Histogram) :=
  sortSeries (family s.histograms metric)

def timingBlock (s : Store) (f : Family) : Block :=
  histogramBlock f ((sortedHistograms s f.name).map fun h => (h.1, h.2.sample.printed))

theorem lines_timingBlock (s : Store) {f : Family} (hname : f.name ≠ reservedName) :
    (timingBlock s f).lines = histogramLines f
      ((family s.snapshot.histograms f.name).map fun h => (h.1, h.2.sample)) := by
  rw [snapshot_histograms s hname, histogramLines, sortSeries_map_snd, Block.lines, timingBlock,
    histogramBlock, List.flatMap_map, List.flatMap_map, List.map_flatMap]
  simp only [bucketLines_eq, Printed.lines_eq]
  rfl

theorem map_fst_cumulative (total : Number) (bounds buckets : List Number) :
    (cumulative total bounds buckets).map (·.1) = bounds := by
  induction bounds generalizing total buckets with
  | nil => rfl
  | cons b rest ih => cases buckets <;> simp [cumulative, ih]

theorem isInert_toText (x : Number) : ∀ c ∈ x.toText.toList, isInert c = true := by
  have hinert : ∀ cs : List Char, cs.all isInert = true → ∀ c ∈ cs, isInert c = true :=
    fun _ => List.all_eq_true.mp
  rw [Number.toText, String.toList_ofList]
  cases x with
  | nan => exact hinert _ (by decide)
  | infinity s => cases s <;> exact hinert _ (by decide)
  | finite s u hf hb =>
    exact fun c hc => isInert_of_isPlain (Number.isPlain_of_mem_toChars rfl c hc)

/-- Whatever the numbers of a histogram are, its texts fit on lines. -/
theorem printed_sound {s : BucketSample} (h : (s.bounds.map valueText ++ ["+Inf"]).Nodup) :
    s.printed.Sound := by
  have hcount : ∀ c ∈ (wholeText s.count).toList, isInert c = true :=
    fun c hc => isInert_of_isPlain (isPlain_wholeText _ c hc)
  refine ⟨?_, fun b hb => ?_, fun c hc => isInert_of_isPlain (isPlain_valueText _ c hc), hcount⟩
  · have hbounds : (s.printed.buckets.map (·.1)) = s.bounds.map valueText ++ ["+Inf"] := by
      rw [← map_fst_cumulative 0 s.bounds s.buckets, List.map_map]
      simp [BucketSample.printed, Function.comp_def]
    rw [hbounds]
    exact h
  · rcases List.mem_append.mp hb with hb | hb
    · obtain ⟨p, -, rfl⟩ := List.mem_map.mp hb
      exact isInert_toText p.2
    · rw [List.mem_singleton.mp hb]
      exact hcount

/-- A family of histograms with a key for its labels and bounds with texts of their own. -/
structure Shaped (changes : List Change) (f : Family) : Prop where
  length : ∀ key ∈ observedKeys f.name changes, key.length = f.labels.length
  texts : ∀ key ∈ observedKeys f.name changes,
    ((boundsAt f.name changes key).map valueText ++ ["+Inf"]).Nodup

/-- A family of histograms with ascending bounds and a number of values that can be counted. -/
structure Timed (changes : List Change) (f : Family) : Prop extends Shaped changes f where
  ascending : ∀ key ∈ observedKeys f.name changes, Ascending (boundsAt f.name changes key)
  small : (observations f.name changes).length < exactLimit

def sortedKeys (metric : String) (changes : List Change) : List LabelKey :=
  (observedKeys metric changes).mergeSort keyLe

theorem mem_sortedKeys {metric : String} {changes : List Change} {key : LabelKey} :
    key ∈ sortedKeys metric changes ↔ key ∈ observedKeys metric changes :=
  List.mem_mergeSort

theorem sortedHistograms_eq (metric : String) (changes : List Change) :
    sortedHistograms (({} : Store).applyAll changes) metric =
      (sortedKeys metric changes).map fun key =>
        (key, (valuesAt metric changes key).foldl Histogram.observe
          (Histogram.empty (boundsAt metric changes key))) := by
  rw [sortedHistograms, histograms_eq_map, sortSeries_map]
  rfl

variable {changes : List Change} {f : Family}

theorem Shaped.keyed (h : Shaped changes f) : Keyed f (sortedKeys f.name changes) :=
  keyed_mergeSort (Table.nodup_distinct _) h.length

theorem Shaped.sound (h : Shaped changes f) (hf : f.Sound) :
    (timingBlock (({} : Store).applyAll changes) f).Sound := by
  have hkeyed := h.keyed
  rw [timingBlock, sortedHistograms_eq, List.map_map]
  refine histogramBlock_sound ?_ hf fun item hitem => ?_
  · rw [List.map_map]
    exact (List.map_id _).symm ▸ hkeyed
  · obtain ⟨key, hkey, rfl⟩ := List.mem_map.mp hitem
    refine printed_sound ?_
    dsimp only
    rw [foldl_observe]
    exact h.texts key (mem_sortedKeys.mp hkey)

variable (h : Timed changes f)
include h

theorem Timed.block_eq : timingBlock (({} : Store).applyAll changes) f =
    histogramBlock f (exactItems (sortedKeys f.name changes) (boundsAt f.name changes)
      (valuesAt f.name changes)) := by
  rw [timingBlock, sortedHistograms_eq, List.map_map, exactItems]
  refine congrArg (histogramBlock f) (List.map_congr_left fun key hkey => ?_)
  rw [Function.comp_apply, printed_observed (h.ascending key (mem_sortedKeys.mp hkey)).pairwise _
    ((valuesAt_length_le f.name changes key).trans_lt h.small)]

omit h in
/-- Every observation is counted under one key. -/
theorem sum_count_sortedHistograms (metric : String) (changes : List Change) :
    ((sortedHistograms (({} : Store).applyAll changes) metric).map fun s => s.2.count).sum =
      (observations metric changes).length := by
  have hcount : ∀ key, (valuesAt metric changes key).length =
      countAt ((observations metric changes).map fun e => (e.1, 1)) key := by
    intro key
    simp [valuesAt, measuredAt, countAt, Table.entriesAt, List.filter_map, Function.comp_def]
  have hkeys := Table.sum_by_key ((observations metric changes).map fun e => (e.1, 1)) fun _ => true
  rw [List.map_map, List.filter_true, List.filter_true, List.map_map] at hkeys
  rw [sortedHistograms_eq, List.map_map]
  have hsorted := ((List.mergeSort_perm (observedKeys metric changes) keyLe).map
    fun key => (valuesAt metric changes key).length).sum_eq
  simp only [Function.comp_def, foldl_observe]
  refine hsorted.trans ?_
  simp only [hcount]
  refine hkeys.trans ?_
  simp [Function.comp_def]

/-- A scraper reads the buckets of a family of histograms as the store has them, added up. -/
theorem Timed.samples?_bucket :
    samples? (f.name ++ "_bucket") (timingBlock (({} : Store).applyAll changes) f).rows =
      some ((sortedHistograms (({} : Store).applyAll changes) f.name).flatMap fun s =>
        s.2.cumulated.map fun b => (s.1 ++ [b.1], b.2)) := by
  rw [h.block_eq, Metric.samples?_bucket h.keyed, sortedHistograms_eq, List.flatMap_map]
  refine congrArg some (List.flatMap_congr fun key hkey => ?_)
  dsimp only
  rw [cumulated_foldl_observe (h.ascending key (mem_sortedKeys.mp hkey)).pairwise]

theorem Timed.samples?_count :
    samples? (f.name ++ "_count") (timingBlock (({} : Store).applyAll changes) f).rows =
      some ((sortedHistograms (({} : Store).applyAll changes) f.name).map fun s =>
        (s.1, s.2.count)) := by
  rw [h.block_eq, Metric.samples?_count h.keyed, sortedHistograms_eq, List.map_map]
  refine congrArg some (List.map_congr_left fun key _ => ?_)
  rw [Function.comp_apply, foldl_observe]

end Histograms

end Telemetry.Metric
