import Telemetry.Metric.Exposition
import Telemetry.Proofs.Metric.History
import Telemetry.Proofs.Number.Shortest

/-! # Buckets of a histogram

A store counts a value in the first bucket whose bound is not below it, and the exposition adds
the buckets up again. For ascending bounds each printed bucket holds exactly the values that are
not above its bound.
-/
namespace Telemetry.Metric
open Telemetry.Number (exactLimit)

/-- The bounds do not fall and each is a number. -/
structure Ascending (bounds : List Number) : Prop where
  numbers : ∀ b ∈ bounds, b.isNaN = false
  pairwise : bounds.Pairwise fun a b => a.le b = true

def upTo (bound : Number) (values : List Number) : Nat := values.countP fun v => v.le bound

def beyond (bounds values : List Number) : Nat :=
  values.countP fun v => bounds.all fun b => b.lt v

/-- How many values each bound takes when the bounds choose in turn. -/
def firstFit : List Number → List Number → List Nat
  | [], _ => []
  | b :: bounds, values => upTo b values :: firstFit bounds (values.filter fun v => !v.le b)

theorem firstFit_nil (bounds : List Number) : firstFit bounds [] = bounds.map fun _ => 0 := by
  induction bounds with
  | nil => rfl
  | cons b rest ih => simp [firstFit, upTo, ih]

theorem bucket?_cons (v b : Number) (bounds : List Number) :
    bucket? v (b :: bounds) = if v.le b then some 0 else (bucket? v bounds).map (· + 1) := by
  simp [bucket?, List.findIdx?_cons]

/-- One more value adds one to the first bucket that takes it. -/
theorem firstFit_concat (bounds values : List Number) (v : Number) :
    firstFit bounds (values ++ [v]) =
      match bucket? v bounds with
      | some i => (firstFit bounds values).modify i (· + 1)
      | none => firstFit bounds values := by
  induction bounds generalizing values with
  | nil => rfl
  | cons b rest ih =>
    rw [bucket?_cons]
    by_cases h : v.le b = true
    · simp [firstFit, upTo, h, List.filter_append]
    · have hrest := ih (values.filter fun v => !v.le b)
      rw [firstFit, firstFit, List.filter_append]
      simp only [h, upTo, List.countP_append]
      cases hb : bucket? v rest with
      | none =>
        rw [hb] at hrest
        simp [h, hrest]
      | some i =>
        rw [hb] at hrest
        simp [h, hrest]

theorem foldl_observe (bounds values : List Number) :
    values.foldl Histogram.observe (Histogram.empty bounds) =
      { bounds := bounds
        buckets := firstFit bounds values
        count := values.length
        sum := values.foldl (· + ·) 0 } := by
  induction values using List.reverseRecOn with
  | nil =>
    rw [List.foldl_nil, Histogram.empty, firstFit_nil]
    rfl
  | append_singleton before v ih =>
    rw [List.foldl_append, ih, List.foldl_append, firstFit_concat]
    cases hb : bucket? v bounds with
    | none => simp only [List.foldl_cons, List.foldl_nil, Histogram.observe, hb,
        List.length_append, List.length_cons, List.length_nil, Nat.zero_add]
    | some i => simp only [List.foldl_cons, List.foldl_nil, Histogram.observe, hb,
        List.length_append, List.length_cons, List.length_nil, Nat.zero_add]

theorem upTo_split {b c : Number} (h : b.le c = true) (values : List Number) :
    upTo c values = upTo b values + upTo c (values.filter fun v => !v.le b) := by
  unfold upTo
  rw [List.countP_eq_countP_filter_add values (fun v => v.le c) fun v => v.le b,
    List.countP_filter]
  congr 1
  refine List.countP_congr fun v _ => ?_
  rw [Bool.and_eq_true]
  exact ⟨fun hv => hv.2, fun hv => ⟨Number.le_trans hv h, hv⟩⟩

theorem upTo_le_length (b : Number) (values : List Number) : upTo b values ≤ values.length :=
  List.countP_le_length

theorem upTo_pairwise {bounds : List Number} (h : Ascending bounds) (values : List Number) :
    (bounds.map fun b => upTo b values).Pairwise (· ≤ ·) := by
  refine List.pairwise_map.mpr (h.pairwise.imp fun {b c} hbc => ?_)
  rw [upTo_split hbc]
  exact Nat.le_add_right _ _

def cumulativeCounts (total : Nat) : List Number → List Nat → List (Number × Nat)
  | b :: bounds, n :: buckets => (b, total + n) :: cumulativeCounts (total + n) bounds buckets
  | _, _ => []

/-- Adding up the buckets again gives for each bound the values that are not above it. -/
theorem cumulativeCounts_firstFit {bounds : List Number}
    (h : bounds.Pairwise fun a b => a.le b = true) (start : Nat) (values : List Number) :
    cumulativeCounts start bounds (firstFit bounds values) =
      bounds.map fun b => (b, start + upTo b values) := by
  induction bounds generalizing start values with
  | nil => rfl
  | cons b rest ih =>
    obtain ⟨hb, hrest⟩ := List.pairwise_cons.mp h
    rw [firstFit, cumulativeCounts, ih hrest, List.map_cons]
    refine congrArg (List.cons _) (List.map_congr_left fun c hc => ?_)
    rw [upTo_split (hb c hc) values, Nat.add_assoc]

theorem length_firstFit (bounds values : List Number) :
    (firstFit bounds values).length = bounds.length := by
  induction bounds generalizing values with
  | nil => rfl
  | cons b rest ih => rw [firstFit, List.length_cons, ih, List.length_cons]

/-- As long as the sums are exact, the printed sums are those of the stored buckets. -/
theorem cumulative_map_ofNat {bounds : List Number} {buckets : List Nat}
    (hlen : buckets.length = bounds.length) {start : Nat} (hstart : start ≤ exactLimit)
    (hle : ∀ p ∈ cumulativeCounts start bounds buckets, p.2 ≤ exactLimit) :
    cumulative (Number.ofNat start) bounds (buckets.map Number.ofNat) =
      (cumulativeCounts start bounds buckets).map fun p => (p.1, Number.ofNat p.2) := by
  induction bounds generalizing start buckets with
  | nil =>
    rw [List.length_nil] at hlen
    rw [List.eq_nil_of_length_eq_zero hlen]
    rfl
  | cons b rest ih =>
    obtain ⟨n, more, rfl⟩ := List.exists_cons_of_length_eq_add_one hlen
    rw [cumulativeCounts] at hle
    have hsum : start + n ≤ exactLimit := hle _ List.mem_cons_self
    have hrest := ih (Nat.succ.inj hlen) hsum fun p hp => hle p (List.mem_cons_of_mem _ hp)
    rw [List.map_cons, cumulative, Number.ofNat_add_ofNat hstart (by omega), hrest,
      cumulativeCounts, List.map_cons]

theorem cumulative_firstFit {bounds : List Number} (h : bounds.Pairwise fun a b => a.le b = true)
    (values : List Number) (hlen : values.length ≤ exactLimit) :
    cumulative 0 bounds ((firstFit bounds values).map Number.ofNat) =
      bounds.map fun b => (b, Number.ofNat (upTo b values)) := by
  have hcounts := cumulativeCounts_firstFit h 0 values
  have hle : ∀ p ∈ cumulativeCounts 0 bounds (firstFit bounds values), p.2 ≤ exactLimit := by
    intro p hp
    rw [hcounts] at hp
    obtain ⟨b, -, rfl⟩ := List.mem_map.mp hp
    exact (Nat.zero_add _).trans_le ((upTo_le_length b values).trans hlen)
  have hcum := cumulative_map_ofNat (length_firstFit bounds values) (Nat.zero_le _) hle
  rw [hcounts, List.map_map, ← Number.literal_eq] at hcum
  simpa only [Function.comp_def, Nat.zero_add] using hcum

/-- Every value is in one bucket or above every bound. -/
theorem firstFit_sum {bounds : List Number} (hb : ∀ b ∈ bounds, b.isNaN = false)
    (values : List Number) (hv : ∀ v ∈ values, v.isNaN = false) :
    (firstFit bounds values).sum + beyond bounds values = values.length := by
  induction bounds generalizing values with
  | nil => simp [firstFit, beyond]
  | cons b rest ih =>
    -- What the first bound takes is counted apart; the rest meets only the later bounds.
    have hsplit := List.length_eq_length_filter_add (l := values) fun v => v.le b
    have hup : upTo b values = (values.filter fun v => v.le b).length :=
      List.countP_eq_length_filter ..
    have hrest := ih (fun c hc => hb c (List.mem_cons_of_mem _ hc))
      (values.filter fun v => !v.le b) fun v hm => hv v (List.mem_filter.mp hm).1
    have hbeyond : beyond (b :: rest) values =
        beyond rest (values.filter fun v => !v.le b) := by
      unfold beyond
      rw [List.countP_filter]
      refine List.countP_congr fun v hm => ?_
      have hlt := Number.not_lt_iff (hb b List.mem_cons_self) (hv v hm)
      cases hbv : b.lt v with
      | false => simp [hbv, hlt.mp hbv]
      | true =>
        have hle : v.le b = false := Bool.eq_false_iff.mpr fun hle => by
          rw [hlt.mpr hle] at hbv
          cases hbv
        simp [hbv, hle]
    rw [firstFit, List.sum_cons, hbeyond]
    omega

section Texts

theorem toText_ofNat {n : Nat} (h : n < exactLimit) : (Number.ofNat n).toText = toString n := by
  rw [Number.toText, Number.toChars_ofNat h, Nat.toString_eq_ofList_toDigits]

theorem wholeText_ofNat {n : Nat} (h : n < exactLimit) : wholeText (Number.ofNat n) = toString n := by
  rw [wholeText, if_pos (Number.isFinite_ofNat h.le), Number.truncate_ofNat h.le, toText_ofNat h]

/-- The texts of a histogram: each bucket behind the text of its bound, the sum and the count. -/
structure Printed where
  buckets : List (String × String)
  sum : String
  count : String

def Printed.lines (p : Printed) (family : Family) (key : LabelKey) : List String :=
  let labels := pairLabels family.labels key
  p.buckets.map (fun b => series (family.name ++ "_bucket") (labels ++ [("le", b.1)]) b.2) ++
    [series (family.name ++ "_sum") labels p.sum, series (family.name ++ "_count") labels p.count]

def BucketSample.printed (s : BucketSample) : Printed :=
  { buckets := (cumulative 0 s.bounds s.buckets).map (fun b => (valueText b.1, b.2.toText)) ++
      [("+Inf", wholeText s.count)]
    sum := valueText s.sum
    count := wholeText s.count }

theorem bucketLines_eq (family : Family) (key : LabelKey) (s : BucketSample) :
    bucketLines family key s = s.printed.lines family key := by
  simp [bucketLines, Printed.lines, BucketSample.printed, Function.comp_def]

/-- The numbers of the buckets of a series with the texts of their bounds. -/
def bucketCounts (bounds values : List Number) : List (String × Nat) :=
  bounds.map (fun b => (valueText b, upTo b values)) ++ [("+Inf", values.length)]

/-- The texts of one series, told by its bounds and values alone. -/
def exactPrinted (bounds values : List Number) : Printed :=
  { buckets := (bucketCounts bounds values).map fun b => (b.1, toString b.2)
    sum := valueText (values.foldl (· + ·) 0)
    count := toString values.length }

theorem printed_observed {bounds : List Number} (h : bounds.Pairwise fun a b => a.le b = true)
    (values : List Number) (hlen : values.length < exactLimit) :
    (values.foldl Histogram.observe (Histogram.empty bounds)).sample.printed =
      exactPrinted bounds values := by
  have hbuckets : bounds.map (fun b => (valueText b, (Number.ofNat (upTo b values)).toText)) =
      bounds.map fun b => (valueText b, toString (upTo b values)) :=
    List.map_congr_left fun b _ => by
      rw [toText_ofNat ((upTo_le_length b values).trans_lt hlen)]
  rw [foldl_observe, Histogram.sample, BucketSample.printed, exactPrinted, bucketCounts]
  dsimp only
  rw [cumulative_firstFit h values hlen.le, List.map_map, wholeText_ofNat hlen, List.map_append,
    List.map_map]
  simp only [Function.comp_def, hbuckets, List.map_cons, List.map_nil]

/-- The lines of one series, told by its bounds and values alone. -/
def exactLines (family : Family) (key : LabelKey) (bounds values : List Number) : List String :=
  let labels := pairLabels family.labels key
  bounds.map (fun b => series (family.name ++ "_bucket") (labels ++ [("le", valueText b)])
      (toString (upTo b values))) ++
    [series (family.name ++ "_bucket") (labels ++ [("le", "+Inf")]) (toString values.length),
      series (family.name ++ "_sum") labels (valueText (values.foldl (· + ·) 0)),
      series (family.name ++ "_count") labels (toString values.length)]

theorem lines_exactPrinted (family : Family) (key : LabelKey) (bounds values : List Number) :
    (exactPrinted bounds values).lines family key = exactLines family key bounds values := by
  simp [exactLines, Printed.lines, exactPrinted, bucketCounts, Function.comp_def]

theorem bucketLines_observed (family : Family) (key : LabelKey) {bounds : List Number}
    (h : bounds.Pairwise fun a b => a.le b = true) (values : List Number)
    (hlen : values.length < exactLimit) :
    bucketLines family key (values.foldl Histogram.observe (Histogram.empty bounds)).sample =
      exactLines family key bounds values := by
  rw [bucketLines_eq, printed_observed h values hlen, lines_exactPrinted]

end Texts

section Series

variable (metric : String) (changes : List Change)

def observedKeys : List LabelKey := Table.distinct ((observations metric changes).map (·.1))

def measuredAt (key : LabelKey) : List Measured :=
  Table.entriesAt key (observations metric changes)

def valuesAt (key : LabelKey) : List Number := (measuredAt metric changes key).map (·.1)

def boundsAt (key : LabelKey) : List Number := ((measuredAt metric changes key).head?.map (·.2)).getD []

theorem foldl_addObservation (h : Histogram) (ms : List Measured) :
    ms.foldl (fun old m => some (addObservation old m)) (some h) =
      some ((ms.map (·.1)).foldl Histogram.observe h) := by
  induction ms generalizing h with
  | nil => rfl
  | cons m rest ih => exact ih (h.observe m.1)

theorem exists_measuredAt {key : LabelKey} (hkey : key ∈ observedKeys metric changes) :
    ∃ m rest, measuredAt metric changes key = m :: rest := by
  rw [observedKeys, Table.mem_distinct] at hkey
  exact List.exists_cons_of_ne_nil fun hnil => (Table.entriesAt_eq_nil_iff key _).mp hnil hkey

theorem boundsAt_of_constant {bounds : List Number}
    (hbounds : ∀ e ∈ observations metric changes, e.2.2 = bounds) {key : LabelKey}
    (hkey : key ∈ observedKeys metric changes) : boundsAt metric changes key = bounds := by
  obtain ⟨m, rest, hms⟩ := exists_measuredAt metric changes hkey
  have hm : m ∈ measuredAt metric changes key := hms ▸ List.mem_cons_self
  obtain ⟨first, hfirst, rfl⟩ := List.mem_map.mp hm
  rw [boundsAt, hms]
  exact hbounds first (List.mem_filter.mp hfirst).1

/-- A series takes all its values with the bounds of the first. -/
theorem histogram?_applyAll {key : LabelKey} (hkey : key ∈ observedKeys metric changes) :
    (family (({} : Store).applyAll changes).histograms metric).get? key =
      some ((valuesAt metric changes key).foldl Histogram.observe
        (Histogram.empty (boundsAt metric changes key))) := by
  obtain ⟨m, rest, hms⟩ := exists_measuredAt metric changes hkey
  rw [Store.histograms_applyAll, family_nil, Table.get?_enterAll, ← measuredAt, valuesAt, boundsAt,
    hms]
  exact foldl_addObservation _ rest

theorem valuesAt_length_le (key : LabelKey) :
    (valuesAt metric changes key).length ≤ (observations metric changes).length := by
  rw [valuesAt, measuredAt, Table.entriesAt, List.length_map, List.length_map]
  exact List.length_filter_le _ _

theorem mem_observations_of_mem_valuesAt {key : LabelKey} {v : Number}
    (h : v ∈ valuesAt metric changes key) : ∃ e ∈ observations metric changes, e.2.1 = v := by
  obtain ⟨m, hm, rfl⟩ := List.mem_map.mp h
  obtain ⟨e, he, rfl⟩ := List.mem_map.mp hm
  exact ⟨e, (List.mem_filter.mp he).1, rfl⟩

theorem histograms_eq_map :
    family (({} : Store).applyAll changes).histograms metric =
      (observedKeys metric changes).map fun key =>
        (key, (valuesAt metric changes key).foldl Histogram.observe
          (Histogram.empty (boundsAt metric changes key))) := by
  have hfamily := Store.histograms_applyAll {} changes metric
  rw [family_nil] at hfamily
  have hkeys : (family (({} : Store).applyAll changes).histograms metric).keys =
      observedKeys metric changes := by
    rw [hfamily, Table.keys_enterAll, observedKeys]
  have hnodup : (family (({} : Store).applyAll changes).histograms metric).keys.Nodup := by
    rw [hkeys]
    exact Table.nodup_distinct _
  rw [← hkeys]
  refine Table.eq_map_keys hnodup fun key hkey => ?_
  rw [hkeys] at hkey
  exact histogram?_applyAll metric changes hkey

/-- The bounds of a later observation are ignored. -/
theorem observe_bounds_irrelevant {s : Store} {key : LabelKey} {h : Histogram}
    (hkey : s.histogram? metric key = some h) (value : Number) (first second : List Number) :
    s.observe metric key value first = s.observe metric key value second := by
  have hget : ((s.histograms.get? metric).getD []).get? key = some h := hkey
  have hinner := Table.alter_congr ((s.histograms.get? metric).getD []) key
    (f := fun old => addObservation old (value, first))
    (g := fun old => addObservation old (value, second)) (by rw [hget]; rfl)
  have houter := Table.alter_congr s.histograms metric
    (f := fun old => (old.getD []).alter key fun old => addObservation old (value, first))
    (g := fun old => (old.getD []).alter key fun old => addObservation old (value, second)) hinner
  exact congrArg (fun t => { s with histograms := t }) houter

end Series

theorem sortSeries_map {α : Type} (keys : List LabelKey) (f : LabelKey → α) :
    sortSeries (keys.map fun key => (key, f key)) =
      (keys.mergeSort keyLe).map fun key => (key, f key) := by
  rw [sortSeries]
  exact (List.map_mergeSort (r := keyLe) (s := fun a b => keyLe a.1 b.1)
    (f := fun key => (key, f key)) fun _ _ _ _ => rfl).symm

theorem histogramLines_applyAll (changes : List Change) {metric : String}
    (hname : metric ≠ reservedName)
    (hasc : ∀ key ∈ observedKeys metric changes, Ascending (boundsAt metric changes key))
    (hlen : (observations metric changes).length < exactLimit) (f : Family) :
    histogramLines f ((family (({} : Store).applyAll changes).snapshot.histograms metric).map
        fun h => (h.1, h.2.sample)) =
      headLines f "histogram" ++
        (((observedKeys metric changes).mergeSort keyLe).flatMap fun key =>
          exactLines f key (boundsAt metric changes key) (valuesAt metric changes key)) := by
  have hsort := sortSeries_map (observedKeys metric changes) fun key =>
    ((valuesAt metric changes key).foldl Histogram.observe
      (Histogram.empty (boundsAt metric changes key))).sample
  rw [snapshot_histograms _ hname, histograms_eq_map, List.map_map, histogramLines]
  refine congrArg (headLines f "histogram" ++ ·) ?_
  refine (congrArg (List.flatMap _) hsort).trans ?_
  rw [List.flatMap_map]
  refine List.flatMap_congr fun key hkey => ?_
  have hobs : key ∈ observedKeys metric changes := List.mem_mergeSort.mp hkey
  exact bucketLines_observed f key (hasc key hobs).pairwise _
    ((valuesAt_length_le metric changes key).trans_lt hlen)

/-- For ascending bounds the printed lines of a histogram family are exact. Each bucket carries the
number of values that are not above its bound; these numbers do not fall along the bounds and do
not pass the number of all values, which `+Inf` and the count carry; the stored buckets with the
values above every bound make up the count; and only the bounds of the first observation of a
series matter. -/
theorem histogramLines_of_observations (changes : List Change) {metric : String}
    (hname : metric ≠ reservedName)
    (hasc : ∀ key ∈ observedKeys metric changes, Ascending (boundsAt metric changes key))
    (hnum : ∀ e ∈ observations metric changes, e.2.1.isNaN = false)
    (hlen : (observations metric changes).length < exactLimit) (f : Family) :
    let s := ({} : Store).applyAll changes
    histogramLines f ((family s.snapshot.histograms metric).map fun h => (h.1, h.2.sample)) =
      headLines f "histogram" ++
        (((observedKeys metric changes).mergeSort keyLe).flatMap fun key =>
          exactLines f key (boundsAt metric changes key) (valuesAt metric changes key)) ∧
    ∀ key ∈ observedKeys metric changes,
      let bounds := boundsAt metric changes key
      let values := valuesAt metric changes key
      (bounds.map fun b => upTo b values).Pairwise (· ≤ ·) ∧
      (∀ b ∈ bounds, upTo b values ≤ values.length) ∧
      (∃ h, s.histogram? metric key = some h ∧ h.count = values.length ∧
        h.buckets.sum + beyond bounds values = h.count) ∧
      ∀ value first second,
        s.observe metric key value first = s.observe metric key value second := by
  intro s
  refine ⟨?_, fun key hkey => ?_⟩
  · exact histogramLines_applyAll changes hname hasc hlen f
  · intro bounds values
    have hb := hasc key hkey
    have hv : ∀ v ∈ values, v.isNaN = false := by
      intro v hv
      obtain ⟨e, he, rfl⟩ := mem_observations_of_mem_valuesAt metric changes hv
      exact hnum e he
    have hget : s.histogram? metric key = some (values.foldl Histogram.observe
        (Histogram.empty bounds)) := histogram?_applyAll metric changes hkey
    refine ⟨upTo_pairwise hb values, fun b _ => upTo_le_length b values, ⟨_, hget, ?_, ?_⟩,
      observe_bounds_irrelevant metric hget⟩
    · rw [foldl_observe]
    · rw [foldl_observe]
      exact firstFit_sum hb.numbers values hv

/-- Five lies on a bound, seven between two and eleven above both; the bounds that come with the
later values are ignored. -/
theorem histogramLines_of_three_values :
    let changes : List Change := [.observe "wait" ["GET"] 5 [5, 10], .observe "wait" ["GET"] 7 [],
      .observe "wait" ["GET"] 11 [100]]
    let f : Family := ⟨"wait", "Time waited.", ["method"]⟩
    let s := ({} : Store).applyAll changes
    (observedKeys "wait" changes = [["GET"]] ∧
      Ascending (boundsAt "wait" changes ["GET"])) ∧
    histogramLines f ((family s.snapshot.histograms "wait").map fun h => (h.1, h.2.sample)) =
      ["# HELP wait Time waited.", "# TYPE wait histogram",
        "wait_bucket\x7bmethod=\"GET\",le=\"5\"\x7d 1",
        "wait_bucket\x7bmethod=\"GET\",le=\"10\"\x7d 2",
        "wait_bucket\x7bmethod=\"GET\",le=\"+Inf\"\x7d 3",
        "wait_sum\x7bmethod=\"GET\"\x7d 23",
        "wait_count\x7bmethod=\"GET\"\x7d 3"] := by
  intro changes f s
  have hkeys : observedKeys "wait" changes = [["GET"]] := by decide
  have hasc : Ascending (boundsAt "wait" changes ["GET"]) :=
    ⟨by decide +kernel, by decide +kernel⟩
  have hname : "wait" ≠ reservedName := by decide
  have hlines := (histogramLines_of_observations changes hname (fun key hkey => by
    rw [hkeys, List.mem_singleton] at hkey
    rw [hkey]
    exact hasc) (by decide +kernel) (by decide +kernel) f).1
  refine ⟨⟨hkeys, hasc⟩, hlines.trans ?_⟩
  rw [hkeys]
  decide +kernel

end Telemetry.Metric
