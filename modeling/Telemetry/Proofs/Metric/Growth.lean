import Telemetry.Proofs.Metric.Families
import Telemetry.Proofs.Metric.ValueText

/-! # Totals that only grow

A total takes amounts that are not negative, so it does not fall even where it is rounded, and past
every double it stays at infinity. In a longer history each series of a store is still there and
none of its numbers is smaller.
-/
namespace Telemetry.Metric

section Sums

theorem unsigned_ofUnits (num den : Nat) : Unsigned (Number.ofUnits false num den) :=
  ⟨Number.isNaN_ofUnits _ _ _, Number.isNegative_ofUnits _ _ _⟩

theorem unsigned_ofNat (n : Nat) : Unsigned (Number.ofNat n) := by
  rw [Number.ofNat_def]
  exact unsigned_ofUnits _ _

theorem unsigned_zero : Unsigned 0 := by
  rw [Number.literal_eq]
  exact unsigned_ofNat 0

variable {x y a b : Number}

theorem Unsigned.add_infinity (h : Unsigned x) : x + .infinity false = .infinity false := by
  rcases h.finite_or with ⟨u, hf, hb, rfl⟩ | rfl <;> rfl

theorem Unsigned.infinity_add (h : Unsigned x) : .infinity false + x = .infinity false := by
  rcases h.finite_or with ⟨u, hf, hb, rfl⟩ | rfl <;> rfl

/-- An amount that totals take; a zero may have a sign. -/
structure Addend (a : Number) : Prop where
  finite : a.isFinite = true
  place : 0 ≤ a.place

theorem addend_amount (value : Datum) : Addend (amount value) := by
  obtain ⟨hfin, hlt⟩ := amount_nonneg value
  have hle := (Number.not_lt_iff (Number.isNaN_of_isFinite hfin) unsigned_zero.number).mp hlt
  obtain ⟨-, -, hplace⟩ := (Number.le_iff _ _).mp hle
  rw [Number.place_zero] at hplace
  exact ⟨hfin, hplace⟩

theorem Unsigned.add_addend (hx : Unsigned x) (ha : Addend a) : Unsigned (x + a) := by
  rcases hx.finite_or with ⟨u, hf, hb, rfl⟩ | rfl
  · obtain ⟨hfin, hplace⟩ := ha
    cases a with
    | nan => cases hfin
    | infinity t => cases hfin
    | finite t v hg hm =>
      have hnonneg : 0 ≤ Number.signed false u + Number.signed t v := by
        rw [Number.place] at hplace
        rw [Number.signed, if_neg Bool.false_ne_true]
        omega
      have hsign : (if Number.signed false u + Number.signed t v = 0 then false && t
          else decide (Number.signed false u + Number.signed t v < 0)) = false := by
        split
        · rfl
        · exact decide_eq_false (Int.not_lt.mpr hnonneg)
      rw [Number.finite_add_finite, hsign]
      exact unsigned_ofUnits _ _
  · rw [Number.infinity_add false ha.finite]
    exact hx

theorem Unsigned.le_add_addend (hx : Unsigned x) (ha : Addend a) : x.le (x + a) = true := by
  rcases hx.finite_or with ⟨u, hf, hb, rfl⟩ | rfl
  · refine (Number.le_iff _ _).mpr ⟨rfl, (hx.add_addend ha).number, ?_⟩
    have hplace := ha.place
    have hu : (Number.finite false u hf hb).place = u := by
      rw [Number.place, Number.signed, if_neg Bool.false_ne_true]
    rw [Number.place_add rfl ha.finite, hu]
    calc (u : Int) = Number.roundPlace u := (Number.roundPlace_of_fits hf hb).symm
      _ ≤ Number.roundPlace (u + a.place) := Number.roundPlace_mono (by omega)
  · rw [Number.infinity_add false ha.finite]
    exact Number.le_refl rfl

theorem Unsigned.addend (h : Unsigned x) (hfin : x.isFinite = true) : Addend x := by
  refine ⟨hfin, ?_⟩
  obtain ⟨u, hf, hb, rfl⟩ := h.eq_finite hfin
  rw [Number.place, Number.signed, if_neg Bool.false_ne_true]
  exact Int.natCast_nonneg u

theorem Unsigned.add (hx : Unsigned x) (ha : Unsigned a) : Unsigned (x + a) := by
  rcases ha.finite_or with ⟨v, hf, hb, rfl⟩ | rfl
  · exact hx.add_addend (ha.addend rfl)
  · rw [hx.add_infinity]
    exact ha

/-- A total is not smaller than what it took last. -/
theorem Unsigned.le_add_left (hx : Unsigned x) (hy : Unsigned y) (hfin : y.isFinite = true) :
    y.le (x + y) = true := by
  have hsum := (hx.add hy).number
  rcases hx.finite_or with ⟨u, hf, hb, rfl⟩ | rfl
  · obtain ⟨v, hg, hm, rfl⟩ := hy.eq_finite hfin
    refine (Number.le_iff _ _).mpr ⟨rfl, hsum, ?_⟩
    rw [Number.place_add rfl rfl]
    have hv : (Number.finite false v hg hm).place = v := by simp [Number.place, Number.signed]
    have hu : (Number.finite false u hf hb).place = u := by simp [Number.place, Number.signed]
    rw [hu, hv]
    calc (v : Int) = Number.roundPlace v := (Number.roundPlace_of_fits hg hm).symm
      _ ≤ Number.roundPlace (u + v) := Number.roundPlace_mono (by omega)
  · rw [Number.infinity_add false hfin]
    exact Number.le_infinity hy.number

theorem Unsigned.eq_zero_of_le (hx : Unsigned x) (hfin : x.isFinite = true) (h : x.le 0 = true) :
    x = 0 := by
  have hplace := ((Number.le_iff _ _).mp h).2.2
  have hpos := (hx.addend hfin).place
  have hzero : (0 : Number).isFinite = true := Number.isFinite_ofNat (Nat.zero_le _)
  rw [Number.place_zero] at hplace
  refine Number.eq_of_place hfin hzero hx.sign unsigned_zero.sign ?_
  rw [Number.place_zero]
  omega

/-- The larger of two totals is one of them, and neither is above it. -/
theorem Unsigned.maximum_cases (hx : Unsigned x) (hy : Unsigned y) (hxfin : x.isFinite = true)
    (hyfin : y.isFinite = true) :
    (Number.maximum x y = x ∧ y.le x = true) ∨ (Number.maximum x y = y ∧ x.le y = true) := by
  rcases Number.le_or_lt hyfin hxfin with hle | hlt
  · exact .inl ⟨Number.maximum_eq_left hx.sign hle, hle⟩
  · have hle := Number.le_of_lt hlt
    exact .inr ⟨Number.maximum_eq_right hxfin hyfin hx.sign hy.sign hle, hle⟩

/-- A total that has gone on from an earlier one. -/
structure Climbs (x y : Number) : Prop where
  first : Unsigned x
  later : Unsigned y
  le : x.le y = true

theorem Unsigned.climbs (h : Unsigned x) : Climbs x x := ⟨h, h, Number.le_refl h.number⟩

theorem climbs_ofNat {m n : Nat} (h : m ≤ n) : Climbs (Number.ofNat m) (Number.ofNat n) :=
  ⟨unsigned_ofNat m, unsigned_ofNat n, Number.ofNat_mono h⟩

theorem Climbs.isFinite (h : Climbs x y) (hfin : y.isFinite = true) : x.isFinite = true :=
  h.first.isFinite_of_le h.le hfin

theorem Climbs.not_finite (h : Climbs x y) (hx : x.isFinite = false) : y.isFinite = false := by
  refine Bool.eq_false_iff.mpr fun hy => ?_
  rw [h.isFinite hy] at hx
  cases hx

/-- Sums of totals that go on go on, wherever they are rounded. -/
theorem Climbs.add (h : Climbs x y) (hab : Climbs a b) : Climbs (x + a) (y + b) := by
  have hfirst := h.first.add hab.first
  refine ⟨hfirst, h.later.add hab.later, ?_⟩
  rcases h.later.finite_or with ⟨v, hg, hm, rfl⟩ | rfl
  · rcases hab.later.finite_or with ⟨w, hk, hn, rfl⟩ | rfl
    · have hx := h.isFinite rfl
      have ha := hab.isFinite rfl
      obtain ⟨-, -, hxy⟩ := (Number.le_iff _ _).mp h.le
      obtain ⟨-, -, hplace⟩ := (Number.le_iff _ _).mp hab.le
      refine (Number.le_iff _ _).mpr ⟨hfirst.number, (h.later.add hab.later).number, ?_⟩
      rw [Number.place_add hx ha, Number.place_add rfl rfl]
      exact Number.roundPlace_mono (by omega)
    · rw [h.later.add_infinity]
      exact Number.le_infinity hfirst.number
  · rw [hab.later.infinity_add]
    exact Number.le_infinity hfirst.number

end Sums

section Counters

theorem Gain.addend_truncate {a : Number} (h : Gain a) :
    Unsigned a.truncate ∧ Addend a.truncate := by
  obtain ⟨hfin, hpos⟩ := h
  obtain ⟨-, -, hplace⟩ := (Number.lt_iff _ _).mp hpos
  rw [Number.place_zero] at hplace
  cases a with
  | nan => cases hfin
  | infinity s => cases hfin
  | finite s u hf hb =>
    obtain rfl : s = false := by
      cases s with
      | false => rfl
      | true =>
        rw [Number.place, Number.signed, if_pos rfl] at hplace
        omega
    have hunsigned : Unsigned (Number.finite false u hf hb).truncate := by
      rw [Number.truncate_finite]
      exact ⟨rfl, rfl⟩
    exact ⟨hunsigned, hunsigned.addend (by rw [Number.isFinite_truncate, Number.isFinite])⟩

theorem Gain.raises {a : Number} (h : Gain a) :
    Table.Raises addAmount Unsigned (fun x y => x.le y = true) a := by
  obtain ⟨hunsigned, haddend⟩ := h.addend_truncate
  exact ⟨hunsigned, fun x hx => ⟨hx.add_addend haddend, hx.le_add_addend haddend⟩⟩

/-- In a longer history every counter is still there and has not fallen. -/
theorem counters_climb {metric : String} {before more : List Change}
    (h : ∀ e ∈ increments metric (before ++ more), Gain e.2) :
    ∀ e ∈ family (({} : Store).applyAll before).counters metric,
      ∃ total, (e.1, total) ∈ family (({} : Store).applyAll (before ++ more)).counters metric ∧
        Climbs e.2 total := by
  intro e he
  rw [Store.counters_applyAll, family_nil] at he ⊢
  rw [increments, List.filterMap_append] at h ⊢
  obtain ⟨hfirst, total, hmem, hlater, hle⟩ := Table.enterAll_raises
    (R := fun x y => Number.le x y = true) (fun x (hx : Unsigned x) => Number.le_refl hx.number)
    (fun _ _ _ => Number.le_trans) (fun e he => (h e he).raises) he
  exact ⟨total, hmem, hfirst, hlater, hle⟩

end Counters

section Histograms

/-- A histogram that has gone on from an earlier one. -/
structure Histogram.Climbs (g h : Histogram) : Prop where
  bounds : g.bounds = h.bounds
  buckets : List.Forall₂ (· ≤ ·) g.buckets h.buckets
  count : g.count ≤ h.count
  sum : Metric.Climbs g.sum h.sum

theorem Histogram.climbs_refl {h : Histogram} (hsum : Unsigned h.sum) : h.Climbs h :=
  ⟨rfl, List.forall₂_refl _, Nat.le_refl _, hsum.climbs⟩

theorem forall₂_le_modify (ns : List Nat) (i : Nat) :
    List.Forall₂ (· ≤ ·) ns (ns.modify i (· + 1)) := by
  induction ns generalizing i with
  | nil => simp
  | cons n rest ih =>
    cases i with
    | zero => exact .cons (Nat.le_succ n) (List.forall₂_refl rest)
    | succ i => exact .cons (Nat.le_refl n) (ih i)

theorem forall₂_le_trans {ks ms ns : List Nat} (hkm : List.Forall₂ (· ≤ ·) ks ms)
    (hmn : List.Forall₂ (· ≤ ·) ms ns) : List.Forall₂ (· ≤ ·) ks ns := by
  induction hkm generalizing ns with
  | nil => exact hmn
  | cons h _ ih =>
    obtain ⟨n, rest, hn, hrest, rfl⟩ := List.forall₂_cons_left_iff.mp hmn
    exact .cons (h.trans hn) (ih hrest)

theorem Histogram.Climbs.trans {f g h : Histogram} (hfg : f.Climbs g) (hgh : g.Climbs h) :
    f.Climbs h :=
  ⟨hfg.bounds.trans hgh.bounds, forall₂_le_trans hfg.buckets hgh.buckets, hfg.count.trans hgh.count,
    hfg.sum.first, hgh.sum.later, Number.le_trans hfg.sum.le hgh.sum.le⟩

theorem Histogram.climbs_observe {h : Histogram} (hsum : Unsigned h.sum) {value : Number}
    (hvalue : Addend value) : h.Climbs (h.observe value) := by
  refine ⟨rfl, ?_, Nat.le_succ _, hsum, hsum.add_addend hvalue, hsum.le_add_addend hvalue⟩
  unfold Histogram.observe
  dsimp only
  split
  · exact forall₂_le_modify _ _
  · exact List.forall₂_refl _

theorem raises_observation {m : Measured} (h : Addend m.1) :
    Table.Raises addObservation (fun h => Unsigned h.sum) Histogram.Climbs m :=
  ⟨unsigned_zero.add_addend h, fun _ hsum => ⟨hsum.add_addend h, Histogram.climbs_observe hsum h⟩⟩

/-- In a longer history every histogram is still there and none of its numbers has fallen. -/
theorem histograms_climb {metric : String} {before more : List Change}
    (h : ∀ e ∈ observations metric (before ++ more), Addend e.2.1) :
    ∀ e ∈ family (({} : Store).applyAll before).histograms metric,
      ∃ histogram,
        (e.1, histogram) ∈ family (({} : Store).applyAll (before ++ more)).histograms metric ∧
        e.2.Climbs histogram := by
  intro e he
  rw [Store.histograms_applyAll, family_nil] at he ⊢
  rw [observations, List.filterMap_append] at h ⊢
  obtain ⟨-, histogram, hmem, -, hclimbs⟩ := Table.enterAll_raises
    (fun _ => Histogram.climbs_refl) (fun _ _ _ => Histogram.Climbs.trans)
    (fun e he => raises_observation (h e he)) he
  exact ⟨histogram, hmem, hclimbs⟩

end Histograms

section Meters

/-- How the number of a series is written: as it is, without a fraction, or with at most six
decimals. -/
inductive Format where
  | plain
  | whole
  | fixed

def Format.text : Format → Number → String
  | plain, x => x.toText
  | whole, x => wholeText x
  | fixed, x => valueText x

/-- The text tells the number, apart from a fraction that the format cuts or rounds. -/
def Format.Shows : Format → Number → Prop
  | plain, _ => True
  | whole, x => x.isFinite = true
  | fixed, x => x.isFinite = true ∧ KeepsZeros x

instance (format : Format) (x : Number) : Decidable (format.Shows x) :=
  match format with
  | .plain => isTrue trivial
  | .whole => inferInstanceAs (Decidable (x.isFinite = true))
  | .fixed => inferInstanceAs (Decidable (_ ∧ _))

theorem wholeText_of_not_finite {x : Number} (h : x.isFinite = false) : wholeText x = "0" :=
  if_neg (by rw [h]; decide)

theorem valueText_of_not_finite {x : Number} (h : x.isFinite = false) : valueText x = "0" :=
  if_neg (by rw [h]; decide)

/-- What is written of a total that goes on does not fall, unless the total leaves the finite
numbers or its text loses zeros. -/
theorem Format.text_mono (format : Format) {x y : Number} (h : Climbs x y)
    (hshows : x.isFinite = true → format.Shows y) :
    (Number.ofText (format.text x)).le (Number.ofText (format.text y)) = true := by
  -- Once the first total is infinite the whole and the fixed text are zero for good.
  have hzero : (Number.ofText "0").le (Number.ofText "0") = true := by decide +kernel
  cases format with
  | plain =>
    rw [text, text, Number.ofText_toText h.first.number h.first.sign,
      Number.ofText_toText h.later.number h.later.sign]
    exact h.le
  | whole =>
    cases hx : x.isFinite with
    | true => exact wholeText_mono h.first h.later h.le (hshows hx)
    | false =>
      rw [text, text, wholeText_of_not_finite hx, wholeText_of_not_finite (h.not_finite hx)]
      exact hzero
  | fixed =>
    cases hx : x.isFinite with
    | true => exact valueText_mono h.first h.later h.le (hshows hx).1 (hshows hx).2
    | false =>
      rw [text, text, valueText_of_not_finite hx, valueText_of_not_finite (h.not_finite hx)]
      exact hzero

/-- A series that counts, with the total behind its text. -/
structure Meter where
  name : String
  labels : List (String × String)
  format : Format
  total : Number

def Meter.series (m : Meter) : Series := ⟨m.name, m.labels, m.format.text m.total⟩

/-- The same series later. -/
structure Meter.Climbs (a b : Meter) : Prop where
  name : b.name = a.name
  labels : b.labels = a.labels
  format : b.format = a.format
  total : Metric.Climbs a.total b.total

theorem meter_climbs (name : String) (labels : List (String × String)) (format : Format)
    {x y : Number} (h : Climbs x y) :
    Meter.Climbs ⟨name, labels, format, x⟩ ⟨name, labels, format, y⟩ := ⟨rfl, rfl, rfl, h⟩

theorem Meter.Climbs.text_mono {a b : Meter} (h : a.Climbs b)
    (hshows : a.total.isFinite = true → b.format.Shows b.total) :
    (Number.ofText a.series.value).le (Number.ofText b.series.value) = true := by
  have hformat := h.format
  rw [hformat] at hshows
  rw [series, series, hformat]
  exact a.format.text_mono h.total hshows

theorem exists_of_mem_forall₂ {α β : Type} {R : α → β → Prop} {as : List α} {bs : List β}
    (h : List.Forall₂ R as bs) {a : α} (ha : a ∈ as) : ∃ b ∈ bs, R a b := by
  induction h with
  | nil => cases ha
  | cons hab _ ih =>
    rcases List.mem_cons.mp ha with rfl | ha
    · exact ⟨_, List.mem_cons_self, hab⟩
    · obtain ⟨b, hb, hr⟩ := ih ha
      exact ⟨b, List.mem_cons_of_mem _ hb, hr⟩

def counterMeters (f : Family) (samples : List (LabelKey × Number)) : List Meter :=
  (sortSeries samples).map fun s => ⟨f.name, pairLabels f.labels s.1, .whole, s.2⟩

def Histogram.meters (h : Histogram) (f : Family) (key : LabelKey) : List Meter :=
  let labels := pairLabels f.labels key
  (cumulative 0 h.bounds (h.buckets.map Number.ofNat)).map (fun b =>
      ⟨f.name ++ "_bucket", labels ++ [("le", valueText b.1)], .plain, b.2⟩) ++
    [⟨f.name ++ "_bucket", labels ++ [("le", "+Inf")], .whole, Number.ofNat h.count⟩,
      ⟨f.name ++ "_sum", labels, .fixed, h.sum⟩,
      ⟨f.name ++ "_count", labels, .whole, Number.ofNat h.count⟩]

def timingMeters (f : Family) (samples : List (LabelKey × Histogram)) : List Meter :=
  (sortSeries samples).flatMap fun s => s.2.meters f s.1

theorem rows_numberBlock (f : Family) (kind : String) (samples : List (LabelKey × Number)) :
    (numberBlock f kind wholeText samples).rows = (counterMeters f samples).map Meter.series := by
  rw [numberBlock, plainBlock, counterMeters, List.map_map, List.map_map]
  rfl

theorem rows_counterBlock (s : Store) (f : Family) :
    (counterBlock s f).rows = (counterMeters f (family s.counters f.name)).map Meter.series :=
  rows_numberBlock f "counter" _

theorem rows_timingBlock (s : Store) (f : Family) :
    (timingBlock s f).rows = (timingMeters f (family s.histograms f.name)).map Meter.series := by
  rw [timingBlock, histogramBlock, List.flatMap_map, timingMeters, List.map_flatMap]
  refine List.flatMap_congr fun h _ => ?_
  simp [Printed.rows, BucketSample.printed, Histogram.sample, Histogram.meters, bucketRow,
    Meter.series, Format.text, Function.comp_def]

theorem counterMeters_climb {f : Family} {samples later : List (LabelKey × Number)}
    (h : ∀ e ∈ samples, ∃ total, (e.1, total) ∈ later ∧ Climbs e.2 total) :
    ∀ a ∈ counterMeters f samples, ∃ b ∈ counterMeters f later, a.Climbs b := by
  intro a ha
  obtain ⟨e, he, rfl⟩ := List.mem_map.mp ha
  obtain ⟨total, hmem, hclimbs⟩ := h e (List.mem_mergeSort.mp he)
  exact ⟨_, List.mem_map_of_mem (List.mem_mergeSort.mpr hmem), meter_climbs _ _ _ hclimbs⟩

theorem cumulative_climbs {x y : Number} (h : Climbs x y) (bounds : List Number)
    {ms ns : List Nat} (hle : List.Forall₂ (· ≤ ·) ms ns) :
    List.Forall₂ (fun a b => b.1 = a.1 ∧ Climbs a.2 b.2)
      (cumulative x bounds (ms.map Number.ofNat)) (cumulative y bounds (ns.map Number.ofNat)) := by
  induction bounds generalizing x y ms ns with
  | nil => exact .nil
  | cons bound rest ih =>
    cases hle with
    | nil =>
      have hsum := h.add unsigned_zero.climbs
      exact .cons ⟨rfl, hsum⟩ (ih hsum .nil)
    | cons hmn hrest =>
      have hsum := h.add (climbs_ofNat hmn)
      exact .cons ⟨rfl, hsum⟩ (ih hsum hrest)

theorem Histogram.Climbs.meters {g h : Histogram} (hgh : g.Climbs h) (f : Family)
    (key : LabelKey) : List.Forall₂ Meter.Climbs (g.meters f key) (h.meters f key) := by
  have hcount := climbs_ofNat hgh.count
  have hbuckets := cumulative_climbs unsigned_zero.climbs g.bounds hgh.buckets
  unfold Histogram.meters
  rw [← hgh.bounds]
  refine List.rel_append (List.rel_map (fun a b hab => ?_) hbuckets) ?_
  · rw [hab.1]
    exact meter_climbs _ _ _ hab.2
  · exact .cons (meter_climbs _ _ _ hcount) (.cons (meter_climbs _ _ _ hgh.sum)
      (.cons (meter_climbs _ _ _ hcount) .nil))

theorem timingMeters_climb {f : Family} {samples later : List (LabelKey × Histogram)}
    (h : ∀ e ∈ samples, ∃ histogram, (e.1, histogram) ∈ later ∧ e.2.Climbs histogram) :
    ∀ a ∈ timingMeters f samples, ∃ b ∈ timingMeters f later, a.Climbs b := by
  intro a ha
  obtain ⟨e, he, ha⟩ := List.mem_flatMap.mp ha
  obtain ⟨histogram, hmem, hclimbs⟩ := h e (List.mem_mergeSort.mp he)
  obtain ⟨b, hb, hab⟩ := exists_of_mem_forall₂ (hclimbs.meters f e.1) ha
  exact ⟨b, List.mem_flatMap.mpr ⟨_, List.mem_mergeSort.mpr hmem, hb⟩, hab⟩

end Meters

end Telemetry.Metric
