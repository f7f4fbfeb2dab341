import Mathlib.Data.List.Nodup
import Telemetry.Metric.Store
import Telemetry.Proofs.Text.Units

/-! # The order of keys

Keys compare like lists of lists of units, so their order is linear: the first difference decides,
and a proper beginning comes first. Sorting distinct keys makes them strictly increasing, and
whatever sorts series with distinct keys has the same result.
-/
namespace Telemetry.Metric

def keyUnits (key : LabelKey) : List (List Nat) := key.map Text.units

theorem keyUnits_inj {a b : LabelKey} : keyUnits a = keyUnits b ↔ a = b :=
  ⟨fun h => List.map_injective_iff.mpr (fun _ _ => Text.units_inj.mp) h, fun h => h ▸ rfl⟩

theorem compareKeys_cons_neg_iff {s t : String} (hst : s ≠ t) (a b : LabelKey) :
    compareKeys (s :: a) (t :: b) < 0 ↔ Text.units s < Text.units t := by
  rw [compareKeys, if_neg hst, ← Text.compare_lt_iff]
  by_cases hlt : Text.compare s t = .lt <;> simp [hlt]

theorem compareKeys_neg_iff (a b : LabelKey) : compareKeys a b < 0 ↔ keyUnits a < keyUnits b := by
  induction a generalizing b with
  | nil =>
    cases b with
    | nil => simp [compareKeys, keyUnits]
    | cons t b =>
      have hneg : compareKeys [] (t :: b) < 0 := by
        simp only [compareKeys, List.length_nil, List.length_cons]
        omega
      exact iff_of_true hneg (List.nil_lt_cons ..)
  | cons s a ih =>
    cases b with
    | nil =>
      simp [compareKeys, keyUnits]
      omega
    | cons t b =>
      unfold keyUnits at ih ⊢
      rw [List.map_cons, List.map_cons, List.cons_lt_cons_iff]
      by_cases hst : s = t
      · simp [compareKeys, hst, ih]
      · have hne : Text.units s ≠ Text.units t := fun h => hst (Text.units_inj.mp h)
        simp [compareKeys_cons_neg_iff hst, hne]

theorem compareKeys_eq_zero_iff (a b : LabelKey) : compareKeys a b = 0 ↔ a = b := by
  induction a generalizing b with
  | nil =>
    cases b with
    | nil => simp [compareKeys]
    | cons t b => simp [compareKeys]; omega
  | cons s a ih =>
    cases b with
    | nil => simp [compareKeys]; omega
    | cons t b =>
      rw [compareKeys]
      by_cases hst : s = t
      · simp [hst, ih]
      · by_cases hlt : Text.compare s t = .lt <;> simp [hst, hlt]

theorem compareKeys_swap (a b : LabelKey) : compareKeys b a = -compareKeys a b := by
  induction a generalizing b with
  | nil => cases b <;> simp [compareKeys]
  | cons s a ih =>
    cases b with
    | nil => simp [compareKeys]
    | cons t b =>
      rw [compareKeys, compareKeys]
      by_cases hst : s = t
      · simp [hst, ih]
      · have hne : Text.units s ≠ Text.units t := fun h => hst (Text.units_inj.mp h)
        rcases lt_or_gt_of_ne hne with hlt | hgt
        · have hnot := mt (Text.compare_lt_iff t s).mp hlt.asymm
          simp [hst, Ne.symm hst, (Text.compare_lt_iff s t).mpr hlt, hnot]
        · have hnot := mt (Text.compare_lt_iff s t).mp hgt.asymm
          simp [hst, Ne.symm hst, (Text.compare_lt_iff t s).mpr hgt, hnot]

/-- What two keys begin with alike does not count. -/
theorem compareKeys_append (common a b : LabelKey) :
    compareKeys (common ++ a) (common ++ b) = compareKeys a b := by
  induction common with
  | nil => rfl
  | cons s rest ih => rw [List.cons_append, List.cons_append, compareKeys, if_pos rfl, ih]

theorem compareKeys_extension (a more : LabelKey) : compareKeys a (a ++ more) = -more.length := by
  have h := compareKeys_append a [] more
  rw [List.append_nil] at h
  rw [h]
  cases more <;> simp [compareKeys]

theorem keyLe_iff (a b : LabelKey) : keyLe a b = true ↔ keyUnits a ≤ keyUnits b := by
  have hneg := compareKeys_neg_iff a b
  have hzero := compareKeys_eq_zero_iff a b
  rw [keyLe, decide_eq_true_eq, le_iff_lt_or_eq (a := keyUnits a), keyUnits_inj, ← hneg, ← hzero]
  omega

theorem keyLe_trans (a b c : LabelKey) (hab : keyLe a b = true) (hbc : keyLe b c = true) :
    keyLe a c = true :=
  (keyLe_iff a c).mpr (((keyLe_iff a b).mp hab).trans ((keyLe_iff b c).mp hbc))

theorem keyLe_total (a b : LabelKey) : (keyLe a b || keyLe b a) = true := by
  rw [Bool.or_eq_true, keyLe_iff, keyLe_iff]
  exact le_total _ _

/-- Sorted distinct keys are strictly increasing. -/
theorem pairwise_mergeSort_keyLe {keys : List LabelKey} (h : keys.Nodup) :
    (keys.mergeSort keyLe).Pairwise fun a b => compareKeys a b < 0 := by
  have hsorted : (keys.mergeSort keyLe).Pairwise fun a b => keyLe a b = true :=
    List.pairwise_mergeSort keyLe_trans keyLe_total keys
  have hnodup := (List.mergeSort_perm keys keyLe).nodup_iff.mpr h
  refine (hsorted.and hnodup).imp fun {a b} hab => ?_
  rw [compareKeys_neg_iff]
  exact lt_of_le_of_ne ((keyLe_iff a b).mp hab.1) fun he => hab.2 (keyUnits_inj.mp he)

/-- A comparison whose signs order the keys. The first label that differs decides, by its units,
and a key comes before its extensions. -/
structure OrdersKeys (cmp : LabelKey → LabelKey → Int) : Prop where
  zero_iff (a b : LabelKey) : cmp a b = 0 ↔ a = b
  sign_swap (a b : LabelKey) : (cmp b a).sign = -(cmp a b).sign
  nonpos_trans (a b c : LabelKey) : cmp a b ≤ 0 → cmp b c ≤ 0 → cmp a c ≤ 0
  neg_trans (a b c : LabelKey) : cmp a b < 0 → cmp b c < 0 → cmp a c < 0
  extension (a more : LabelKey) : more ≠ [] → cmp a (a ++ more) < 0
  difference (common a b : LabelKey) (s t : String) : s ≠ t →
    (cmp (common ++ s :: a) (common ++ t :: b) < 0 ↔ Text.units s < Text.units t)

theorem ordersKeys_compareKeys : OrdersKeys compareKeys where
  zero_iff := compareKeys_eq_zero_iff
  sign_swap a b := by rw [compareKeys_swap, Int.sign_neg]
  nonpos_trans a b c hab hbc :=
    of_decide_eq_true (keyLe_trans a b c (decide_eq_true hab) (decide_eq_true hbc))
  neg_trans a b c hab hbc := by
    rw [compareKeys_neg_iff] at hab hbc ⊢
    exact hab.trans hbc
  extension a more hmore := by
    have hlength := List.length_pos_iff.mpr hmore
    rw [compareKeys_extension]
    omega
  difference common a b s t hst := by
    rw [compareKeys_append, compareKeys_cons_neg_iff hst]

section Sorting

variable {α : Type} {samples sorted : List (LabelKey × α)}

/-- Series in the order of a comparison: no key stands before one that is below it. -/
def IsSorted (cmp : LabelKey → LabelKey → Int) (samples : List (LabelKey × α)) : Prop :=
  samples.Pairwise fun a b => cmp a.1 b.1 ≤ 0

theorem isSorted_sortSeries (samples : List (LabelKey × α)) :
    IsSorted compareKeys (sortSeries samples) := by
  have hsorted := List.pairwise_mergeSort (fun a b c => keyLe_trans a.1 b.1 c.1)
    (fun a b => keyLe_total a.1 b.1) samples
  exact hsorted.imp fun h => of_decide_eq_true h

/-- Keys that are not below each other are equal, so distinct keys have one order. -/
theorem OrdersKeys.eq_of_isSorted {cmp : LabelKey → LabelKey → Int} (h : OrdersKeys cmp)
    (hperm : sorted.Perm samples) (hnodup : (samples.map (·.1)).Nodup)
    (hsorted : IsSorted cmp sorted) (hsamples : IsSorted cmp samples) : sorted = samples := by
  refine hperm.eq_of_pairwise (fun a b ha hb hab hba => ?_) hsorted hsamples
  have hsign := h.sign_swap a.1 b.1
  have hzero : cmp a.1 b.1 = 0 := by
    by_contra hne
    have hneg : cmp a.1 b.1 < 0 := by omega
    rw [Int.sign_eq_neg_one_of_neg hneg] at hsign
    have hpos := Int.pos_of_sign_eq_one hsign
    omega
  exact List.inj_on_of_nodup_map hnodup (hperm.mem_iff.mp ha) hb ((h.zero_iff _ _).mp hzero)

theorem eq_sortSeries_iff (hnodup : (samples.map (·.1)).Nodup) :
    sorted = sortSeries samples ↔ sorted.Perm samples ∧ IsSorted compareKeys sorted := by
  have hperm : (sortSeries samples).Perm samples := List.mergeSort_perm _ _
  constructor
  · rintro rfl
    exact ⟨hperm, isSorted_sortSeries samples⟩
  · rintro ⟨hsame, hsorted⟩
    refine ordersKeys_compareKeys.eq_of_isSorted (hsame.trans hperm.symm) ?_ hsorted
      (isSorted_sortSeries samples)
    exact (hperm.map _).nodup_iff.mpr hnodup

/-- Series with distinct keys have one order. -/
theorem sortSeries_perm {family other : List (LabelKey × α)} (h : family.Perm other)
    (hnodup : (family.map (·.1)).Nodup) : sortSeries family = sortSeries other := by
  have hperm : (sortSeries family).Perm family := List.mergeSort_perm _ _
  have hother := (h.map _).nodup_iff.mp hnodup
  exact (eq_sortSeries_iff hother).mpr ⟨hperm.trans h, isSorted_sortSeries family⟩

end Sorting

/-- Keys of any lengths are totally ordered by the signs of their comparison. So series with
distinct keys, in whatever order they come, can be sorted in one way only. -/
theorem keys_sort_in_one_way :
    OrdersKeys compareKeys ∧
      ∀ (α : Type) (samples input : List (LabelKey × α)), (samples.map (·.1)).Nodup →
        input.Perm samples → sortSeries input = sortSeries samples ∧
          ∀ sorted : List (LabelKey × α),
            sorted.Perm input ∧ IsSorted compareKeys sorted ↔ sorted = sortSeries samples := by
  refine ⟨ordersKeys_compareKeys, fun α samples input hnodup hperm => ?_⟩
  have hsame := sortSeries_perm hperm ((hperm.map _).nodup_iff.mpr hnodup)
  refine ⟨hsame, fun sorted => ?_⟩
  rw [← hsame, eq_sortSeries_iff ((hperm.map _).nodup_iff.mpr hnodup)]

/-- A character of two units is below `U+FFFF`, and a key is below its extension. -/
theorem keys_sort_in_one_way_of_surrogates :
    let input := [(["\uffff"], 1), (["😀", "x"], 2), (["😀"], 3)]
    (input.map (·.1)).Nodup ∧ sortSeries input = [(["😀"], 3), (["😀", "x"], 2), (["\uffff"], 1)] ∧
      ∀ sorted, sorted.Perm input → IsSorted compareKeys sorted →
        sorted = [(["😀"], 3), (["😀", "x"], 2), (["\uffff"], 1)] := by
  intro input
  have hnodup : (input.map (·.1)).Nodup := by decide +kernel
  obtain ⟨-, hone⟩ := keys_sort_in_one_way.2 ℕ input input hnodup (.refl _)
  have hexpected := (hone [(["😀"], 3), (["😀", "x"], 2), (["\uffff"], 1)]).mp
    ⟨by decide +kernel, by unfold IsSorted; decide +kernel⟩
  refine ⟨hnodup, hexpected.symm, fun sorted hperm hsorted => ?_⟩
  rw [hexpected]
  exact (hone sorted).mp ⟨hperm, hsorted⟩

end Telemetry.Metric
