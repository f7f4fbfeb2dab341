import Mathlib.Algebra.Order.Floor.Div
import Mathlib.Data.List.Sort
import Telemetry.Alert.Aggregate
import Telemetry.Proofs.Number.Integer

/-! # The nearest-rank percentile

The share of nineteen twentieths is no double: the nearest one lies just below it. A count times
this double still rounds to a number between the exact rank and the whole number before, so that the
rank is exact for every count below `2 ^ 32`. The value at this rank among the ascending values is
the nearest-rank percentile, in whatever order the values came.
-/
namespace Telemetry.Alert
open Telemetry.Number (unit unit_pos roundUnits limitBits Fits exactLimit)

section Rank

/-- The rank as it is computed, counted from zero and before it is put between the ends. -/
def computedRank (n : Nat) : Number :=
  Number.ceil (Number.ofNat n * Number.ofRatio false 95 100) - 1

theorem rank95_eq (n : Nat) : rank95 n = min (n - 1) ((computedRank n).toInt?.getD 0).toNat := by
  rfl

/-- The magnitude of the double nearest to the share. -/
def share : Nat := roundUnits (95 * unit) 100

def thirtySecond : Nat := 2 ^ 1069

theorem unit_eq_mul_thirtySecond : unit = 32 * thirtySecond := by
  unfold unit thirtySecond
  decide +kernel

theorem share_le : 20 * share ≤ 19 * unit := by
  unfold share unit
  decide +kernel

/-- What the double lacks stays small when it is multiplied by a count. -/
theorem mul_lack_le : 2 ^ 32 * (19 * unit - 20 * share) ≤ 12 * thirtySecond := by
  unfold share thirtySecond unit
  decide +kernel

theorem share_in_range : share.log2 < limitBits := by
  unfold share unit
  decide +kernel

-- From here on only the bounds on these magnitudes are used, never their digits.
attribute [local irreducible] Number.unit Number.unitBits share thirtySecond

theorem fits_share : Fits share := by
  unfold share
  exact Number.fits_roundUnits _ _

theorem ofRatio_share :
    Number.ofRatio false 95 100 = .finite false share fits_share share_in_range := by
  have hrange := share_in_range
  unfold share at hrange
  rw [Number.ofRatio_def, Number.ofUnits, dif_pos hrange]
  unfold share
  rfl

variable {n k : Nat} (hn : n < 2 ^ 32) (hlow : 20 * k < 19 * n) (hhigh : 19 * n ≤ 20 * (k + 1))
include hn hlow hhigh

/-- A count of shares lies well behind the whole number before the rank and not behind the rank. -/
theorem mul_share_bounds :
    (32 * k + 1) * thirtySecond ≤ n * share ∧ n * share ≤ (k + 1) * unit := by
  obtain ⟨lack, hlack⟩ := Nat.exists_eq_add_of_le share_le
  have hlost := mul_lack_le
  rw [hlack, Nat.add_sub_cancel_left] at hlost
  have hunit := unit_eq_mul_thirtySecond
  have hless : n * lack ≤ 2 ^ 32 * lack := Nat.mul_le_mul_right lack hn.le
  have hstart : (20 * k + 1) * unit ≤ 19 * n * unit := Nat.mul_le_mul_right unit hlow
  have hend : 19 * n * unit ≤ 20 * (k + 1) * unit := Nat.mul_le_mul_right unit hhigh
  have hcount : n * (19 * unit) = n * (20 * share + lack) := by rw [hlack]
  constructor
  · rw [hunit] at hstart hcount
    linarith
  · linarith [Nat.zero_le (n * lack)]

theorem fits_grid : Fits ((32 * k + 1) * thirtySecond) := by
  unfold thirtySecond
  exact Number.fits_mul_pow (by omega)

/-- The rounded product has the ceiling of the exact one. -/
theorem ceil_mul_share :
    Number.ceil (Number.ofNat n * Number.ofRatio false 95 100) = Number.ofNat (k + 1) := by
  have hunit := unit_pos
  have hthirty := unit_eq_mul_thirtySecond
  have hexact : n ≤ exactLimit := hn.le.trans (by decide)
  have hrank : k + 1 ≤ exactLimit := by
    unfold exactLimit at hexact ⊢
    omega
  obtain ⟨hbelow, habove⟩ := mul_share_bounds hn hlow hhigh
  have hproduct : n * unit * share = n * share * unit := Nat.mul_right_comm _ _ _
  have hround : roundUnits (n * unit * share) unit = roundUnits (n * share) 1 := by
    rw [hproduct]
    exact Nat.le_antisymm (Number.roundUnits_mono unit_pos Nat.one_pos (by omega))
      (Number.roundUnits_mono Nat.one_pos unit_pos (by omega))
  have hmin : (32 * k + 1) * thirtySecond ≤ roundUnits (n * share) 1 := by
    have hmono := Number.roundUnits_one_mono hbelow
    rwa [Number.roundUnits_one_of_fits (fits_grid hn hlow hhigh)] at hmono
  have hmax : roundUnits (n * share) 1 ≤ (k + 1) * unit := by
    have hmono := Number.roundUnits_one_mono habove
    rwa [Number.roundUnits_one_of_fits (Number.fits_mul_unit hrank)] at hmono
  have hrange : (roundUnits (n * share) 1).log2 < limitBits :=
    (Number.lt_ceiling_iff _).mp
      (hmax.trans_lt ((Number.lt_ceiling_iff _).mpr (Number.mul_unit_in_range hrank)))
  have hfinite : Number.ofNat n * Number.ofRatio false 95 100 =
      .finite false (roundUnits (n * share) 1) (Number.fits_roundUnits _ _) hrange := by
    rw [Number.ofNat_eq hexact, ofRatio_share, Number.finite_mul_finite]
    unfold Number.ofUnits
    simp only [hround, hrange, dif_pos]
    rfl
  rw [hfinite]
  refine Number.ceil_of_between _ _ ?_ hmax
  have hpos : 0 < thirtySecond := by omega
  calc k * unit = 32 * k * thirtySecond := by rw [hthirty]; ring
    _ < (32 * k + 1) * thirtySecond := Nat.mul_lt_mul_of_pos_right (Nat.lt_succ_self _) hpos
    _ ≤ roundUnits (n * share) 1 := hmin

theorem toInt?_computedRank : (computedRank n).toInt? = some (k : Int) := by
  have hrank : k + 1 ≤ exactLimit := by
    unfold exactLimit
    omega
  have hone : (1 : Number).toInt? = some ((1 : Nat) : Int) := by
    rw [Number.literal_eq]
    exact Number.toInt?_ofNat (by decide)
  have hdiff : ((k + 1 : Nat) : Int) - (1 : Nat) = k := by omega
  rw [computedRank, ceil_mul_share hn hlow hhigh,
    Number.toInt?_sub (Number.toInt?_ofNat hrank) hone (by rw [hdiff]; omega), hdiff]

theorem rank95_of_bounds : rank95 n = k := by
  rw [rank95_eq, toInt?_computedRank hn hlow hhigh, Option.getD_some, Int.toNat_natCast]
  omega

end Rank

section Selection

/-- In an ascending list the values up to the one at a place are more than the place says, and the
values below it are no more. -/
theorem counts_of_pairwise_le {sorted : List Int} (h : sorted.Pairwise (· ≤ ·)) {i : Nat}
    (hi : i < sorted.length) :
    i < sorted.countP (· ≤ sorted[i]) ∧ sorted.countP (· < sorted[i]) ≤ i := by
  have hle := List.pairwise_iff_getElem.mp h
  constructor
  · have hall : ∀ x ∈ sorted.take (i + 1), decide (x ≤ sorted[i]) = true := by
      intro x hx
      obtain ⟨j, hj, rfl⟩ := List.mem_iff_getElem.mp hx
      rw [List.length_take] at hj
      rw [List.getElem_take, decide_eq_true_eq]
      rcases Nat.lt_or_eq_of_le (by omega : j ≤ i) with hlt | rfl
      · exact hle j i _ hi hlt
      · exact le_rfl
    have hcount := List.countP_eq_length.mpr hall
    have hsub := (List.take_sublist (i + 1) sorted).countP_le (p := fun x => decide (x ≤ sorted[i]))
    rw [List.length_take] at hcount
    omega
  · have hnone : ∀ x ∈ sorted.drop i, ¬ decide (x < sorted[i]) = true := by
      intro x hx
      obtain ⟨j, hj, rfl⟩ := List.mem_iff_getElem.mp hx
      rw [List.length_drop] at hj
      rw [List.getElem_drop, decide_eq_true_eq, not_lt]
      rcases Nat.eq_zero_or_pos j with rfl | hpos
      · exact le_rfl
      · exact hle i (i + j) hi (by omega) (by omega)
    have hcount : sorted.countP (fun x => decide (x < sorted[i])) =
        (sorted.take i).countP (fun x => decide (x < sorted[i])) +
          (sorted.drop i).countP fun x => decide (x < sorted[i]) := by
      rw [← List.countP_append, List.take_append_drop]
    have hfront := List.countP_le_length (p := fun x => decide (x < sorted[i])) (l := sorted.take i)
    rw [List.countP_eq_zero.mpr hnone] at hcount
    rw [List.length_take] at hfront
    omega

variable {values others : List Number} (h : ∀ v ∈ values, v.isNaN = false)
include h

theorem ascending_eq : ascending values = values.mergeSort fun a b => !b.lt a := by
  have hany : values.any (·.isNaN) = false := List.any_eq_false.mpr fun v hv => by simp [h v hv]
  rw [ascending, hany, if_neg Bool.false_ne_true]

theorem perm_ascending : (ascending values).Perm values := by
  rw [ascending_eq h]
  exact List.mergeSort_perm _ _

/-- Sorting numbers is sorting their places. -/
theorem map_place_ascending :
    (ascending values).map Number.place = (values.map Number.place).mergeSort (· ≤ ·) := by
  rw [ascending_eq h]
  refine List.map_mergeSort fun a ha b hb => ?_
  rw [Bool.eq_iff_iff, Bool.not_eq_true', Number.not_lt_iff (h b hb) (h a ha), Number.le_iff,
    decide_eq_true_eq]
  simp [h a ha, h b hb]

theorem countP_le_eq {v : Number} (hv : v.isNaN = false) :
    values.countP (·.le v) = (values.map Number.place).countP (· ≤ v.place) := by
  rw [List.countP_map]
  refine List.countP_congr fun a ha => ?_
  simp [Number.le_iff, h a ha, hv]

theorem countP_lt_eq {v : Number} (hv : v.isNaN = false) :
    values.countP (·.lt v) = (values.map Number.place).countP (· < v.place) := by
  rw [List.countP_map]
  refine List.countP_congr fun a ha => ?_
  simp [Number.lt_iff, h a ha, hv]

/-- The percentile is a value of the list, and its place is the one at its rank among the places. -/
theorem percentile95_of_rank {r : Nat} (hr : r < values.length)
    (hrank : rank95 values.length = r) :
    percentile95 values ∈ values ∧
      ((values.map Number.place).mergeSort (· ≤ ·))[r]? = some (percentile95 values).place := by
  have hlength : r < (ascending values).length := by rwa [(perm_ascending h).length_eq]
  have hvalue : percentile95 values = (ascending values)[r] := by
    rw [percentile95, hrank, List.getElem?_eq_getElem hlength, Option.getD_some]
  refine ⟨?_, ?_⟩
  · rw [hvalue]
    exact (perm_ascending h).mem_iff.mp (List.getElem_mem hlength)
  · rw [← map_place_ascending h, List.getElem?_map, List.getElem?_eq_getElem hlength, hvalue]
    rfl

/-- Values in another order have the same percentile, up to the sign of zero. -/
theorem percentile95_perm (hperm : values.Perm others) {r : Nat} (hr : r < values.length)
    (hrank : rank95 values.length = r) : (percentile95 values).eq (percentile95 others) = true := by
  have hother : ∀ v ∈ others, v.isNaN = false := fun v hv => h v (hperm.mem_iff.mpr hv)
  rw [hperm.length_eq] at hrank
  obtain ⟨hmem, hplace⟩ := percentile95_of_rank h hr (hperm.length_eq ▸ hrank)
  obtain ⟨hmem', hplace'⟩ := percentile95_of_rank hother (hperm.length_eq ▸ hr) hrank
  have hsorted : (values.map Number.place).mergeSort (· ≤ ·) =
      (others.map Number.place).mergeSort (· ≤ ·) :=
    List.Perm.eq_of_pairwise' (r := (· ≤ ·)) (List.pairwise_mergeSort' _ _)
      (List.pairwise_mergeSort' _ _)
      ((List.mergeSort_perm _ _).trans ((hperm.map _).trans (List.mergeSort_perm _ _).symm))
  rw [hsorted, hplace', Option.some.injEq] at hplace
  have hnan := h _ hmem
  have hnan' := hother _ hmem'
  rw [Number.eq, Bool.and_eq_true, Number.le_iff, Number.le_iff]
  exact ⟨⟨hnan, hnan', hplace.ge⟩, hnan', hnan, hplace.le⟩

end Selection

/-- The percentile of up to `2 ^ 32 - 1` finite values is a value of the list. At least nineteen
twentieths of the values are not above it and less than nineteen twentieths are below it, and
values in another order have the same percentile, up to the sign of zero. The rank that is computed
with rounded numbers is the exact one, which lies within the list. -/
theorem percentile95_is_nearest_rank (values : List Number) (hne : values ≠ [])
    (hlength : values.length ≤ 2 ^ 32 - 1) (hfinite : ∀ v ∈ values, v.isFinite = true) :
    let n := values.length
    let v := percentile95 values
    v ∈ values ∧ 19 * n ≤ 20 * values.countP (·.le v) ∧ 20 * values.countP (·.lt v) < 19 * n ∧
      (∀ others, values.Perm others → v.eq (percentile95 others) = true) ∧
      (computedRank n).toInt? = some ((19 * n ⌈/⌉ 20 : Nat) - 1 : Int) ∧
      1 ≤ 19 * n ⌈/⌉ 20 ∧ 19 * n ⌈/⌉ 20 ≤ n := by
  intro n v
  have hpos : 0 < n := List.length_pos_iff.mpr hne
  have hn : n < 2 ^ 32 := by omega
  have hnan : ∀ v ∈ values, v.isNaN = false := fun v hv => Number.isNaN_of_isFinite (hfinite v hv)
  have hceil := Nat.ceilDiv_eq_add_pred_div (19 * n) 20
  obtain ⟨k, hk⟩ : ∃ k, 19 * n ⌈/⌉ 20 = k + 1 := ⟨19 * n ⌈/⌉ 20 - 1, by omega⟩
  have hlow : 20 * k < 19 * n := by omega
  have hhigh : 19 * n ≤ 20 * (k + 1) := by omega
  have hr : k < values.length := by omega
  have hrank : rank95 values.length = k := rank95_of_bounds hn hlow hhigh
  obtain ⟨hmem, hplace⟩ := percentile95_of_rank hnan hr hrank
  obtain ⟨hi, hget⟩ := List.getElem?_eq_some_iff.mp hplace
  have hcounts := counts_of_pairwise_le
    (List.pairwise_mergeSort' (· ≤ ·) (values.map Number.place)) hi
  rw [hget, (List.mergeSort_perm _ _).countP_eq, (List.mergeSort_perm _ _).countP_eq,
    ← countP_le_eq hnan (hnan v hmem), ← countP_lt_eq hnan (hnan v hmem)] at hcounts
  refine ⟨hmem, ?_, ?_, fun others hperm => percentile95_perm hnan hperm hr hrank, ?_, ?_, ?_⟩
  · omega
  · omega
  · rw [toInt?_computedRank hn hlow hhigh, hk]
    simp
  · omega
  · omega

/-- Twenty durations, where the exact rank is a whole number and its value stands there twice. -/
def twentyDurations : List Number := [250, 90] ++ List.replicate 17 40 ++ [90]

theorem percentile95_of_twenty :
    twentyDurations ≠ [] ∧ twentyDurations.length ≤ 2 ^ 32 - 1 ∧
      (∀ v ∈ twentyDurations, v.isFinite = true) ∧
      percentile95 twentyDurations = 90 ∧ (90 : Number) ∈ twentyDurations ∧
      19 * 20 ≤ 20 * twentyDurations.countP (·.le 90) ∧
      20 * twentyDurations.countP (·.lt 90) < 19 * 20 ∧
      Number.eq 90 (percentile95 twentyDurations.reverse) = true ∧
      (computedRank 20).toInt? = some 18 := by
  have hne : twentyDurations ≠ [] := List.cons_ne_nil _ _
  have hlength : twentyDurations.length = 20 := rfl
  have hfinite : ∀ v ∈ twentyDurations, v.isFinite = true :=
    List.all_eq_true.mp (by decide +kernel)
  obtain ⟨hmem, hle, hlt, hperm, hrank, -⟩ :=
    percentile95_is_nearest_rank twentyDurations hne (by rw [hlength]; decide) hfinite
  -- The law decides the value: too few are up to 40, and too many are below 250.
  have hvalue : percentile95 twentyDurations = 90 := by
    have hcases : ∀ v ∈ twentyDurations, v = 250 ∨ v = 90 ∨ v = 40 := by
      simp [twentyDurations]
    rcases hcases _ hmem with hv | hv | hv
    · rw [hv] at hlt
      exact absurd hlt (by decide +kernel)
    · exact hv
    · rw [hv] at hle
      exact absurd hle (by decide +kernel)
  rw [hvalue] at hmem hle hlt hperm
  exact ⟨hne, by rw [hlength]; decide, hfinite, hvalue, hmem, hle, hlt,
    hperm _ (List.reverse_perm _).symm, hrank⟩

end Telemetry.Alert
