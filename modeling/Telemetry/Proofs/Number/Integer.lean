import Telemetry.Proofs.Number.Whole

/-! # Whole numbers with a sign

Whole numbers add up exactly as long as every sum on the way is within the limit up to which all
integers are numbers.
-/
namespace Telemetry.Number

variable {a b : Number} {x y : Int}

theorem signed_mul (s : Bool) (m n : Nat) : signed s (m * n) = signed s m * n := by
  cases s <;> simp [signed]

theorem signed_natAbs (x : Int) (s : Bool) :
    signed (if x = 0 then s else decide (x < 0)) x.natAbs = x := by
  by_cases hzero : x = 0
  · subst hzero
    simp
  · by_cases hneg : x < 0
    · simp only [signed, hzero, hneg, decide_true, if_true, if_false]
      omega
    · simp only [signed, hzero, hneg, decide_false, Bool.false_eq_true, if_false]
      omega

theorem exists_of_toInt? (h : a.toInt? = some x) :
    ∃ s n hf hb, a = finite s (n * unit) hf hb ∧ x = signed s n := by
  cases a with
  | nan => cases h
  | infinity s => cases h
  | finite s u hf hb =>
    simp only [toInt?, Option.ite_none_right_eq_some, Option.some.injEq] at h
    obtain ⟨hwhole, rfl⟩ := h
    have hu : u / unit * unit = u := Nat.div_mul_cancel (Nat.dvd_of_mod_eq_zero hwhole)
    exact ⟨s, u / unit, hu.symm ▸ hf, hu.symm ▸ hb, by simp only [hu], rfl⟩

theorem toInt?_ofNat {n : Nat} (h : n ≤ exactLimit) : (ofNat n).toInt? = some (n : Int) := by
  rw [ofNat_eq h, toInt?_finite_mul_unit]
  rfl

/-- The sum of two whole numbers is exact if it is small enough. -/
theorem toInt?_add (ha : a.toInt? = some x) (hb : b.toInt? = some y)
    (h : (x + y).natAbs ≤ exactLimit) : (a + b).toInt? = some (x + y) := by
  obtain ⟨s, m, hf, hl, rfl, rfl⟩ := exists_of_toInt? ha
  obtain ⟨t, n, hg, hm, rfl, rfl⟩ := exists_of_toInt? hb
  have hunit : (0 : Int) < unit := Int.natCast_pos.mpr unit_pos
  have hsum : signed s (m * unit) + signed t (n * unit) = (signed s m + signed t n) * unit := by
    rw [signed_mul, signed_mul, Int.add_mul]
  generalize signed s m + signed t n = z at hsum h
  have hzero : z * unit = 0 ↔ z = 0 := mul_eq_zero_iff_right hunit.ne'
  have hneg : z * unit < 0 * unit ↔ z < 0 := mul_lt_mul_iff_of_pos_right hunit
  rw [Int.zero_mul] at hneg
  have hexact := ofUnits_of_fits (if z = 0 then s && t else decide (z < 0)) Nat.one_pos
    (fits_mul_unit h) (mul_unit_in_range h)
  rw [Nat.mul_one] at hexact
  rw [finite_add_finite, hsum, Int.natAbs_mul, Int.natAbs_natCast]
  simp only [hzero, hneg]
  rw [hexact, toInt?_finite_mul_unit, signed_natAbs]

theorem toInt?_neg (h : a.toInt? = some x) : a.neg.toInt? = some (-x) := by
  obtain ⟨s, n, hf, hl, rfl, rfl⟩ := exists_of_toInt? h
  rw [neg, toInt?_finite_mul_unit]
  cases s <;> simp [signed]

theorem toInt?_sub (ha : a.toInt? = some x) (hb : b.toInt? = some y)
    (h : (x - y).natAbs ≤ exactLimit) : (a - b).toInt? = some (x - y) :=
  toInt?_add ha (toInt?_neg hb) h

theorem lt_iff_of_toInt? (ha : a.toInt? = some x) (hb : b.toInt? = some y) :
    a.lt b = true ↔ x < y := by
  obtain ⟨s, m, hf, hl, rfl, rfl⟩ := exists_of_toInt? ha
  obtain ⟨t, n, hg, hm, rfl, rfl⟩ := exists_of_toInt? hb
  have hunit : (0 : Int) < unit := Int.natCast_pos.mpr unit_pos
  rw [lt_iff, place, place, signed_mul, signed_mul, mul_lt_mul_iff_of_pos_right hunit]
  simp

/-- The larger of two whole numbers, also of two zeros. -/
theorem toInt?_maximum (ha : a.toInt? = some x) (hb : b.toInt? = some y) :
    (maximum a b).toInt? = some (max x y) := by
  have hnan : ∀ {c : Number} {z : Int}, c.toInt? = some z → c.isNaN = false := by
    intro c z hc
    cases c with
    | nan => cases hc
    | infinity s => rfl
    | finite s u hf hl => rfl
  have hlt := lt_iff_of_toInt? ha hb
  have hgt := lt_iff_of_toInt? hb ha
  rw [maximum, hnan ha, hnan hb, Bool.or_self, if_neg Bool.false_ne_true]
  split
  · rename_i h
    rw [hb, max_eq_right (hlt.mp h).le]
  · rename_i hnot
    rw [hlt, not_lt] at hnot
    split
    · rw [ha, max_eq_left hnot]
    · rename_i hequal
      rw [hgt, not_lt] at hequal
      obtain rfl : x = y := Int.le_antisymm hequal hnot
      rw [max_self]
      split
      · exact hb
      · exact ha

theorem toInt?_floor (h : a.toInt? = some x) : a.floor.toInt? = some x := by
  obtain ⟨s, n, hf, hl, rfl, rfl⟩ := exists_of_toInt? h
  have hunit := unit_pos
  have hwhole : (if s then (n * unit + (unit - 1)) / unit else n * unit / unit) = n := by
    have hup : (n * unit + (unit - 1)) / unit = n := by
      rw [Nat.add_comm, Nat.add_mul_div_right _ _ hunit, Nat.div_eq_of_lt (by omega), Nat.zero_add]
    rw [hup, Nat.mul_div_cancel n hunit, ite_self]
  have hexact := ofUnits_of_fits s Nat.one_pos hf hl
  rw [Nat.mul_one] at hexact
  rw [floor, mapWhole, hwhole, ofRatio_def, hexact, toInt?_finite_mul_unit]

/-- What lies behind a whole number and not beyond the next one is rounded up to the next one. -/
theorem ceil_of_between {u k : Nat} (hf : Fits u) (hb : u.log2 < limitBits)
    (hlow : k * unit < u) (hhigh : u ≤ (k + 1) * unit) : (finite false u hf hb).ceil = ofNat (k + 1) := by
  have hunit := unit_pos
  have hquotient : (u + (unit - 1)) / unit = k + 1 := by
    rw [Nat.add_mul, Nat.one_mul] at hhigh
    refine Nat.div_eq_of_lt_le ?_ ?_ <;> simp only [Nat.add_mul, Nat.one_mul] <;> omega
  rw [ceil, mapWhole, if_neg Bool.false_ne_true, hquotient]
  rfl

end Telemetry.Number
