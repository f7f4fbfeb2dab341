import Mathlib.Algebra.Order.Round
import Mathlib.Data.Rat.Floor
import Mathlib.Tactic.FieldSimp
import Telemetry.Proofs.Number.Order

/-! # Exact values

A finite number stands for a rational, and numbers compare as their rationals do. A rational is
rounded to a whole number without loss of order, a tie away from zero.
-/
namespace Telemetry.Number

attribute [local irreducible] unit

section Values

/-- The exact value of a finite number. -/
def value (x : Number) : ℚ := x.toUnits / unit

theorem unit_cast_pos : (0 : ℚ) < unit := Nat.cast_pos.mpr unit_pos

variable {x y : Number}

theorem toUnits_eq_place (h : x.isFinite = true) : x.toUnits = x.place := by
  cases x with
  | nan => cases h
  | infinity s => cases h
  | finite s u hf hb => rfl

theorem le_iff_value (hx : x.isFinite = true) (hy : y.isFinite = true) :
    x.le y = true ↔ x.value ≤ y.value := by
  have hnan : ∀ z : Number, z.isFinite = true → z.isNaN = false := by
    intro z hz
    cases z <;> first | rfl | cases hz
  rw [le_iff, value, value, div_le_div_iff_of_pos_right unit_cast_pos, Int.cast_le,
    toUnits_eq_place hx, toUnits_eq_place hy]
  exact ⟨fun h => h.2.2, fun h => ⟨hnan x hx, hnan y hy, h⟩⟩

theorem abs_signed (s : Bool) (n : Nat) : |(signed s n : ℚ)| = n := by
  cases s with
  | false => simp [signed]
  | true => simp [signed]

theorem abs_value_lt_iff (s : Bool) {u n : Nat} (hf : Fits u) (hb : u.log2 < limitBits) :
    |(finite s u hf hb).value| < n ↔ u < n * unit := by
  rw [value, toUnits, abs_div, abs_signed, abs_of_pos unit_cast_pos, div_lt_iff₀ unit_cast_pos,
    ← Nat.cast_mul, Nat.cast_lt]

end Values

section Rounding

/-- The nearest whole number, a tie away from zero. -/
def roundAway (q : ℚ) : ℤ := if q < 0 then -round (-q) else round q

theorem roundAway_neg (q : ℚ) : roundAway (-q) = -roundAway q := by
  unfold roundAway
  rcases lt_trichotomy q 0 with h | rfl | h
  · rw [if_pos h, if_neg (by linarith), neg_neg]
  · simp
  · rw [if_pos (by linarith), if_neg (by linarith), neg_neg]

theorem abs_roundAway_sub_le (q : ℚ) : |(roundAway q : ℚ) - q| ≤ 1 / 2 := by
  unfold roundAway
  split
  · have hsame : ((-round (-q) : ℤ) : ℚ) - q = -q - round (-q) := by
      push_cast
      ring
    rw [hsame]
    exact abs_sub_round (-q)
  · rw [abs_sub_comm]
    exact abs_sub_round q

theorem round_mono {p q : ℚ} (h : p ≤ q) : round p ≤ round q := by
  rw [round_eq, round_eq]
  exact Int.floor_le_floor (by linarith)

theorem roundAway_nonneg {q : ℚ} (h : 0 ≤ q) : 0 ≤ roundAway q := by
  rw [roundAway, if_neg (not_lt.mpr h), ← round_zero (α := ℚ)]
  exact round_mono h

theorem roundAway_mono {p q : ℚ} (h : p ≤ q) : roundAway p ≤ roundAway q := by
  rcases lt_or_ge q 0 with hq | hq
  · rw [roundAway, roundAway, if_pos hq, if_pos (h.trans_lt hq)]
    exact neg_le_neg (round_mono (by linarith))
  · rcases lt_or_ge p 0 with hp | hp
    · have hlow := roundAway_nonneg (q := -p) (by linarith)
      rw [roundAway_neg] at hlow
      have hhigh := roundAway_nonneg hq
      omega
    · rw [roundAway, roundAway, if_neg (not_lt.mpr hp), if_neg (not_lt.mpr hq)]
      exact round_mono h

/-- Rounding a fraction up at a tie is rounding it away from zero. -/
theorem roundAway_div (num : Nat) {den : Nat} (h : 0 < den) :
    roundAway ((num : ℚ) / den) = nearestUp num den := by
  have hden : (0 : ℚ) < den := Nat.cast_pos.mpr h
  have hfloor : (num : ℚ) / den + 1 / 2 = ((2 * num + den : Nat) : ℚ) / (2 * den : Nat) := by
    push_cast
    field_simp
  rw [roundAway, if_neg (not_lt.mpr (by positivity)), round_eq, hfloor,
    Rat.floor_natCast_div_natCast]
  rfl

/-- A magnitude with decimals behind it, rounded. -/
theorem roundAway_value (s : Bool) {u : Nat} (hf : Fits u) (hb : u.log2 < limitBits) (p : Nat) :
    roundAway ((finite s u hf hb).value * p) = signed s (nearestUp (u * p) unit) := by
  have hmagnitude : roundAway ((u : ℚ) / unit * p) = nearestUp (u * p) unit := by
    rw [← roundAway_div _ unit_pos, Nat.cast_mul, div_mul_eq_mul_div]
  cases s with
  | false => simpa [value, toUnits, signed] using hmagnitude
  | true => simpa [value, toUnits, signed, neg_div, neg_mul, roundAway_neg] using hmagnitude

end Rounding

end Telemetry.Number
