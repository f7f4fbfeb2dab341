import Telemetry.Proofs.Number.Order
import Telemetry.Number.Whole

/-! # Rounding is monotone and exact

Rounding to 53 significant bits keeps the order of fractions and leaves alone what already fits.
The sum, the difference and the quotient of numbers inherit both facts, and whole numbers of at
most 53 bits are added without error.
-/
namespace Telemetry.Number

theorem slack_mono {m n : Nat} (h : m ≤ n) : slack m ≤ slack n := by
  unfold slack
  have hl : m.log2 ≤ n.log2 := by
    by_cases hm : m = 0
    · simp [hm]
    · exact (Nat.le_log2 (by omega)).mpr ((Nat.log2_self_le hm).trans h)
  omega

theorem div_le_div_of_mul_le {a b c d : Nat} (hb : 0 < b) (hd : 0 < d) (h : a * d ≤ c * b) :
    a / b ≤ c / d := by
  rw [Nat.le_div_iff_mul_le hd]
  refine Nat.le_of_mul_le_mul_right ?_ hb
  calc a / b * d * b = a / b * b * d := Nat.mul_right_comm _ _ _
    _ ≤ a * d := Nat.mul_le_mul_right d (Nat.div_mul_le_self a b)
    _ ≤ c * b := h

/-- The order of two fractions is kept by rounding both to whole numbers. -/
theorem nearestEven_mono {a b c d : Nat} (hb : 0 < b) (hd : 0 < d) (h : a * d ≤ c * b) :
    nearestEven a b ≤ nearestEven c d := by
  have hq : a / b ≤ c / d := div_le_div_of_mul_le hb hd h
  rcases Nat.lt_or_ge (a / b) (c / d) with hlt | hge
  · exact (nearestEven_le a b).trans (Nat.le_trans hlt (le_nearestEven c d))
  -- The whole parts agree, so the remainders decide.
  · have he : a / b = c / d := Nat.le_antisymm hq hge
    have hr : a % b * d ≤ c % d * b := by
      have ha := Nat.div_add_mod a b
      have hc := Nat.div_add_mod c d
      rw [← he] at hc
      nlinarith
    have hlow : 2 * (c % d) < d → 2 * (a % b) < b := by
      intro hc
      by_contra hn
      nlinarith
    have hhigh : b < 2 * (a % b) → d < 2 * (c % d) := by
      intro ha
      by_contra hn
      nlinarith
    unfold nearestEven
    dsimp only
    rw [← he]
    split
    · split
      · omega
      · split <;> omega
    · rename_i hna
      rw [if_neg fun hc => hna (hlow hc)]
      split
      · rename_i hb
        rw [if_pos (hhigh hb)]
      · split <;> omega

theorem roundUnits_le_pow (num den : Nat) : roundUnits num den ≤ 2 ^ (53 + slack (num / den)) := by
  have hq : num / (den * 2 ^ slack (num / den)) < 2 ^ 53 := by
    rw [← Nat.div_div_eq_div_mul]
    exact lt_two_pow_slack _
  have hm := nearestEven_le num (den * 2 ^ slack (num / den))
  unfold roundUnits
  dsimp only
  rw [Nat.pow_eq, Nat.pow_add]
  exact Nat.mul_le_mul_right _ (by omega)

theorem pow_le_roundUnits {num den : Nat} (hs : 0 < slack (num / den)) :
    2 ^ (52 + slack (num / den)) ≤ roundUnits num den := by
  have hn : num / den ≠ 0 := by
    intro h
    rw [h] at hs
    exact absurd hs (by decide)
  have hl : 52 + slack (num / den) = (num / den).log2 := by
    unfold slack at hs ⊢
    omega
  have hq : 2 ^ 52 ≤ num / (den * 2 ^ slack (num / den)) := by
    rw [← Nat.div_div_eq_div_mul, Nat.le_div_iff_mul_le (Nat.two_pow_pos _), ← Nat.pow_add, hl]
    exact Nat.log2_self_le hn
  have hm := le_nearestEven num (den * 2 ^ slack (num / den))
  unfold roundUnits
  dsimp only
  rw [Nat.pow_eq, Nat.pow_add]
  exact Nat.mul_le_mul_right _ (hq.trans hm)

theorem roundUnits_mono {a b c d : Nat} (hb : 0 < b) (hd : 0 < d) (h : a * d ≤ c * b) :
    roundUnits a b ≤ roundUnits c d := by
  have hq : a / b ≤ c / d := div_le_div_of_mul_le hb hd h
  rcases Nat.eq_or_lt_of_le (slack_mono hq) with hs | hs
  · unfold roundUnits
    dsimp only
    rw [hs]
    refine Nat.mul_le_mul_right _ (nearestEven_mono ?_ ?_ ?_)
    · exact Nat.mul_pos hb (Nat.two_pow_pos _)
    · exact Nat.mul_pos hd (Nat.two_pow_pos _)
    · rw [← Nat.mul_assoc, ← Nat.mul_assoc]
      exact Nat.mul_le_mul_right _ h
  -- A coarser grid begins where the finer one ends.
  · calc roundUnits a b ≤ 2 ^ (53 + slack (a / b)) := roundUnits_le_pow a b
      _ ≤ 2 ^ (52 + slack (c / d)) := Nat.pow_le_pow_right (by decide) (by omega)
      _ ≤ roundUnits c d := pow_le_roundUnits (by omega)

/-- What fits is its own rounding. -/
theorem roundUnits_of_fits {n den : Nat} (hd : 0 < den) (h : Fits n) :
    roundUnits (n * den) den = n := by
  obtain ⟨k, hk⟩ := h
  have hq : n * den / den = n := Nat.mul_div_cancel n hd
  have hp : 0 < den * Nat.pow 2 (slack n) := Nat.mul_pos hd (Nat.two_pow_pos _)
  have he : n * den = k * (den * Nat.pow 2 (slack n)) := by
    conv_lhs => rw [hk]
    ring
  have hn : nearestEven (n * den) (den * Nat.pow 2 (slack n)) = k := by
    unfold nearestEven
    dsimp only
    rw [he, Nat.mul_div_cancel k hp, Nat.mul_mod_left]
    exact if_pos (by omega)
  unfold roundUnits
  dsimp only
  rw [hq, hn, Nat.mul_comm]
  exact hk.symm

end Telemetry.Number
