import Telemetry.Proofs.Number.Numeral

/-! # What the general text of a whole number says

The text of a whole number of at most 53 bits is its digits. Beyond that it is the shortest
decimal that rounds to the number, which is at least half of it.
-/
namespace Telemetry.Number

attribute [local irreducible] unit unitBits

theorem slack_pow_le {units : Nat} (h : 0 < units) : Nat.pow 2 (slack units) ≤ units := by
  have hl := Nat.pow_le_pow_right (by decide : 0 < 2) (Nat.sub_le units.log2 52)
  exact Nat.le_trans hl (Nat.log2_self_le (Nat.pos_iff_ne_zero.mp h))

theorem two_mul_le_low {units : Nat} (h : 0 < units) : 2 * units ≤ (reach units).low := by
  have hs := slack_pow_le h
  unfold reach
  dsimp only
  split <;> omega

theorem high_le_six_mul {units : Nat} (h : 0 < units) : (reach units).high ≤ 6 * units := by
  have hs := slack_pow_le h
  unfold reach
  dsimp only
  omega

theorem Reach.low_le {r : Reach} {num den : Nat} (h : r.holds num den = true) :
    r.low * den ≤ num := by
  unfold Reach.holds at h
  split at h
  · simp only [Bool.and_eq_true, decide_eq_true_eq] at h
    exact h.1
  · simp only [Bool.and_eq_true, decide_eq_true_eq] at h
    exact h.1.le

theorem Reach.le_high {r : Reach} {num den : Nat} (h : r.holds num den = true) :
    num ≤ r.high * den := by
  unfold Reach.holds at h
  split at h
  · simp only [Bool.and_eq_true, decide_eq_true_eq] at h
    exact h.2
  · simp only [Bool.and_eq_true, decide_eq_true_eq] at h
    exact h.2.le

/-- A magnitude is in its own reach. -/
theorem holds_self {units den : Nat} (hu : 0 < units) (hd : 0 < den) :
    (reach units).holds (4 * units * den) den = true := by
  have hstep : 0 < Nat.pow 2 (slack units) := Nat.two_pow_pos _
  have hlow : (reach units).low < 4 * units := by
    unfold reach
    dsimp only
    split <;> omega
  have hhigh : 4 * units < (reach units).high := by
    unfold reach
    dsimp only
    omega
  have hbelow := Nat.mul_lt_mul_of_pos_right hlow hd
  have habove := Nat.mul_lt_mul_of_pos_right hhigh hd
  unfold Reach.holds
  split
  · simp only [Bool.and_eq_true, decide_eq_true_eq]
    exact ⟨hbelow.le, habove.le⟩
  · simp only [Bool.and_eq_true, decide_eq_true_eq]
    exact ⟨hbelow, habove⟩

/-- A decimal that rounds to a magnitude. -/
def ReadsAs (units : Nat) (d : Decimal) : Prop :=
  (reach units).holds (4 * d.digits * unit * Nat.pow 10 d.exponent.toNat)
    (Nat.pow 10 (-d.exponent).toNat) = true

theorem readsAs_onGrid? {units : Nat} {exponent : Int} {d : Decimal}
    (h : onGrid? units exponent = some d) : ReadsAs units d := by
  unfold onGrid? at h
  dsimp only at h
  generalize hb : units * Nat.pow 10 (-exponent).toNat / (unit * Nat.pow 10 exponent.toNat) =
    below at h
  have hlow := le_nearestEven (units * Nat.pow 10 (-exponent).toNat)
    (unit * Nat.pow 10 exponent.toNat)
  have hhigh := nearestEven_le (units * Nat.pow 10 (-exponent).toNat)
    (unit * Nat.pow 10 exponent.toNat)
  rw [hb] at hlow hhigh
  split at h
  · rename_i hboth
    obtain ⟨hfirst, hsecond⟩ := Bool.and_eq_true_iff.mp hboth
    cases h
    -- The nearer of the two neighbours is one of them.
    rcases Nat.eq_or_lt_of_le hlow with he | hlt
    · rw [← he]
      exact hfirst
    · rw [Nat.le_antisymm hhigh hlt]
      exact hsecond
  · split at h
    · rename_i hfirst
      cases h
      exact hfirst
    · split at h
      · rename_i hsecond
        cases h
        exact hsecond
      · cases h

/-- The exact expansion: a unit has as many decimals as it has bits. -/
theorem readsAs_expansion {units : Nat} (hu : 0 < units) {bits : Nat} (h : unit = 2 ^ bits) :
    ReadsAs units ⟨units * Nat.pow 5 bits, -(bits : Int)⟩ := by
  have he : (-(-(bits : Int))).toNat = bits := by omega
  have hz : (-(bits : Int)).toNat = 0 := by omega
  have hvalue : 4 * (units * 5 ^ bits) * 2 ^ bits * 10 ^ 0 = 4 * units * 10 ^ bits := by
    have hp : 10 ^ bits = 5 ^ bits * 2 ^ bits := by rw [← Nat.mul_pow]
    rw [hp]
    ring
  unfold ReadsAs
  dsimp only
  rw [he, hz, Nat.pow_eq, Nat.pow_eq, Nat.pow_eq, h, hvalue]
  exact holds_self hu (by positivity)

theorem coarsest_zero (units : Nat) (exponent : Int) :
    coarsest units 0 exponent = ⟨units * Nat.pow 5 unitBits, -(unitBits : Int)⟩ := by
  unfold coarsest unitBits
  have he : (-1074 : Int) = -((1074 : Nat) : Int) := rfl
  generalize 1074 = bits at he ⊢
  exact he ▸ rfl

theorem readsAs_coarsest {units : Nat} (hu : 0 < units) (fuel : Nat) (exponent : Int) :
    ReadsAs units (coarsest units fuel exponent) := by
  induction fuel generalizing exponent with
  | zero =>
    rw [coarsest_zero]
    exact readsAs_expansion hu unit_eq
  | succ fuel ih =>
    rw [coarsest]
    cases h : onGrid? units exponent with
    | none => exact ih (exponent - 1)
    | some d => exact readsAs_onGrid? h

theorem readsAs_shortest {units : Nat} (hu : 0 < units) : ReadsAs units (shortest units) :=
  readsAs_coarsest hu _ _

/-- A decimal that is at least half of a magnitude. -/
def HalfOf (units : Nat) (d : Decimal) : Prop :=
  units * 10 ^ (-d.exponent).toNat ≤ 2 * d.digits * unit * 10 ^ d.exponent.toNat

theorem halfOf_shortest {units : Nat} (hu : 0 < units) : HalfOf units (shortest units) := by
  have hlow := Reach.low_le (readsAs_shortest hu)
  generalize shortest units = d at hlow
  have htwo := Nat.mul_le_mul_right (Nat.pow 10 (-d.exponent).toNat) (two_mul_le_low hu)
  rw [Nat.pow_eq, Nat.pow_eq] at hlow
  rw [Nat.pow_eq] at htwo
  unfold HalfOf
  nlinarith

theorem shortest_le_twice {units : Nat} (hu : 0 < units) :
    (shortest units).digits * 10 ^ (shortest units).exponent.toNat * unit ≤
      2 * units * 10 ^ (-(shortest units).exponent).toNat := by
  have hhigh := Reach.le_high (readsAs_shortest hu)
  generalize shortest units = d at hhigh
  have hsix := Nat.mul_le_mul_right (Nat.pow 10 (-d.exponent).toNat) (high_le_six_mul hu)
  rw [Nat.pow_eq, Nat.pow_eq] at hhigh
  rw [Nat.pow_eq] at hsix
  nlinarith [Nat.zero_le (units * 10 ^ (-d.exponent).toNat)]

/-- A decimal that is at least half of ten is not read as less than five. -/
theorem five_le_ofDecimal {units : Nat} {d : Decimal} (h : HalfOf units d)
    (hu : 10 * unit ≤ units) :
    0 < d.digits ∧ Number.le (ofNat 5) (ofDecimal false d.digits d.exponent) = true := by
  obtain ⟨n, e⟩ := d
  unfold HalfOf at h
  dsimp only at h ⊢
  have hunit := unit_pos
  have hdown : 0 < 10 ^ (-e).toNat := by positivity
  have hvalue : 5 * 10 ^ (-e).toNat ≤ n * 10 ^ e.toNat := by
    have hm := (Nat.mul_le_mul_right (10 ^ (-e).toNat) hu).trans h
    refine Nat.le_of_mul_le_mul_right (?_ : _ * (2 * unit) ≤ _ * (2 * unit)) (by omega)
    calc 5 * 10 ^ (-e).toNat * (2 * unit) = 10 * unit * 10 ^ (-e).toNat := by ring
      _ ≤ 2 * n * unit * 10 ^ e.toNat := hm
      _ = n * 10 ^ e.toNat * (2 * unit) := by ring
  have hn : 0 < n := by
    rcases Nat.eq_zero_or_pos n with rfl | hn
    · omega
    · exact hn
  refine ⟨hn, ?_⟩
  have hfive : (5 : Nat) ≤ exactLimit := by decide
  -- The point is right of the first digit, since the value is above one.
  have hpoint : 0 < ((Nat.toDigits 10 n).length : Int) + e := by
    by_contra hneg
    have hlt := lt_ten_pow_length n
    have he : e.toNat = 0 := by omega
    have hle := Nat.pow_le_pow_right (by decide : 0 < 10)
      (by omega : (Nat.toDigits 10 n).length ≤ (-e).toNat)
    rw [he] at hvalue
    omega
  rw [ofDecimal_eq false hn, if_neg (by omega)]
  split
  · exact le_infinity (isNaN_ofNat 5)
  · rw [Nat.pow_eq, Nat.pow_eq]
    exact ofRatio_le_ofRatio Nat.one_pos hdown (by rwa [Nat.mul_one])

theorem magnitudeText_mul_unit {n : Nat} (h : n < exactLimit) :
    magnitudeText (n * unit) = Nat.toDigits 10 n := by
  have hq : n * unit / unit = n := Nat.mul_div_cancel n unit_pos
  unfold magnitudeText
  rw [hq, if_pos ⟨Nat.mul_mod_left n unit, h⟩]

/-- Counts are written with their digits. -/
theorem toChars_ofNat {n : Nat} (h : n < exactLimit) : (ofNat n).toChars = Nat.toDigits 10 n := by
  rw [ofNat_eq h.le, toChars, magnitudeText_mul_unit h, Bool.false_and,
    if_neg Bool.false_ne_true, List.nil_append]

theorem length_toDigits_le {n : Nat} (h : n < exactLimit) : (Nat.toDigits 10 n).length ≤ 16 :=
  (Nat.length_toDigits_le_iff (by decide) (by decide)).mpr (h.trans (by decide))

/-- The text of a count is read back as the count. -/
theorem ofText_toText_ofNat {n : Nat} (h : n < exactLimit) :
    ofText (ofNat n).toText = ofNat n := by
  have hlen := length_toDigits_le h
  rw [toText, toChars_ofNat h]
  rcases Nat.eq_zero_or_pos n with rfl | hn
  · decide +kernel
  · have hlayout : (⟨n, 0⟩ : Decimal).layout = Nat.toDigits 10 n := by
      unfold Decimal.layout
      dsimp only
      rw [if_pos ⟨Int.le_refl 0, by omega⟩]
      simp
    have hread := ofText_layout ⟨n, 0⟩ hn
    dsimp only at hread
    rw [hlayout, ofDecimal_eq false hn, if_neg (by omega), if_neg (by omega)] at hread
    rw [hread, ofRatio_def, ofNat_def]
    simp

/-- The text of a large number is not read as a number below five. -/
theorem five_le_ofText_toText {units : Nat} (hf : Fits units) (hb : units.log2 < limitBits)
    (h : exactLimit * unit ≤ units) :
    Number.le (ofNat 5) (ofText (finite false units hf hb).toText) = true := by
  have hone := unit_pos
  have hten : 10 * unit ≤ units := (Nat.mul_le_mul_right unit (by decide)).trans h
  have hlarge : ¬ (units % unit = 0 ∧ units / unit < Nat.pow 2 53) := by
    rintro ⟨-, hlt⟩
    exact absurd hlt (Nat.not_lt.mpr ((Nat.le_div_iff_mul_le hone).mpr h))
  obtain ⟨hd, hle⟩ := five_le_ofDecimal (halfOf_shortest (by omega)) hten
  rw [toText, toChars, magnitudeText, if_neg hlarge, Bool.false_and, if_neg Bool.false_ne_true,
    List.nil_append, ofText_layout _ hd]
  exact hle

theorem pos_digits_of_halfOf {units : Nat} {d : Decimal} (h : HalfOf units d) (hu : 0 < units) :
    0 < d.digits := by
  have hdown : 0 < 10 ^ (-d.exponent).toNat := by positivity
  rcases Nat.eq_zero_or_pos d.digits with hz | hpos
  · rw [HalfOf, hz] at h
    have hleft := Nat.mul_pos hu hdown
    omega
  · exact hpos

/-- The point of a decimal text stays left of where exponents begin if the magnitude is small
enough. -/
theorem point_shortest_le {units : Nat} (hu : 0 < units) (h : units * 2 < 10 ^ 21 * unit) :
    ((Nat.toDigits 10 (shortest units).digits).length : Int) + (shortest units).exponent ≤ 21 := by
  have htwice := shortest_le_twice hu
  have hpos := pos_digits_of_halfOf (halfOf_shortest hu) hu
  generalize shortest units = d at htwice hpos
  have hdown : 0 < 10 ^ (-d.exponent).toNat := by positivity
  have hvalue : d.digits * 10 ^ d.exponent.toNat < 10 ^ (21 + (-d.exponent).toNat) := by
    refine Nat.lt_of_mul_lt_mul_right (a := unit) (htwice.trans_lt ?_)
    calc 2 * units * 10 ^ (-d.exponent).toNat
        = units * 2 * 10 ^ (-d.exponent).toNat := by ring
      _ < 10 ^ 21 * unit * 10 ^ (-d.exponent).toNat := Nat.mul_lt_mul_of_pos_right h hdown
      _ = 10 ^ (21 + (-d.exponent).toNat) * unit := by ring
  have hlength := (Nat.length_toDigits_le_iff (by decide : 1 < 10)
    (by omega : 0 < 21 + (-d.exponent).toNat)).mpr hvalue
  have hzeros : (Nat.toDigits 10 (d.digits * 10 ^ d.exponent.toNat)).length =
      (Nat.toDigits 10 d.digits).length + d.exponent.toNat := by
    rw [toDigits_mul_ten_pow hpos, List.length_append, List.length_replicate]
  omega

/-- The text of a whole number below `5 * 10 ^ 20` has no exponent with a plus. -/
theorem plus_not_mem_toChars {units : Nat} (hf : Fits units) (hb : units.log2 < limitBits)
    (h : units * 2 < 10 ^ 21 * unit) : '+' ∉ (finite false units hf hb).toChars := by
  intro hc
  rw [toChars, Bool.false_and, if_neg Bool.false_ne_true, List.nil_append, magnitudeText] at hc
  split at hc
  · exact absurd (isDigit_of_mem hc) (by decide)
  · rename_i hlarge
    have hu : 0 < units := by
      rcases Nat.eq_zero_or_pos units with rfl | hu
      · exact absurd ⟨Nat.zero_mod _, by rw [Nat.zero_div]; exact Nat.two_pow_pos 53⟩ hlarge
      · exact hu
    have hpoint := point_shortest_le hu h
    rcases mem_layout hc with hd | hd | hd | ⟨hd, -⟩ | ⟨-, hfar⟩
    · exact absurd hd (by decide)
    · exact absurd hd (by decide)
    · exact absurd hd (by decide)
    · exact absurd hd (by decide)
    · omega

end Telemetry.Number
