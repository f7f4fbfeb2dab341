import Telemetry.Proofs.Number.Shortest

/-! # The general text of a number is read back

What lies in the reach of a magnitude rounds to the magnitude, on its own grid, on the finer grid
below a power of two, and never on a coarser one. So the shortest decimal of a number is read as
that number, whatever its size.
-/
namespace Telemetry.Number

/-- The largest magnitudes and the smallest ones have points that decimals are read at. -/
theorem two_mul_ceiling_le : 2 * ceiling ≤ 10 ^ 309 * unit := by
  unfold ceiling unit
  decide +kernel

theorem two_mul_unit_le : 2 * unit ≤ 10 ^ 324 := by
  unfold unit
  decide +kernel

attribute [local irreducible] unit unitBits

section Rounding

/-- The whole number within a half of a fraction. At a half on either side it has to be even. -/
theorem nearestEven_eq {num den k : Nat} (hlow : 2 * (k * den) ≤ 2 * num + den)
    (hhigh : 2 * num ≤ 2 * (k * den) + den)
    (hodd : k % 2 = 1 → 2 * (k * den) < 2 * num + den ∧ 2 * num < 2 * (k * den) + den)
    (hd : 0 < den) : nearestEven num den = k := by
  have hsplit := Nat.div_add_mod num den
  have hrest := Nat.mod_lt num hd
  have hq : k = num / den ∨ k = num / den + 1 := by
    have hle : num / den ≤ k := by
      by_contra hgt
      have hstep : (k + 1) * den ≤ num / den * den := Nat.mul_le_mul_right _ (by omega)
      rw [Nat.add_mul, Nat.mul_comm (num / den)] at hstep
      omega
    have hge : k ≤ num / den + 1 := by
      by_contra hgt
      have hstep : (num / den + 2) * den ≤ k * den := Nat.mul_le_mul_right _ (by omega)
      rw [Nat.add_mul, Nat.mul_comm (num / den)] at hstep
      omega
    omega
  unfold nearestEven
  dsimp only
  generalize num / den = q at hsplit hq
  generalize num % den = r at hsplit hrest
  have hcomm := Nat.mul_comm den q
  rcases hq with rfl | rfl
  · split
    · rfl
    · split
      · omega
      · omega
  · rw [Nat.add_mul] at hlow hhigh hodd
    split
    · omega
    · split
      · rfl
      · omega

theorem eq_mul_of_fits {units : Nat} (hf : Fits units) :
    ∃ k, units = k * 2 ^ slack units ∧ k < 2 ^ 53 := by
  have hlt := lt_two_pow_slack units
  obtain ⟨k, hk⟩ := hf
  have hpow : 0 < Nat.pow 2 (slack units) := Nat.two_pow_pos _
  have hq : units / Nat.pow 2 (slack units) = k := Nat.div_eq_of_eq_mul_right hpow hk
  rw [hq] at hlt
  refine ⟨k, ?_, hlt⟩
  rw [Nat.mul_comm]
  exact hk

theorem four_mul_le_low (units : Nat) :
    4 * units ≤ (reach units).low + 2 * 2 ^ slack units := by
  unfold reach
  simp only [Nat.pow_eq]
  split <;> omega

theorem four_mul_le_low_of_narrow {units : Nat} (hs : 0 < slack units)
    (hpow : units = 2 ^ units.log2) : 4 * units ≤ (reach units).low + 2 ^ slack units := by
  have hnarrow : 0 < slack units ∧ units = Nat.pow 2 units.log2 := ⟨hs, hpow⟩
  unfold reach
  dsimp only
  rw [if_pos hnarrow, Nat.pow_eq]
  omega

/-- What rounds to a magnitude lies within half a step of its grid, and within a quarter of a step
below a power of two, where the grid gets finer. -/
theorem near_of_holds {units k num den : Nat} (hk : units = k * 2 ^ slack units)
    (h : (reach units).holds (4 * num) den = true) :
    let step := den * 2 ^ slack units
    2 * (k * step) ≤ 2 * num + step ∧ 2 * num ≤ 2 * (k * step) + step ∧
      (k % 2 = 1 → 2 * (k * step) < 2 * num + step ∧ 2 * num < 2 * (k * step) + step) ∧
      (0 < slack units → units = 2 ^ units.log2 → 4 * (k * step) ≤ 4 * num + step) := by
  intro step
  have hcells : 4 * units * den = 4 * (k * step) := by
    conv_lhs => rw [hk]
    ring
  have hlow := Reach.low_le h
  have hwide := Nat.mul_le_mul_right den (four_mul_le_low units)
  have hwidth : (2 * 2 ^ slack units) * den = 2 * step := by ring
  have hhigh : (reach units).high * den = 4 * (k * step) + 2 * step := by
    rw [← hcells, ← hwidth, ← Nat.add_mul]
    rfl
  rw [hcells, Nat.add_mul, hwidth] at hwide
  have hle := Reach.le_high h
  refine ⟨by omega, by omega, fun hodd => ?_, fun hs hpow => ?_⟩
  · have hq : units / 2 ^ slack units = k := by
      exact Nat.div_eq_of_eq_mul_left (Nat.two_pow_pos _) hk
    have hopen : ¬ (reach units).closed = true := by
      have hparity : ¬ units / Nat.pow 2 (slack units) % 2 = 0 := by
        rw [Nat.pow_eq, hq]
        omega
      simpa only [reach, decide_eq_true_eq] using hparity
    rw [Reach.holds, if_neg hopen, Bool.and_eq_true, decide_eq_true_eq, decide_eq_true_eq] at h
    omega
  · have hnarrow := Nat.mul_le_mul_right den (four_mul_le_low_of_narrow hs hpow)
    have hstep : 2 ^ slack units * den = step := Nat.mul_comm _ _
    rw [hcells, Nat.add_mul, hstep] at hnarrow
    omega

theorem pow_le_of_fits {units k : Nat} (hk : units = k * 2 ^ slack units)
    (hs : 0 < slack units) : 2 ^ 52 ≤ k := by
  have hpos : units ≠ 0 := by
    rintro rfl
    exact absurd hs (by decide)
  have hlog : units.log2 = 52 + slack units := by
    unfold slack at hs ⊢
    omega
  have hle := Nat.log2_self_le hpos
  rw [hlog, Nat.pow_add] at hle
  exact Nat.le_of_mul_le_mul_right (hle.trans hk.le) (Nat.two_pow_pos _)

/-- Just below a power of two the grid is twice as fine, and the power is its nearest point. -/
theorem roundUnits_of_near_pow {num den t : Nat} (hd : 0 < den)
    (hlow : 4 * (2 ^ 52 * (den * 2 ^ (t + 1))) ≤ 4 * num + den * 2 ^ (t + 1))
    (hhigh : num < 2 ^ 52 * (den * 2 ^ (t + 1))) :
    roundUnits num den = 2 ^ 52 * 2 ^ (t + 1) := by
  have hhalf : 0 < den * 2 ^ t := Nat.mul_pos hd (Nat.two_pow_pos t)
  have hstep : den * 2 ^ (t + 1) = 2 * (den * 2 ^ t) := by ring
  rw [hstep] at hlow hhigh
  have hs : slack (num / den) = t := by
    have hle : 2 ^ (52 + t) ≤ num / den := by
      rw [Nat.le_div_iff_mul_le hd]
      have hcell : 2 ^ (52 + t) * den = 2 ^ 52 * (den * 2 ^ t) := by ring
      omega
    have hlt : num / den < 2 ^ (52 + t + 1) := by
      rw [Nat.div_lt_iff_lt_mul hd]
      have hcell : 2 ^ (52 + t + 1) * den = 2 ^ 53 * (den * 2 ^ t) := by ring
      omega
    have hne : num / den ≠ 0 := (Nat.lt_of_lt_of_le (Nat.two_pow_pos _) hle).ne'
    have hlog : (num / den).log2 = 52 + t := (Nat.log2_eq_iff hne).mpr ⟨hle, hlt⟩
    rw [slack, hlog]
    omega
  have hround : nearestEven num (den * 2 ^ t) = 2 ^ 53 :=
    nearestEven_eq (by omega) (by omega) (fun hodd => absurd hodd (by decide)) hhalf
  unfold roundUnits
  dsimp only
  rw [hs, Nat.pow_eq, hround]
  ring

/-- Reading what rounds to a magnitude gives the magnitude. -/
theorem roundUnits_of_holds {units num den : Nat} (hf : Fits units) (hd : 0 < den)
    (h : (reach units).holds (4 * num) den = true) : roundUnits num den = units := by
  obtain ⟨k, hk, hbits⟩ := eq_mul_of_fits hf
  obtain ⟨hlow, hhigh, hodd, hnarrow⟩ := near_of_holds hk h
  have hpow : 0 < den * 2 ^ slack units := Nat.mul_pos hd (Nat.two_pow_pos _)
  rcases lt_trichotomy (slack (num / den)) (slack units) with hs | hs | hs
  -- On a finer grid the fraction lies below the magnitude, which is then a power of two.
  · have hlt : num < 2 ^ 52 * (den * 2 ^ slack units) := by
      have hlog : (num / den).log2 < 52 + slack units := by
        unfold slack at hs ⊢
        omega
      have hdiv : num / den < 2 ^ (52 + slack units) :=
        Nat.lt_of_lt_of_le Nat.lt_log2_self (Nat.pow_le_pow_right Nat.two_pos hlog)
      rw [Nat.div_lt_iff_lt_mul hd, Nat.pow_add, Nat.mul_assoc, Nat.mul_comm _ den] at hdiv
      exact hdiv
    have hslack : 0 < slack units := by omega
    have hone : k = 2 ^ 52 := by
      have hmin := pow_le_of_fits hk hslack
      by_contra hne
      have hstep : (2 ^ 52 + 1) * (den * 2 ^ slack units) ≤ k * (den * 2 ^ slack units) :=
        Nat.mul_le_mul_right _ (by omega)
      omega
    have hunits : units = 2 ^ units.log2 := by
      have hlog : units.log2 = 52 + slack units := by
        unfold slack at hslack ⊢
        omega
      rw [hone, ← Nat.pow_add, ← hlog] at hk
      exact hk
    have hquarter := hnarrow hslack hunits
    obtain ⟨t, ht⟩ := Nat.exists_eq_add_one.mpr hslack
    rw [hone, ht] at hk hquarter
    rw [ht] at hlt
    rw [roundUnits_of_near_pow hd hquarter hlt]
    exact hk.symm
  · unfold roundUnits
    dsimp only
    rw [hs, Nat.pow_eq, nearestEven_eq hlow hhigh hodd hpow]
    exact hk.symm
  -- On a coarser grid the fraction would lie above every magnitude of this grid.
  · have hle : 2 ^ 53 * (den * 2 ^ slack units) ≤ num := by
      have hne : num / den ≠ 0 := by
        intro hz
        rw [hz] at hs
        exact absurd hs (by simp [slack])
      have hlog : 53 + slack units ≤ (num / den).log2 := by
        unfold slack at hs ⊢
        omega
      have hdiv := (Nat.le_log2 hne).mp hlog
      rw [Nat.le_div_iff_mul_le hd, Nat.pow_add, Nat.mul_assoc, Nat.mul_comm _ den] at hdiv
      exact hdiv
    have hmax : k * (den * 2 ^ slack units) ≤ (2 ^ 53 - 1) * (den * 2 ^ slack units) :=
      Nat.mul_le_mul_right _ (by omega)
    omega

end Rounding

section Reading

theorem ten_pow_length_le {n : Nat} (h : 0 < n) : 10 ^ ((Nat.toDigits 10 n).length - 1) ≤ n := by
  by_contra hlt
  have hlen : 0 < (Nat.toDigits 10 n).length := Nat.length_toDigits_pos
  rcases Nat.eq_zero_or_pos ((Nat.toDigits 10 n).length - 1) with hz | hpos
  · rw [hz] at hlt
    omega
  · have hle := (Nat.length_toDigits_le_iff (by decide : 1 < 10) hpos).mpr (Nat.not_le.mp hlt)
    omega

/-- The point of the shortest decimal lies where decimals are read exactly. -/
theorem point_shortest {units : Nat} (hu : 0 < units) (hb : units.log2 < limitBits) :
    -330 ≤ ((Nat.toDigits 10 (shortest units).digits).length : Int) + (shortest units).exponent ∧
    ((Nat.toDigits 10 (shortest units).digits).length : Int) + (shortest units).exponent ≤ 310 := by
  have hhalf := halfOf_shortest hu
  have htwice := shortest_le_twice hu
  have hpos := pos_digits_of_halfOf hhalf hu
  unfold HalfOf at hhalf
  generalize shortest units = d at hhalf htwice hpos
  obtain ⟨n, e⟩ := d
  dsimp only at hhalf htwice hpos ⊢
  have hunit := unit_pos
  have hrange := (lt_ceiling_iff units).mpr hb
  have hmin := ten_pow_length_le hpos
  have hmax := lt_ten_pow_length n
  have hlen : 0 < (Nat.toDigits 10 n).length := Nat.length_toDigits_pos
  generalize (Nat.toDigits 10 n).length = len at hmin hmax hlen
  constructor
  · have hlow : 10 ^ (-e).toNat < 10 ^ (324 + (len + e.toNat)) := by
      calc 10 ^ (-e).toNat ≤ units * 10 ^ (-e).toNat := Nat.le_mul_of_pos_left _ hu
        _ ≤ 2 * n * unit * 10 ^ e.toNat := hhalf
        _ = 2 * unit * (n * 10 ^ e.toNat) := by ring
        _ < 2 * unit * (10 ^ len * 10 ^ e.toNat) := by
          gcongr
        _ ≤ 10 ^ 324 * (10 ^ len * 10 ^ e.toNat) := Nat.mul_le_mul_right _ two_mul_unit_le
        _ = 10 ^ (324 + (len + e.toNat)) := by rw [Nat.pow_add, Nat.pow_add]
    have hexponent := (Nat.pow_lt_pow_iff_right (by decide : 1 < 10)).mp hlow
    omega
  · have hhigh : 10 ^ (len - 1 + e.toNat) < 10 ^ (309 + (-e).toNat) := by
      refine Nat.lt_of_mul_lt_mul_right (a := unit) ?_
      calc 10 ^ (len - 1 + e.toNat) * unit = 10 ^ (len - 1) * 10 ^ e.toNat * unit := by
            rw [Nat.pow_add]
        _ ≤ n * 10 ^ e.toNat * unit :=
          Nat.mul_le_mul_right _ (Nat.mul_le_mul_right _ hmin)
        _ ≤ 2 * units * 10 ^ (-e).toNat := htwice
        _ < 2 * ceiling * 10 ^ (-e).toNat := by
          gcongr
        _ ≤ 10 ^ 309 * unit * 10 ^ (-e).toNat := Nat.mul_le_mul_right _ two_mul_ceiling_le
        _ = 10 ^ (309 + (-e).toNat) * unit := by rw [Nat.pow_add, Nat.mul_right_comm]
    have hexponent := (Nat.pow_lt_pow_iff_right (by decide : 1 < 10)).mp hhigh
    omega

theorem ofUnits_of_roundUnits (s : Bool) {num den units : Nat} (hf : Fits units)
    (hb : units.log2 < limitBits) (h : roundUnits num den = units) :
    ofUnits s num den = finite s units hf hb := by
  subst h
  exact dif_pos hb

/-- The shortest decimal of a magnitude rounds to it. -/
theorem roundUnits_shortest {units : Nat} (hu : 0 < units) (hf : Fits units) :
    roundUnits ((shortest units).digits * 10 ^ (shortest units).exponent.toNat * unit)
      (10 ^ (-(shortest units).exponent).toNat) = units := by
  have hreads := readsAs_shortest hu
  unfold ReadsAs at hreads
  generalize shortest units = d at hreads
  have hnum : 4 * d.digits * unit * Nat.pow 10 d.exponent.toNat =
      4 * (d.digits * 10 ^ d.exponent.toNat * unit) := by
    rw [Nat.pow_eq]
    ring
  rw [hnum] at hreads
  exact roundUnits_of_holds hf (by positivity) hreads

theorem ofDecimal_shortest {units : Nat} (hu : 0 < units) (hf : Fits units)
    (hb : units.log2 < limitBits) :
    ofDecimal false (shortest units).digits (shortest units).exponent =
      finite false units hf hb := by
  obtain ⟨hlow, hhigh⟩ := point_shortest hu hb
  have hpos := pos_digits_of_halfOf (halfOf_shortest hu) hu
  rw [ofDecimal_eq false hpos, if_neg (by omega), if_neg (by omega), ofRatio_def]
  exact ofUnits_of_roundUnits false hf hb (roundUnits_shortest hu hf)

/-- The general text of a magnitude is read back as the magnitude. -/
theorem ofText_toText_finite {units : Nat} (hf : Fits units) (hb : units.log2 < limitBits) :
    ofText (finite false units hf hb).toText = finite false units hf hb := by
  by_cases hsmall : units % unit = 0 ∧ units / unit < Nat.pow 2 53
  · have hunits : units = units / unit * unit := by
      have hsplit := Nat.div_add_mod units unit
      rw [hsmall.1, Nat.add_zero, Nat.mul_comm] at hsplit
      exact hsplit.symm
    have hcount : finite false units hf hb = ofNat (units / unit) := by
      rw [ofNat_eq (Nat.le_of_lt hsmall.2)]
      congr
    rw [hcount]
    exact ofText_toText_ofNat hsmall.2
  · have hu : 0 < units := by
      by_contra hz
      obtain rfl : units = 0 := by omega
      exact hsmall ⟨Nat.zero_mod _, by rw [Nat.zero_div]; decide⟩
    have hpos := pos_digits_of_halfOf (halfOf_shortest hu) hu
    rw [toText, toChars, magnitudeText, if_neg hsmall, Bool.false_and, if_neg Bool.false_ne_true,
      List.nil_append, ofText_layout _ hpos]
    exact ofDecimal_shortest hu hf hb

/-- The general text of a number without sign is read back as the number. -/
theorem ofText_toText {x : Number} (hx : x.isNaN = false) (hs : x.isNegative = false) :
    ofText x.toText = x := by
  cases x with
  | nan => cases hx
  | infinity s =>
    obtain rfl : s = false := hs
    decide +kernel
  | finite s units hf hb =>
    obtain rfl : s = false := hs
    exact ofText_toText_finite hf hb

end Reading

end Telemetry.Number
