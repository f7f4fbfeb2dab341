import Telemetry.Proofs.Number.Arithmetic

/-! # Whole numbers and truncation

Whole numbers of at most 53 bits are exact: they are told apart, ordered and added as natural
numbers. Dropping the fraction of a finite number is exact at any size, since a number above
`2 ^ 53` has no fraction.
-/
namespace Telemetry.Number

/-- The largest count up to which every whole number is exact. -/
def exactLimit : Nat := 2 ^ 53

def unitBits : Nat := 1074

theorem unit_eq : unit = 2 ^ unitBits := by
  unfold unit unitBits
  generalize 1074 = k
  exact Nat.pow_eq

theorem exactBits_lt : 53 + unitBits < limitBits := by decide

-- From here on one is a power of two like any other; its digits are never computed.
attribute [local irreducible] unit unitBits

theorem fits_mul_pow {m s : Nat} (h : m < 2 ^ 53) : Fits (m * 2 ^ s) := fits_of_lt h

theorem fits_mul_unit {n : Nat} (h : n ≤ exactLimit) : Fits (n * unit) := by
  rw [unit_eq]
  rcases Nat.eq_or_lt_of_le h with he | hlt
  · rw [he, exactLimit, ← Nat.pow_add, ← Nat.one_mul (2 ^ (53 + unitBits))]
    exact fits_mul_pow (by decide)
  · exact fits_mul_pow hlt

theorem mul_unit_in_range {n : Nat} (h : n ≤ exactLimit) : (n * unit).log2 < limitBits := by
  refine (lt_ceiling_iff _).mp ((Nat.mul_le_mul_right unit h).trans_lt ?_)
  rw [unit_eq, exactLimit, ← Nat.pow_add]
  exact two_pow_lt_ceiling exactBits_lt

theorem ofNat_def (n : Nat) : ofNat n = ofUnits false (n * unit) 1 := by
  rfl

theorem ofRatio_def (s : Bool) (num den : Nat) : ofRatio s num den = ofUnits s (num * unit) den := by
  rfl

/-- The order of two fractions is kept when both become numbers. -/
theorem ofRatio_le_ofRatio {a b c d : Nat} (hb : 0 < b) (hd : 0 < d) (h : a * d ≤ c * b) :
    (ofRatio false a b).le (ofRatio false c d) = true := by
  have hm : a * unit * d ≤ c * unit * b := by
    rw [Nat.mul_right_comm, Nat.mul_right_comm c]
    exact Nat.mul_le_mul_right unit h
  have hr := roundUnits_mono hb hd hm
  rw [ofRatio_def, ofRatio_def, le_iff, place_ofUnits, place_ofUnits]
  refine ⟨isNaN_ofUnits _ _ _, isNaN_ofUnits _ _ _, ?_⟩
  simp only [signed, Bool.false_eq_true, if_false]
  omega

/-- A fraction becomes a number by its value alone. -/
theorem ofRatio_congr (s : Bool) {a b c d : Nat} (hb : 0 < b) (hd : 0 < d) (h : a * d = c * b) :
    ofRatio s a b = ofRatio s c d := by
  have hm : a * unit * d = c * unit * b := by
    rw [Nat.mul_right_comm, h, Nat.mul_right_comm]
  have hr : roundUnits (a * unit) b = roundUnits (c * unit) d :=
    Nat.le_antisymm (roundUnits_mono hb hd hm.le) (roundUnits_mono hd hb hm.ge)
  rw [ofRatio_def, ofRatio_def]
  unfold ofUnits
  simp only [hr]

theorem ofRatio_zero (s : Bool) (den : Nat) : ofRatio s 0 den = ofUnits s 0 1 := by
  rw [ofRatio_def, Nat.zero_mul]
  unfold ofUnits
  simp only [roundUnits_zero]

theorem ofNat_mono {m n : Nat} (h : m ≤ n) : (ofNat m).le (ofNat n) = true :=
  ofRatio_le_ofRatio Nat.one_pos Nat.one_pos (Nat.mul_le_mul_right 1 h)

theorem ofNat_eq {n : Nat} (h : n ≤ exactLimit) :
    ofNat n = finite false (n * unit) (fits_mul_unit h) (mul_unit_in_range h) := by
  have he := ofUnits_of_fits false Nat.one_pos (fits_mul_unit h) (mul_unit_in_range h)
  rwa [Nat.mul_one, ← ofNat_def] at he

@[simp] theorem isNaN_ofNat (n : Nat) : (ofNat n).isNaN = false := isNaN_ofUnits _ _ _

theorem isFinite_ofNat {n : Nat} (h : n ≤ exactLimit) : (ofNat n).isFinite = true := by
  rw [ofNat_eq h, isFinite]

theorem literal_eq (n : Nat) : (OfNat.ofNat n : Number) = ofNat n := by
  rfl

theorem isFinite_literal {n : Nat} (h : n ≤ exactLimit) :
    (OfNat.ofNat n : Number).isFinite = true := by
  rw [literal_eq]
  exact isFinite_ofNat h

theorem place_ofNat {n : Nat} (h : n ≤ exactLimit) : (ofNat n).place = (n * unit : Nat) := by
  rw [ofNat_eq h, place, signed, if_neg (by decide)]

theorem place_literal {n : Nat} (h : n ≤ exactLimit) :
    (OfNat.ofNat n : Number).place = (n * unit : Nat) := by
  rw [literal_eq]
  exact place_ofNat h

theorem place_zero : (0 : Number).place = 0 := by
  rw [place_literal (Nat.zero_le _), Nat.zero_mul, Nat.cast_zero]

theorem place_literal_pos {n : Nat} (h : n ≤ exactLimit) (hp : 0 < n) :
    0 < (OfNat.ofNat n : Number).place := by
  rw [place_literal h]
  exact Nat.cast_pos.mpr (Nat.mul_pos hp unit_pos)

theorem ofNat_le_ofNat {m n : Nat} (hm : m ≤ exactLimit) (hn : n ≤ exactLimit) :
    (ofNat m).le (ofNat n) = true ↔ m ≤ n := by
  rw [le_iff, place_ofNat hm, place_ofNat hn, Nat.cast_le, Nat.mul_le_mul_right_iff unit_pos]
  simp only [isNaN_ofNat, true_and]

theorem ofNat_lt_ofNat {m n : Nat} (hm : m ≤ exactLimit) (hn : n ≤ exactLimit) :
    (ofNat m).lt (ofNat n) = true ↔ m < n := by
  rw [lt_iff, place_ofNat hm, place_ofNat hn, Nat.cast_lt, Nat.mul_lt_mul_right unit_pos]
  simp only [isNaN_ofNat, true_and]

theorem finite_add_finite (s t : Bool) {u v : Nat} (hf : Fits u) (hl : u.log2 < limitBits)
    (hg : Fits v) (hm : v.log2 < limitBits) :
    finite s u hf hl + finite t v hg hm =
      ofUnits (if signed s u + signed t v = 0 then s && t
        else decide (signed s u + signed t v < 0)) (signed s u + signed t v).natAbs 1 := by
  rfl

/-- Counts add up without error: both terms are exact and the sum is rounded once. -/
theorem ofNat_add_ofNat {m n : Nat} (hm : m ≤ exactLimit) (hn : n ≤ exactLimit) :
    ofNat m + ofNat n = ofNat (m + n) := by
  have hsum : signed false (m * unit) + signed false (n * unit) = ((m + n) * unit : Nat) := by
    rw [signed, signed, if_neg (by decide), if_neg (by decide), Nat.add_mul, Nat.cast_add]
  have hsign : ¬ (((m + n) * unit : Nat) : Int) < 0 := Int.not_lt.mpr (Int.natCast_nonneg _)
  rw [ofNat_eq hm, ofNat_eq hn, finite_add_finite, hsum, Int.natAbs_natCast, ofNat_def]
  simp only [hsign, decide_false, Bool.false_and, ite_self]

/-- The exact sum of a list of counts, added up from the left. -/
theorem foldl_map_ofNat (start : Nat) (ns : List Nat) (h : start + ns.sum ≤ exactLimit) :
    (ns.map ofNat).foldl (· + ·) (ofNat start) = ofNat (start + ns.sum) := by
  induction ns generalizing start with
  | nil => rw [List.map_nil, List.foldl_nil, List.sum_nil, Nat.add_zero]
  | cons n rest ih =>
    rw [List.sum_cons] at h
    have hn : n ≤ exactLimit := by omega
    have hs : start ≤ exactLimit := by omega
    rw [List.map_cons, List.foldl_cons, ofNat_add_ofNat hs hn, ih (start + n) (by omega),
      List.sum_cons, Nat.add_assoc]

theorem fits_whole_part {u : Nat} (h : Fits u) : Fits (u / unit * unit) := by
  by_cases hq : u / unit < 2 ^ 53
  · rw [unit_eq] at hq ⊢
    exact fits_mul_pow hq
  -- So large a magnitude has no fraction: its grid is coarser than one.
  · have hu : 2 ^ (53 + unitBits) ≤ u := by
      have hle := (Nat.le_div_iff_mul_le unit_pos).mp (Nat.le_of_not_lt hq)
      rwa [unit_eq, ← Nat.pow_add] at hle
    have hpos : u ≠ 0 := Nat.pos_iff_ne_zero.mp ((Nat.two_pow_pos _).trans_le hu)
    have hl : 53 + unitBits ≤ u.log2 := (Nat.le_log2 hpos).mpr hu
    have hg : 2 ^ slack u ∣ u := h
    have hd : unit ∣ u := by
      rw [unit_eq]
      have hs : unitBits ≤ slack u := by
        unfold slack
        omega
      exact (Nat.pow_dvd_pow 2 hs).trans hg
    rwa [Nat.div_mul_cancel hd]

theorem whole_part_in_range {u : Nat} (h : u.log2 < limitBits) :
    (u / unit * unit).log2 < limitBits :=
  (lt_ceiling_iff _).mp ((Nat.div_mul_le_self u unit).trans_lt ((lt_ceiling_iff u).mpr h))

theorem truncate_def (s : Bool) {u : Nat} (hf : Fits u) (hb : u.log2 < limitBits) :
    (finite s u hf hb).truncate = ofUnits s (u / unit * unit) 1 := by
  rfl

theorem truncate_finite (s : Bool) {u : Nat} (hf : Fits u) (hb : u.log2 < limitBits) :
    (finite s u hf hb).truncate =
      finite s (u / unit * unit) (fits_whole_part hf) (whole_part_in_range hb) := by
  have he := ofUnits_of_fits s Nat.one_pos (fits_whole_part hf) (whole_part_in_range hb)
  rwa [Nat.mul_one, ← truncate_def s hf hb] at he

theorem truncate_ofNat {n : Nat} (h : n ≤ exactLimit) : (ofNat n).truncate = ofNat n := by
  have hq : n * unit / unit * unit = n * unit := by rw [Nat.mul_div_cancel n unit_pos]
  rw [ofNat_eq h, truncate_finite]
  simp only [hq]

theorem isFinite_truncate (x : Number) : x.truncate.isFinite = x.isFinite := by
  cases x with
  | nan => rfl
  | infinity s => rfl
  | finite s u hf hb => rw [truncate_finite, isFinite, isFinite]

theorem floor_finite {u : Nat} (hf : Fits u) (hb : u.log2 < limitBits) :
    (finite false u hf hb).floor =
      finite false (u / unit * unit) (fits_whole_part hf) (whole_part_in_range hb) :=
  truncate_finite false hf hb

theorem finite_div_ofNat {u n : Nat} (hf : Fits u) (hb : u.log2 < limitBits) (hn : 0 < n)
    (h : n ≤ exactLimit) : finite false u hf hb / ofNat n = ofUnits false (u * unit) (n * unit) := by
  have hz : ¬ n * unit = 0 := (Nat.mul_pos hn unit_pos).ne'
  rw [ofNat_eq h]
  show (if n * unit = 0 then _ else _) = _
  rw [if_neg hz]
  rfl

theorem finite_mul_finite (s t : Bool) {u v : Nat} (hf : Fits u) (hl : u.log2 < limitBits)
    (hg : Fits v) (hm : v.log2 < limitBits) :
    finite s u hf hl * finite t v hg hm = ofUnits (s != t) (u * v) unit := by
  rfl

/-- A positive number does not become smaller when it is multiplied by a count. -/
theorem le_mul_ofNat {a : Number} (ha : Number.lt 0 a = true) {n : Nat} (hn : 0 < n)
    (h : n ≤ exactLimit) : a.le (a * ofNat n) = true := by
  obtain ⟨-, hnan, hpos⟩ := (lt_iff _ _).mp ha
  rw [place_zero] at hpos
  cases a with
  | nan => cases hnan
  | infinity s =>
    cases s with
    | true =>
      have hc := ceiling_pos
      simp only [place, signed, if_true] at hpos
      omega
    | false =>
      have hz : ¬ n * unit = 0 := (Nat.mul_pos hn unit_pos).ne'
      have hmul : infinity false * ofNat n = infinity false := by
        rw [ofNat_eq h]
        show (if (n * unit == 0) = true then nan else _) = _
        rw [if_neg (by simpa using hz)]
        rfl
      rw [hmul]
      rfl
  | finite s u hf hb =>
    cases s with
    | true =>
      simp only [place, signed, if_true] at hpos
      omega
    | false =>
      have hu := (lt_ceiling_iff u).mpr hb
      have hscaled : u * unit * unit ≤ u * (n * unit) * unit := by
        have hone : unit ≤ n * unit := Nat.le_mul_of_pos_left unit hn
        gcongr
      have hround : u ≤ roundUnits (u * (n * unit)) unit := by
        calc u = roundUnits (u * unit) unit := (roundUnits_of_fits unit_pos hf).symm
          _ ≤ roundUnits (u * (n * unit)) unit := roundUnits_mono unit_pos unit_pos hscaled
      rw [ofNat_eq h, finite_mul_finite, le_iff, place_ofUnits]
      refine ⟨rfl, isNaN_ofUnits _ _ _, ?_⟩
      rw [place, signed, signed, if_neg Bool.false_ne_true, if_neg (by decide), Nat.cast_le]
      exact le_min hround hu.le

theorem toInt?_finite_mul_unit (s : Bool) (n : Nat) (hf : Fits (n * unit))
    (hb : (n * unit).log2 < limitBits) : (finite s (n * unit) hf hb).toInt? = some (signed s n) := by
  rw [toInt?, Nat.mul_mod_left, if_pos rfl, Nat.mul_div_cancel n unit_pos]

theorem isWhole_truncate {x : Number} (h : x.isFinite = true) : x.truncate.isWhole = true := by
  cases x with
  | nan => cases h
  | infinity s => cases h
  | finite s u hf hb => rw [truncate_finite, isWhole, toInt?_finite_mul_unit, Option.isSome_some]

theorem truncate_of_isWhole {x : Number} (h : x.isWhole = true) : x.truncate = x := by
  cases x with
  | nan => rfl
  | infinity s => rfl
  | finite s u hf hb =>
    have hu : u / unit * unit = u := by
      refine Nat.div_mul_cancel (Nat.dvd_of_mod_eq_zero ?_)
      rw [isWhole, toInt?] at h
      by_contra hne
      rw [if_neg hne] at h
      cases h
    rw [truncate_finite]
    simp only [hu]

theorem isWhole_ofNat {n : Nat} (h : n ≤ exactLimit) : (ofNat n).isWhole = true := by
  rw [ofNat_eq h, isWhole, toInt?_finite_mul_unit, Option.isSome_some]

theorem isNegative_ofNat (n : Nat) : (ofNat n).isNegative = false := isNegative_ofUnits _ _ _

end Telemetry.Number
