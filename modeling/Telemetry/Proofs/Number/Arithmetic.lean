import Telemetry.Proofs.Number.Rounding

/-! # Sums and differences by place

The place of a result is the rounded place of the exact result. Subtraction of a fixed number
keeps the order, and whole numbers of at most 53 bits add up without error.
-/
namespace Telemetry.Number

/-- The place of the number nearest to a whole number of units. -/
def roundPlace (t : Int) : Int := signed (decide (t < 0)) (min (roundUnits t.natAbs 1) ceiling)

@[simp] theorem signed_zero (s : Bool) : signed s 0 = 0 := by
  cases s <;> rfl

@[simp] theorem roundUnits_zero (den : Nat) : roundUnits 0 den = 0 := by
  simp [roundUnits, nearestEven]

theorem roundUnits_one_mono {m n : Nat} (h : m ≤ n) : roundUnits m 1 ≤ roundUnits n 1 :=
  roundUnits_mono Nat.one_pos Nat.one_pos (by omega)

theorem roundUnits_one_of_fits {n : Nat} (h : Fits n) : roundUnits n 1 = n := by
  have hr := roundUnits_of_fits Nat.one_pos h
  rwa [Nat.mul_one] at hr

theorem roundPlace_of_fits {n : Nat} (hf : Fits n) (hb : n.log2 < limitBits) :
    roundPlace n = n := by
  rw [roundPlace, decide_eq_false (Int.not_lt.mpr (Int.natCast_nonneg n)), Int.natAbs_natCast,
    roundUnits_one_of_fits hf, Nat.min_eq_left ((lt_ceiling_iff n).mpr hb).le, signed,
    if_neg Bool.false_ne_true]

theorem roundPlace_mono {t u : Int} (h : t ≤ u) : roundPlace t ≤ roundPlace u := by
  unfold roundPlace
  rcases lt_or_ge t 0 with ht | ht <;> rcases lt_or_ge u 0 with hu | hu
  · have hr : roundUnits u.natAbs 1 ≤ roundUnits t.natAbs 1 := roundUnits_one_mono (by omega)
    simp only [ht, hu, decide_true, signed, if_true]
    omega
  · simp only [ht, Int.not_lt.mpr hu, decide_true, decide_false, signed, if_true]
    simp only [Bool.false_eq_true, if_false]
    omega
  · omega
  · have hr : roundUnits t.natAbs 1 ≤ roundUnits u.natAbs 1 := roundUnits_one_mono (by omega)
    simp only [Int.not_lt.mpr ht, Int.not_lt.mpr hu, decide_false, signed, Bool.false_eq_true,
      if_false]
    omega

@[simp] theorem isNaN_ofUnits (s : Bool) (num den : Nat) : (ofUnits s num den).isNaN = false := by
  unfold ofUnits
  split <;> rfl

@[simp] theorem isNegative_ofUnits (s : Bool) (num den : Nat) :
    (ofUnits s num den).isNegative = s := by
  unfold ofUnits
  split <;> rfl

theorem place_ofUnits (s : Bool) (num den : Nat) :
    (ofUnits s num den).place = signed s (min (roundUnits num den) ceiling) := by
  unfold ofUnits
  split
  · rename_i h
    rw [place, Nat.min_eq_left ((lt_ceiling_iff _).mpr h).le]
  · rename_i h
    have hc := mt (lt_ceiling_iff _).mp h
    rw [place, Nat.min_eq_right (by omega)]

/-- What fits and is in range is taken over exactly. -/
theorem ofUnits_of_fits (s : Bool) {n den : Nat} (hd : 0 < den) (hf : Fits n)
    (hb : n.log2 < limitBits) : ofUnits s (n * den) den = finite s n hf hb := by
  have hr := roundUnits_of_fits hd hf
  unfold ofUnits
  rw [dif_pos (by rw [hr]; exact hb)]
  simp only [hr]

theorem isFinite_ofUnits_or (s : Bool) (num den : Nat) :
    (ofUnits s num den).isFinite = true ∨ ofUnits s num den = infinity s := by
  unfold ofUnits
  split
  · exact .inl rfl
  · exact .inr rfl

theorem isNaN_of_isFinite {a : Number} (h : a.isFinite = true) : a.isNaN = false := by
  cases a with
  | nan => cases h
  | infinity s => rfl
  | finite => rfl

@[simp] theorem isFinite_neg (a : Number) : a.neg.isFinite = a.isFinite := by
  cases a <;> rfl

theorem place_add {a b : Number} (ha : a.isFinite = true) (hb : b.isFinite = true) :
    (a + b).place = roundPlace (a.place + b.place) := by
  cases a with
  | nan => cases ha
  | infinity s => cases ha
  | finite s u hf hl =>
    cases b with
    | nan => cases hb
    | infinity t => cases hb
    | finite t v hg hm =>
      show (ofUnits _ _ 1).place = _
      rw [place_ofUnits]
      simp only [place, roundPlace]
      by_cases hz : signed s u + signed t v = 0
      · simp [hz]
      · rw [if_neg hz]
        rfl

theorem isNaN_add {a b : Number} (ha : a.isNaN = false) (hb : b.isFinite = true) :
    (a + b).isNaN = false := by
  cases b with
  | nan => cases hb
  | infinity t => cases hb
  | finite t v hg hm =>
    cases a with
    | nan => cases ha
    | infinity s => rfl
    | finite s u hf hl => exact isNaN_ofUnits _ _ _

theorem isNaN_sub {a b : Number} (ha : a.isFinite = true) (hb : b.isFinite = true) :
    (a - b).isNaN = false :=
  isNaN_add (isNaN_of_isFinite ha) ((isFinite_neg b).trans hb)

theorem place_sub_self {a : Number} (h : (a - a).isNaN = false) : (a - a).place = 0 := by
  cases a with
  | nan => cases h
  | infinity s => cases s <;> cases h
  | finite s u hf hb =>
    have hneg : (neg (finite s u hf hb)).place = -(finite s u hf hb).place := by
      cases s <;> simp [neg, place, signed]
    refine (place_add rfl rfl).trans ?_
    rw [hneg, Int.add_right_neg]
    rfl

/-- An infinity stays where it is when a finite number is added. -/
theorem infinity_add (s : Bool) {b : Number} (hb : b.isFinite = true) :
    infinity s + b = infinity s := by
  cases b with
  | nan => cases hb
  | infinity t => cases hb
  | finite t v hg hm => rfl

theorem place_le_ceiling (a : Number) : -ceiling ≤ a.place ∧ a.place ≤ ceiling := by
  cases a with
  | nan =>
    have h := ceiling_pos
    constructor <;> simp only [place] <;> omega
  | infinity s => cases s <;> simp [place, signed]
  | finite s u hf hb =>
    have h := (lt_ceiling_iff u).mpr hb
    cases s <;> simp [place, signed] <;> omega

theorem le_infinity {a : Number} (h : a.isNaN = false) : a.le (infinity false) = true :=
  (le_iff _ _).mpr ⟨h, rfl, (place_le_ceiling a).2⟩

theorem add_le_add_right {a b c : Number} (hab : a.le b = true) (hc : c.isFinite = true) :
    (a + c).le (b + c) = true := by
  obtain ⟨ha, hb, hp⟩ := (le_iff a b).mp hab
  refine (le_iff _ _).mpr ⟨isNaN_add ha hc, isNaN_add hb hc, ?_⟩
  cases a with
  | nan => cases ha
  | infinity s =>
    cases s with
    | true =>
      rw [infinity_add true hc]
      exact (place_le_ceiling _).1
    | false =>
      have hbc := place_le_ceiling b
      cases b with
      | nan => cases hb
      | infinity t =>
        rw [infinity_add _ hc, infinity_add _ hc]
        exact hp
      | finite t v hg hm =>
        have hv := (lt_ceiling_iff v).mpr hm
        cases t <;> simp [place, signed] at hp <;> omega
  | finite s u hf hl =>
    cases b with
    | nan => cases hb
    | infinity t =>
      cases t with
      | false =>
        rw [infinity_add false hc]
        exact (place_le_ceiling _).2
      | true =>
        have hu := (lt_ceiling_iff u).mpr hl
        cases s <;> simp [place, signed] at hp <;> omega
    | finite t v hg hm =>
      rw [place_add rfl hc, place_add rfl hc]
      exact roundPlace_mono (by omega)

/-- Taking away a finite number keeps the order. -/
theorem sub_le_sub_right {a b c : Number} (hab : a.le b = true) (hc : c.isFinite = true) :
    (a - c).le (b - c) = true :=
  add_le_add_right hab ((isFinite_neg c).trans hc)

/-- Subtraction of a number that may be infinite still keeps what lies below the result below. -/
theorem lt_sub_of_lt_sub {t a b c : Number} (hab : a.le b = true)
    (hc : c.isFinite = true ∨ c = infinity false) (h : t.lt (a - c) = true) :
    t.lt (b - c) = true := by
  rcases hc with hc | rfl
  · exact lt_of_lt_of_le h (sub_le_sub_right hab hc)
  · obtain ⟨ht, hn, hp⟩ := (lt_iff _ _).mp h
    have hbot := (place_le_ceiling t).1
    -- An infinite reading minus infinity is `nan`, and nothing lies below minus infinity.
    cases a with
    | nan => cases hn
    | infinity s =>
      cases s with
      | true => exact absurd hp (Int.not_lt.mpr hbot)
      | false => cases hn
    | finite s u hf hb => exact absurd hp (Int.not_lt.mpr hbot)

/-- What lies below a difference stays below it when the first number grows, whatever is taken
away. -/
theorem lt_sub_mono {t a b c : Number} (hab : a.le b = true) (h : t.lt (a - c) = true) :
    t.lt (b - c) = true := by
  cases c with
  | finite s u hf hb => exact lt_sub_of_lt_sub hab (.inl rfl) h
  | nan =>
    have hnan : a - nan = nan := by cases a <;> rfl
    rw [hnan] at h
    exact absurd ((lt_iff _ _).mp h).2.1 (by decide)
  | infinity s =>
    cases s with
    | false => exact lt_sub_of_lt_sub hab (.inr rfl) h
    | true =>
      -- Minus infinity leads to infinity, but for a reading that is minus infinity itself.
      have hsub : ∀ x : Number, x.isNaN = false → x ≠ infinity true →
          x - infinity true = infinity false := by
        intro x hx hne
        cases x with
        | nan => cases hx
        | infinity s =>
          cases s with
          | false => rfl
          | true => exact absurd rfl hne
        | finite s u hf hb => rfl
      obtain ⟨ha, hb, -⟩ := (le_iff _ _).mp hab
      have hane : a ≠ infinity true := by
        rintro rfl
        exact absurd ((lt_iff _ _).mp h).2.1 (by decide)
      have hbne : b ≠ infinity true := by
        rintro rfl
        cases a with
        | nan => cases ha
        | infinity s =>
          cases s with
          | false => cases hab
          | true => exact hane rfl
        | finite s u hf hb => cases hab
      rw [hsub a ha hane] at h
      rwa [hsub b hb hbne]

section Extremes

variable {a b : Number}

/-- Finite numbers without a sign are told apart by their places. -/
theorem eq_of_place (ha : a.isFinite = true) (hb : b.isFinite = true) (hs : a.isNegative = false)
    (ht : b.isNegative = false) (h : a.place = b.place) : a = b := by
  cases a with
  | nan => cases ha
  | infinity s => cases ha
  | finite s u hf hl =>
    cases b with
    | nan => cases hb
    | infinity t => cases hb
    | finite t v hg hm =>
      obtain rfl : s = false := hs
      obtain rfl : t = false := ht
      obtain rfl : u = v := by simpa [place, signed] using h
      rfl

theorem maximum_eq_left (hs : a.isNegative = false) (h : b.le a = true) : maximum a b = a := by
  obtain ⟨hb, ha, -⟩ := (le_iff b a).mp h
  have hlt : a.lt b = false := (not_lt_iff ha hb).mpr h
  unfold maximum
  simp only [ha, hb, hlt, hs, Bool.or_self, Bool.false_eq_true, if_false, ite_self]

theorem maximum_eq_right (ha : a.isFinite = true) (hb : b.isFinite = true)
    (hs : a.isNegative = false) (ht : b.isNegative = false) (h : a.le b = true) :
    maximum a b = b := by
  by_cases hle : b.le a = true
  · rw [maximum_eq_left hs hle]
    exact eq_of_place ha hb hs ht
      (Int.le_antisymm ((le_iff a b).mp h).2.2 ((le_iff b a).mp hle).2.2)
  · have hlt : a.lt b = true :=
      lt_of_not_le (isNaN_of_isFinite ha) (isNaN_of_isFinite hb) (Bool.eq_false_iff.mpr hle)
    unfold maximum
    simp only [isNaN_of_isFinite ha, isNaN_of_isFinite hb, hlt, Bool.or_self, Bool.false_eq_true,
      if_false, if_true]

theorem minimum_eq_right (hs : a.isNegative = false) (h : b.le a = true) : minimum a b = b := by
  obtain ⟨hb, ha, -⟩ := (le_iff b a).mp h
  have hlt : a.lt b = false := (not_lt_iff ha hb).mpr h
  unfold minimum
  simp only [ha, hb, hlt, hs, Bool.or_self, Bool.false_eq_true, if_false, ite_self]

theorem minimum_eq_left (ha : a.isFinite = true) (hb : b.isFinite = true)
    (hs : a.isNegative = false) (ht : b.isNegative = false) (h : a.le b = true) :
    minimum a b = a := by
  by_cases hle : b.le a = true
  · rw [minimum_eq_right hs hle]
    exact eq_of_place hb ha ht hs
      (Int.le_antisymm ((le_iff b a).mp hle).2.2 ((le_iff a b).mp h).2.2)
  · have hlt : a.lt b = true :=
      lt_of_not_le (isNaN_of_isFinite ha) (isNaN_of_isFinite hb) (Bool.eq_false_iff.mpr hle)
    unfold minimum
    simp only [isNaN_of_isFinite ha, isNaN_of_isFinite hb, hlt, Bool.or_self, Bool.false_eq_true,
      if_false, if_true]

theorem isNegative_of_place_pos (h : 0 < a.place) : a.isNegative = false := by
  cases a with
  | nan => rfl
  | infinity s =>
    cases s with
    | false => rfl
    | true =>
      have hc := ceiling_pos
      simp only [place, signed, if_true] at h
      omega
  | finite s u hf hl =>
    cases s with
    | false => rfl
    | true =>
      simp only [place, signed, if_true] at h
      omega

/-- Whichever of two finite numbers is not larger is not below it. -/
theorem le_or_lt (ha : a.isFinite = true) (hb : b.isFinite = true) :
    a.le b = true ∨ b.lt a = true := by
  by_cases hle : a.le b = true
  · exact .inl hle
  · have hfalse : a.le b = false := Bool.eq_false_iff.mpr hle
    exact .inr (lt_of_not_le (isNaN_of_isFinite hb) (isNaN_of_isFinite ha) hfalse)

end Extremes

/-- The product of two positive finite numbers is finite or the positive infinity. -/
theorem mul_of_pos {a b : Number} (ha : a.isFinite = true) (hb : b.isFinite = true)
    (hpa : 0 < a.place) (hpb : 0 < b.place) :
    (a * b).isFinite = true ∨ a * b = infinity false := by
  cases a with
  | nan => cases ha
  | infinity s => cases ha
  | finite s u hf hl =>
    cases b with
    | nan => cases hb
    | infinity t => cases hb
    | finite t v hg hm =>
      have hs : s = false := by
        cases s
        · rfl
        · simp only [place, signed, if_true] at hpa
          omega
      have ht : t = false := by
        cases t
        · rfl
        · simp only [place, signed, if_true] at hpb
          omega
      rw [hs, ht]
      exact isFinite_ofUnits_or false _ _

end Telemetry.Number
