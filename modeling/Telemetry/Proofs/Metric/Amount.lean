import Telemetry.Metric.Amount
import Telemetry.Proofs.Number.Shortest

/-! # Classes of status codes and amounts

The class of a code and the mark of a server error are found in two different ways. They agree:
the number that a class begins with is at least five exactly if the code is at least five hundred.
-/
namespace Telemetry.Metric
open Telemetry.Number (unit exactLimit unit_pos)

attribute [local irreducible] Number.unit Number.unitBits

/-- The number that a class begins with, what stands before its two last characters. -/
def leadingNumber (statusClass : String) : Number :=
  Number.ofText (String.ofList statusClass.toList.dropLast.dropLast)

def isErrorClass (statusClass : String) : Bool := Number.le 5 (leadingNumber statusClass)

theorem leadingNumber_append (s : String) : leadingNumber (s ++ "xx") = Number.ofText s := by
  have h : (s ++ "xx").toList = (s.toList ++ ['x']) ++ ['x'] := by simp
  rw [leadingNumber, h, List.dropLast_concat, List.dropLast_concat, String.ofList_toList]

theorem truncate_whole {x code : Number}
    (h : (if x.isFinite then some x.truncate else none) = some code) :
    ∃ s n hf hb, code = .finite s (n * unit) hf hb := by
  cases x with
  | nan => cases h
  | infinity s => cases h
  | finite s u hf hb =>
    rw [Number.truncate_finite, Number.isFinite, if_pos rfl] at h
    exact ⟨s, u / unit, _, _, (Option.some.inj h).symm⟩

theorem statusCode?_whole {value : Datum} {code : Number} (h : statusCode? value = some code) :
    ∃ s n hf hb, code = .finite s (n * unit) hf hb :=
  truncate_whole h

theorem le_finite_iff {m n : Nat} (hm : m ≤ exactLimit) (hf : Number.Fits (n * unit))
    (hb : (n * unit).log2 < Number.limitBits) :
    (Number.ofNat m).le (.finite false (n * unit) hf hb) = true ↔ m ≤ n := by
  rw [Number.le_iff, Number.place_ofNat hm, Number.place, Number.signed, if_neg (by decide),
    Nat.cast_le, Nat.mul_le_mul_right_iff unit_pos]
  simp

theorem lt_hundred_iff {s : Bool} {n : Nat} (hf : Number.Fits (n * unit))
    (hb : (n * unit).log2 < Number.limitBits) :
    (Number.finite s (n * unit) hf hb).lt 100 = false ↔ s = false ∧ 100 ≤ n := by
  have hm : (100 : Nat) ≤ exactLimit := by decide
  rw [Number.literal_eq, Number.not_lt_iff rfl (Number.isNaN_ofNat 100)]
  cases s with
  | false => simp [le_finite_iff hm]
  | true =>
    have hu := unit_pos
    have hn : 0 ≤ (n : Int) * unit := by positivity
    rw [Number.le_iff, Number.place_ofNat hm, Number.place, Number.signed, if_pos rfl]
    simp
    omega

/-- The whole part of a hundredth of a whole number, rounded to a number before. -/
def hundreds (n : Nat) : Nat := Number.roundUnits (n * unit * unit) (100 * unit) / unit

/-- The hundreds of a whole number from five hundred up are at least five, and those of a smaller
one are at most four: what lies below five lies below a number just under it. -/
theorem five_le_hundreds_iff (n : Nat) : 5 ≤ hundreds n ↔ 500 ≤ n := by
  have hu := unit_pos
  have hden : 0 < 100 * unit := by omega
  rw [hundreds, Nat.le_div_iff_mul_le hu]
  constructor
  · intro h
    by_contra hn
    obtain ⟨k, hk⟩ : ∃ k, unit = 128 * 2 ^ k := by
      have hbits : 7 ≤ Number.unitBits := by
        unfold Number.unitBits
        decide
      refine ⟨Number.unitBits - 7, ?_⟩
      rw [Number.unit_eq, ← Nat.pow_add 2 7, Nat.add_sub_of_le hbits]
    have hpow : 0 < 2 ^ k := Nat.two_pow_pos k
    have hbelow := Number.roundUnits_of_fits hden
      (Number.fits_mul_pow (s := k) (by decide : 639 < 2 ^ 53))
    have hle : Number.roundUnits (n * unit * unit) (100 * unit) ≤ 639 * 2 ^ k := by
      rw [← hbelow]
      refine Number.roundUnits_mono hden hden (Nat.mul_le_mul_right _ ?_)
      calc n * unit * unit ≤ 499 * unit * unit :=
            Nat.mul_le_mul_right _ (Nat.mul_le_mul_right _ (by omega))
        _ ≤ 639 * 2 ^ k * (100 * unit) := by
            rw [hk]
            nlinarith
    omega
  · intro h
    have hfive := Number.roundUnits_of_fits hden
      (Number.fits_mul_unit (by decide : 5 ≤ exactLimit))
    rw [← hfive]
    refine Number.roundUnits_mono hden hden (Nat.mul_le_mul_right _ ?_)
    calc 5 * unit * (100 * unit) = 500 * unit * unit := by ring
      _ ≤ n * unit * unit := Nat.mul_le_mul_right _ (Nat.mul_le_mul_right _ h)

theorem hundreds_eq {n : Nat} (hf : Number.Fits (n * unit))
    (hb : (n * unit).log2 < Number.limitBits) :
    ∃ hf' hb', (Number.finite false (n * unit) hf hb / 100).floor =
      .finite false (hundreds n * unit) hf' hb' := by
  have hdiv := Number.finite_div_ofNat hf hb (by decide : 0 < 100) (by decide)
  have hden : 0 < 100 * unit := by
    have hu := unit_pos
    omega
  have hrange : (Number.roundUnits (n * unit * unit) (100 * unit)).log2 < Number.limitBits := by
    rw [← Number.lt_ceiling_iff] at hb ⊢
    refine lt_of_le_of_lt ?_ hb
    calc Number.roundUnits (n * unit * unit) (100 * unit)
        ≤ Number.roundUnits (n * unit * (100 * unit)) (100 * unit) :=
          Number.roundUnits_mono hden hden
            (Nat.mul_le_mul_right _ (Nat.mul_le_mul_left _ (by omega)))
      _ = n * unit := Number.roundUnits_of_fits hden hf
  rw [Number.literal_eq, hdiv, Number.ofUnits, dif_pos hrange, Number.floor_finite]
  exact ⟨_, _, rfl⟩

theorem five_le_ofText_iff {q : Nat} (hf : Number.Fits (q * unit))
    (hb : (q * unit).log2 < Number.limitBits) :
    Number.le 5 (Number.ofText (Number.finite false (q * unit) hf hb).toText) = true ↔ 5 ≤ q := by
  have hfive : 5 ≤ exactLimit := by decide
  rw [Number.literal_eq]
  rcases Nat.lt_or_ge q exactLimit with hq | hq
  · rw [← Number.ofNat_eq hq.le, Number.ofText_toText_ofNat hq, Number.ofNat_le_ofNat hfive hq.le]
  · have hle := Number.five_le_ofText_toText hf hb (Nat.mul_le_mul_right unit hq)
    exact ⟨fun _ => hfive.trans hq, fun _ => hle⟩

/-- The class of a code begins with a number from five up exactly if the code is that of a server
error. -/
theorem isErrorClass_statusClass (value : Datum) :
    isErrorClass (statusClass value) = isServerError value := by
  have hzero : isErrorClass "0xx" = false := by decide +kernel
  unfold statusClass isServerError
  cases hcode : statusCode? value with
  | none => exact hzero
  | some code =>
    obtain ⟨s, n, hf, hb, rfl⟩ := statusCode?_whole hcode
    dsimp only
    by_cases hlt : (Number.finite s (n * unit) hf hb).lt 100 = true
    · have hle : Number.le 500 (.finite s (n * unit) hf hb) = false := by
        refine Bool.eq_false_iff.mpr fun hle => ?_
        have hbad := Number.lt_of_le_of_lt hle hlt
        rw [Number.literal_eq, Number.literal_eq,
          Number.ofNat_lt_ofNat (by decide) (by decide)] at hbad
        exact absurd hbad (by decide)
      rw [if_pos hlt, hzero, hle]
    · obtain ⟨rfl, hn⟩ := (lt_hundred_iff hf hb).mp (Bool.not_eq_true _ ▸ hlt)
      obtain ⟨hf', hb', hq⟩ := hundreds_eq hf hb
      rw [if_neg hlt, isErrorClass, leadingNumber_append, hq, Bool.eq_iff_iff,
        five_le_ofText_iff, five_le_hundreds_iff, Number.literal_eq, le_finite_iff (by decide)]

section Texts

theorem fits_ten_pow {k : Nat} (h : 5 ^ k < 2 ^ 53) : Number.Fits (10 ^ k * unit) := by
  have hpow : 10 ^ k * unit = 5 ^ k * 2 ^ (k + Number.unitBits) := by
    rw [Number.unit_eq, Nat.pow_add, ← Nat.mul_assoc, ← Nat.mul_pow]
  rw [hpow]
  exact Number.fits_mul_pow h

theorem place_ten_pow {k : Nat} (h : 5 ^ k < 2 ^ 53) :
    (Number.ofNat (10 ^ k)).place = (min (10 ^ k * unit) Number.ceiling : Nat) := by
  have hround := Number.roundUnits_of_fits Nat.one_pos (fits_ten_pow h)
  rw [Nat.mul_one] at hround
  rw [Number.ofNat_def, Number.place_ofUnits, hround, Number.signed, if_neg (by decide)]

theorem lt_of_lt_ten_pow {k units : Nat} (h : 5 ^ k < 2 ^ 53) {hf : Number.Fits units}
    {hb : units.log2 < Number.limitBits}
    (hlt : (Number.finite false units hf hb).lt (Number.ofNat (10 ^ k)) = true) :
    units < 10 ^ k * unit := by
  obtain ⟨-, -, hplace⟩ := (Number.lt_iff _ _).mp hlt
  rw [place_ten_pow h, Number.place, Number.signed, if_neg (by decide), Nat.cast_lt] at hplace
  exact hplace.trans_le (min_le_left _ _)

theorem ten_pow_le_finite {k units : Nat} (h : 5 ^ k < 2 ^ 53) (hf : Number.Fits units)
    (hb : units.log2 < Number.limitBits) (hle : 10 ^ k * unit ≤ units) :
    (Number.ofNat (10 ^ k)).le (.finite false units hf hb) = true := by
  refine (Number.le_iff _ _).mpr ⟨Number.isNaN_ofNat _, rfl, ?_⟩
  rw [place_ten_pow h, Number.place, Number.signed, if_neg (by decide), Nat.cast_le]
  exact (min_le_left _ _).trans hle

theorem hundreds_le {n : Nat} (h : n ≤ 10 ^ 21) : hundreds n ≤ 10 ^ 19 := by
  have hu := unit_pos
  have hden : 0 < 100 * unit := by omega
  have hround := Number.roundUnits_of_fits hden (fits_ten_pow (by decide : 5 ^ 19 < 2 ^ 53))
  have hle : n * unit * unit * (100 * unit) ≤ 10 ^ 19 * unit * (100 * unit) * (100 * unit) := by
    refine Nat.mul_le_mul_right _ ?_
    calc n * unit * unit ≤ 10 ^ 21 * unit * unit :=
          Nat.mul_le_mul_right _ (Nat.mul_le_mul_right _ h)
      _ = 10 ^ 19 * unit * (100 * unit) := by ring
  refine Nat.div_le_of_le_mul ?_
  calc Number.roundUnits (n * unit * unit) (100 * unit)
      ≤ Number.roundUnits (10 ^ 19 * unit * (100 * unit)) (100 * unit) :=
        Number.roundUnits_mono hden hden hle
    _ = unit * 10 ^ 19 := by rw [hround, Nat.mul_comm]

/-- A code from a hundred up is told by its hundreds. -/
theorem statusClass_cases (value : Datum) : statusClass value = "0xx" ∨
    ∃ n hf hb hf' hb', statusCode? value = some (.finite false (n * unit) hf hb) ∧
      statusClass value = (Number.finite false (hundreds n * unit) hf' hb').toText ++ "xx" := by
  unfold statusClass
  cases hcode : statusCode? value with
  | none => exact .inl rfl
  | some code =>
    obtain ⟨s, n, hf, hb, rfl⟩ := statusCode?_whole hcode
    dsimp only
    by_cases hlt : (Number.finite s (n * unit) hf hb).lt 100 = true
    · rw [if_pos hlt]
      exact .inl rfl
    · obtain ⟨rfl, -⟩ := (lt_hundred_iff hf hb).mp (Bool.not_eq_true _ ▸ hlt)
      obtain ⟨hf', hb', hq⟩ := hundreds_eq hf hb
      rw [if_neg hlt, hq]
      exact .inr ⟨n, hf, hb, hf', hb', rfl, rfl⟩

theorem statusClass_eq_append (value : Datum) : ∃ front, statusClass value = front ++ "xx" := by
  rcases statusClass_cases value with he | ⟨n, hf, hb, hf', hb', -, he⟩
  · exact ⟨"0", he⟩
  · exact ⟨_, he⟩

/-- The class of a code below `10 ^ 21` has no character that a name could not have. -/
theorem mem_statusClass {value : Datum}
    (h : ∀ code, statusCode? value = some code → code.lt (Number.ofNat (10 ^ 21)) = true)
    {c : Char} (hc : c ∈ (statusClass value).toList) :
    c = 'x' ∨ (Number.isPlain c = true ∧ c ≠ '+') := by
  rcases statusClass_cases value with he | ⟨n, hf, hb, hf', hb', hcode, he⟩
  · rw [he] at hc
    have hends : c = '0' ∨ c = 'x' := by simpa using hc
    rcases hends with rfl | rfl
    · exact .inr (by decide)
    · exact .inl rfl
  · have hn := Nat.lt_of_mul_lt_mul_right (lt_of_lt_ten_pow (by decide) (h _ hcode))
    have hunits : hundreds n * unit * 2 < 10 ^ 21 * unit := by
      have hle := Nat.mul_le_mul_right unit (hundreds_le hn.le)
      have hu := unit_pos
      omega
    rw [he, String.toList_append, Number.toText, String.toList_ofList, List.mem_append] at hc
    rcases hc with hc | hc
    · refine .inr ⟨Number.isPlain_of_mem_toChars rfl c hc, ?_⟩
      rintro rfl
      exact Number.plus_not_mem_toChars hf' hb' hunits hc
    · exact .inl (by simpa using hc)

end Texts

section Amounts

theorem clampAmount_nonneg (x : Number) :
    (clampAmount x).isFinite = true ∧ (clampAmount x).lt 0 = false := by
  unfold clampAmount
  split
  · rename_i h
    simp only [Bool.and_eq_true, Bool.not_eq_true'] at h
    exact h
  · exact ⟨Number.isFinite_literal (by decide), by decide +kernel⟩

theorem amount_nonneg (value : Datum) :
    (amount value).isFinite = true ∧ (amount value).lt 0 = false := by
  have hzero : (0 : Number).isFinite = true ∧ (0 : Number).lt 0 = false :=
    ⟨Number.isFinite_literal (by decide), by decide +kernel⟩
  cases value with
  | number x => exact clampAmount_nonneg x
  | text s => exact clampAmount_nonneg _
  | absent => exact hzero
  | null => exact hzero
  | flag b => exact hzero
  | list items => exact hzero
  | record members => exact hzero

/-- What a counter can gain at once. -/
structure Gain (x : Number) : Prop where
  finite : x.isFinite = true
  positive : Number.lt 0 x = true

theorem gain_one : Gain 1 := ⟨Number.isFinite_literal (by decide), by decide +kernel⟩

/-- The whole number that a number stands for, zero where there is none. -/
def wholeCount (x : Number) : Nat := (x.toInt?.getD 0).toNat

/-- A whole amount is its count; it may carry a sign only when it is zero. -/
theorem wholeAmount_eq (value : Datum) :
    ∃ s n hf hb, wholeAmount value = .finite s (n * unit) hf hb ∧
      wholeCount (wholeAmount value) = n ∧ (0 < n → s = false) := by
  obtain ⟨hfin, hpos⟩ := amount_nonneg value
  unfold wholeAmount
  generalize amount value = x at hfin hpos
  cases x with
  | nan => cases hfin
  | infinity s => cases hfin
  | finite s u hf hb =>
    have hz : (0 : Nat) ≤ exactLimit := by decide
    rw [Number.literal_eq, Number.not_lt_iff rfl (Number.isNaN_ofNat 0), Number.le_iff,
      Number.place_ofNat hz, Number.place] at hpos
    have hs : 0 < u / unit → s = false := by
      intro hq
      have hu : u ≠ 0 := by
        rintro rfl
        simp at hq
      cases s with
      | false => rfl
      | true =>
        simp [Number.signed] at hpos
        omega
    refine ⟨s, u / unit, _, _, Number.truncate_finite s hf hb, ?_, hs⟩
    rw [Number.truncate_finite, wholeCount, Number.toInt?_finite_mul_unit, Option.getD_some]
    rcases Nat.eq_zero_or_pos (u / unit) with hq | hq
    · simp [hq]
    · rw [hs hq, Number.signed, if_neg (by decide), Int.toNat_natCast]

theorem lt_zero_wholeAmount (value : Datum) :
    Number.lt 0 (wholeAmount value) = true ↔ 0 < wholeCount (wholeAmount value) := by
  obtain ⟨s, n, hf, hb, h, hn, hs⟩ := wholeAmount_eq value
  have hu := unit_pos
  have hz : (0 : Nat) ≤ exactLimit := by decide
  rw [hn, h, Number.literal_eq, Number.lt_iff, Number.place_ofNat hz, Number.place]
  rcases Nat.eq_zero_or_pos n with rfl | hpos
  · simp
  · simp [hs hpos, hpos, hu, Number.signed]

theorem gain_wholeAmount {value : Datum} (h : Number.lt 0 (wholeAmount value) = true) :
    Gain (wholeAmount value) :=
  ⟨(Number.isFinite_truncate _).trans (amount_nonneg value).1, h⟩

theorem wholeAmount_eq_ofNat {value : Datum} (hpos : 0 < wholeCount (wholeAmount value))
    (h : wholeCount (wholeAmount value) ≤ exactLimit) :
    wholeAmount value = Number.ofNat (wholeCount (wholeAmount value)) := by
  obtain ⟨s, n, hf, hb, he, hn, hs⟩ := wholeAmount_eq value
  rw [hn] at h hpos ⊢
  rw [he, Number.ofNat_eq h, hs hpos]

theorem wholeCount_ofNat {n : Nat} (h : n ≤ exactLimit) : wholeCount (Number.ofNat n) = n := by
  rw [wholeCount, Number.ofNat_eq h, Number.toInt?_finite_mul_unit, Option.getD_some,
    Number.signed, if_neg Bool.false_ne_true, Int.toNat_natCast]

end Amounts

end Telemetry.Metric
