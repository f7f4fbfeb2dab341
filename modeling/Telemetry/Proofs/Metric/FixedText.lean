import Telemetry.Proofs.Metric.ValueText
import Telemetry.Proofs.Number.Value

/-! # The canonical text of a rounded value

Below `10 ^ 21` the text of a value is the one canonical decimal of the value rounded to millionths:
a sign only below zero, no zero too many at the front or behind the point, and a point only before a
fraction. Read exactly, it keeps the order of the values.
-/
namespace Telemetry.Metric
open Telemetry.Number (unit unit_pos digitsValue roundAway)

attribute [local irreducible] Number.unit Number.unitBits

section Canonical

/-- The value of digits around a point. -/
def pointedValue (whole fraction : List Char) : ℚ :=
  digitsValue 10 (whole ++ fraction) / 10 ^ fraction.length

/-- A text spells a rational in canonical form: a minus sign below zero, at least one digit before
the point and no zero too many, and behind it digits that do not end in zero; without a fraction
there is no point. -/
structure Spells (q : ℚ) (whole fraction cs : List Char) : Prop where
  text : cs = (if q < 0 then ['-'] else []) ++ (whole ++ afterPoint fraction)
  digits : ∀ c ∈ whole ++ fraction, c.isDigit = true
  begins : whole ≠ []
  front : whole.head? = some '0' → whole = ['0']
  back : fraction.getLast? ≠ some '0'
  value : |q| = pointedValue whole fraction

def IsCanonical (q : ℚ) (cs : List Char) : Prop := ∃ whole fraction, Spells q whole fraction cs

variable {q : ℚ} {whole fraction cs w f ds : List Char}

theorem Spells.whole_digits (h : Spells q whole fraction cs) : ∀ c ∈ whole, c.isDigit = true :=
  fun c hc => h.digits c (List.mem_append_left _ hc)

theorem Spells.fraction_digits (h : Spells q whole fraction cs) :
    ∀ c ∈ fraction, c.isDigit = true := fun c hc => h.digits c (List.mem_append_right _ hc)

theorem Spells.not_dvd (h : Spells q whole fraction cs) (hne : fraction ≠ []) :
    ¬ 10 ∣ digitsValue 10 (whole ++ fraction) := by
  obtain ⟨before, c, rfl⟩ := (List.eq_nil_or_concat fraction).resolve_left hne
  have hc : c.isDigit = true := h.fraction_digits c (by simp)
  obtain ⟨hchar, hlt⟩ := Number.digitChar_of_isDigit hc
  have hback := h.back
  rw [List.concat_eq_append] at hback ⊢
  rw [List.getLast?_concat] at hback
  rw [← List.append_assoc, Number.digitsValue_concat _ hc]
  intro hdvd
  have hzero : c.toNat - 48 = 0 := by omega
  rw [hzero] at hchar
  exact hback (congrArg some hchar.symm)

/-- The digits around the point are those of the value at this precision. -/
theorem Spells.cross (h : Spells q whole fraction cs) (h' : Spells q w f ds) :
    digitsValue 10 (whole ++ fraction) * 10 ^ f.length =
      digitsValue 10 (w ++ f) * 10 ^ fraction.length := by
  have hvalue := h.value.symm.trans h'.value
  rw [pointedValue, pointedValue, div_eq_div_iff (by positivity) (by positivity)] at hvalue
  exact_mod_cast hvalue

theorem Spells.length_le (h : Spells q whole fraction cs) {w f ds : List Char}
    (h' : Spells q w f ds) : fraction.length ≤ f.length := by
  by_contra hlt
  obtain ⟨k, hk⟩ := Nat.exists_eq_add_of_lt (Nat.not_le.mp hlt)
  have hcross := h.cross h'
  have hne : fraction ≠ [] := by
    rintro rfl
    simp at hk
  rw [hk, Nat.add_assoc, pow_add, ← Nat.mul_assoc, Nat.mul_right_comm] at hcross
  have hdigits := Nat.eq_of_mul_eq_mul_right (by positivity) hcross
  exact h.not_dvd hne (hdigits ▸ Dvd.dvd.mul_left (dvd_pow_self 10 (Nat.succ_ne_zero k)) _)

/-- There is one canonical text for a rational. -/
theorem Spells.unique (h : Spells q whole fraction cs) (h' : Spells q w f ds) :
    ds = cs := by
  have hlength := Nat.le_antisymm (h.length_le h') (h'.length_le h)
  have hcross := h.cross h'
  rw [← hlength] at hcross
  have hdigits := Nat.eq_of_mul_eq_mul_right (by positivity) hcross
  rw [Number.digitsValue_append, Number.digitsValue_append, ← hlength, Nat.mul_comm,
    Nat.mul_comm (digitsValue 10 w)] at hdigits
  have hlow := Number.digitsValue_lt h.fraction_digits
  have hlow' := Number.digitsValue_lt h'.fraction_digits
  rw [← hlength] at hlow'
  have hdiv := congrArg (· / 10 ^ fraction.length) hdigits
  simp only [Nat.mul_add_div (Nat.pow_pos (by decide : 0 < 10)), Nat.div_eq_of_lt hlow,
    Nat.div_eq_of_lt hlow', Nat.add_zero] at hdiv
  rw [hdiv] at hdigits
  have hfraction := Number.digits_inj h.fraction_digits h'.fraction_digits hlength
    (Nat.add_left_cancel hdigits)
  have hwhole : whole = w := by
    rw [← Number.toDigits_digitsValue h.whole_digits h.begins h.front, hdiv,
      Number.toDigits_digitsValue h'.whole_digits h'.begins h'.front]
  rw [h.text, h'.text, hwhole, hfraction]

/-- Only whole numbers are spelled without a fraction. -/
theorem Spells.fraction_eq_nil_iff (h : Spells q whole fraction cs) :
    fraction = [] ↔ ∃ n : ℤ, q = n := by
  have hvalue := h.value
  rw [pointedValue] at hvalue
  constructor
  · rintro rfl
    rw [List.append_nil, List.length_nil, pow_zero, div_one] at hvalue
    rcases abs_choice q with hq | hq
    · exact ⟨digitsValue 10 whole, hq.symm.trans hvalue⟩
    · refine ⟨-digitsValue 10 whole, ?_⟩
      push_cast
      linarith
  · rintro ⟨n, rfl⟩
    rw [← Int.cast_abs, Int.abs_eq_natAbs, Int.cast_natCast, eq_div_iff (by positivity)] at hvalue
    by_contra hne
    have hdigits : n.natAbs * 10 ^ fraction.length = digitsValue 10 (whole ++ fraction) := by
      exact_mod_cast hvalue
    have hlength : fraction.length ≠ 0 := fun hz => hne (List.length_eq_zero_iff.mp hz)
    exact h.not_dvd hne (hdigits ▸ Dvd.dvd.mul_left (dvd_pow_self 10 hlength) _)

end Canonical

section Reading

/-- Digits, or digits on both sides of a point, read exactly. -/
def magnitude? (cs : List Char) : Option ℚ :=
  let whole := cs.takeWhile Char.isDigit
  match cs.dropWhile Char.isDigit with
  | [] => if whole = [] then none else some (pointedValue whole [])
  | '.' :: fraction =>
    if whole = [] ∨ fraction = [] ∨ fraction.all Char.isDigit = false then none
    else some (pointedValue whole fraction)
  | _ => none

/-- A decimal with an optional sign, read exactly. -/
def decimalValue? : List Char → Option ℚ
  | '-' :: cs => (magnitude? cs).map fun q => -q
  | cs => magnitude? cs

variable {q : ℚ} {whole fraction cs : List Char}

theorem magnitude?_afterPoint (hwhole : ∀ c ∈ whole, c.isDigit = true) (hne : whole ≠ [])
    (hfraction : ∀ c ∈ fraction, c.isDigit = true) :
    magnitude? (whole ++ afterPoint fraction) = some (pointedValue whole fraction) := by
  have hpoint : ∀ c ∈ (afterPoint fraction).head?, c.isDigit = false := by
    intro c hc
    unfold afterPoint at hc
    split at hc
    · cases hc
    · cases hc
      decide
  unfold magnitude?
  rw [Number.takeWhile_digits hwhole hpoint, Number.dropWhile_digits hwhole hpoint]
  cases fraction with
  | nil => exact if_neg hne
  | cons c rest =>
    have hall : (c :: rest).all Char.isDigit = true := List.all_eq_true.mpr hfraction
    refine if_neg ?_
    rintro (hw | hf | hd)
    · exact hne hw
    · cases hf
    · rw [hall] at hd
      cases hd

theorem Spells.decimalValue? (h : Spells q whole fraction cs) : decimalValue? cs = some q := by
  have hread := magnitude?_afterPoint h.whole_digits h.begins h.fraction_digits
  rw [← h.value] at hread
  rw [h.text]
  split
  · rename_i hneg
    rw [List.singleton_append, Metric.decimalValue?, hread, Option.map_some, abs_of_neg hneg,
      neg_neg]
  · rename_i hpos
    rw [abs_of_nonneg (not_lt.mp hpos)] at hread
    obtain ⟨c, rest, hcs⟩ := List.exists_cons_of_ne_nil h.begins
    have hc : c ≠ '-' := by
      rintro rfl
      exact absurd (h.whole_digits '-' (hcs ▸ List.mem_cons_self)) (by decide)
    rw [List.nil_append]
    rw [hcs, List.cons_append] at hread ⊢
    rw [Metric.decimalValue?, hread]
    intro more heq
    exact hc (List.cons.inj heq).1

theorem spells_zero : Spells 0 ['0'] [] ['0'] where
  text := by rw [if_neg (lt_irrefl 0)]; rfl
  digits := List.forall_mem_singleton.mpr rfl
  begins := List.cons_ne_nil _ _
  front := fun _ => rfl
  back := by decide
  value := by
    have hzero : digitsValue 10 ['0'] = 0 := by decide
    rw [pointedValue, List.append_nil, hzero, Nat.cast_zero, zero_div, abs_zero]

theorem Spells.ends (h : Spells q whole fraction cs) : cs.getLast? ≠ some '.' := by
  intro hlast
  have hdigit : ('.').isDigit = false := by decide
  rw [h.text] at hlast
  rcases List.eq_nil_or_concat fraction with rfl | ⟨before, c, rfl⟩
  · have hnone : afterPoint [] = [] := rfl
    rw [hnone, List.append_nil, List.getLast?_append_of_ne_nil _ h.begins] at hlast
    rw [h.whole_digits '.' (List.mem_of_getLast? hlast)] at hdigit
    cases hdigit
  · have hne : before.concat c ≠ [] := by simp
    have hsome : afterPoint (before.concat c) = '.' :: before.concat c := if_neg hne
    rw [hsome, List.append_cons, ← List.append_assoc, List.getLast?_append_of_ne_nil _ hne] at hlast
    rw [h.fraction_digits '.' (List.mem_of_getLast? hlast)] at hdigit
    cases hdigit

theorem Spells.ne_nil (h : Spells q whole fraction cs) : cs ≠ [] := by
  rw [h.text]
  simp [h.begins]

/-- Zero has no sign. -/
theorem Spells.ne_minus_zero (h : Spells q whole fraction cs) : cs ≠ ['-', '0'] := by
  rintro rfl
  have hread : Metric.decimalValue? ['-', '0'] = some 0 := by decide +kernel
  obtain rfl : q = 0 := Option.some.inj (h.decimalValue?.symm.trans hread)
  exact absurd (spells_zero.unique h) (by decide)

end Reading

section Values

/-- A whole number with decimals is spelled by its text without the zeros at the end. -/
theorem spells_pointed {q : ℚ} {n places : Nat} (hp : 0 < places) (hq : |q| = n / 10 ^ places) :
    ∃ whole fraction, fraction.length ≤ places ∧
      Spells q whole fraction ((if q < 0 then ['-'] else []) ++ (whole ++ afterPoint fraction)) ∧
      ∀ sign, stripZeros (sign ++ Number.pointed n places) =
        sign ++ (whole ++ afterPoint fraction) := by
  obtain ⟨front, k, hlength, hfront, hlast, hvalue, hstrip⟩ := exists_stripped n hp
  refine ⟨Nat.toDigits 10 (n / 10 ^ places), front, by omega, ?_, hstrip⟩
  refine ⟨rfl, ?_, Nat.toDigits_ne_nil, ?_, hlast, ?_⟩
  · intro c hc
    exact (List.mem_append.mp hc).elim Number.isDigit_of_mem (hfront c)
  · rcases Nat.eq_zero_or_pos (n / 10 ^ places) with hzero | hpos
    · rw [hzero, Nat.toDigits_zero]
      exact fun _ => rfl
    · exact fun hhead => absurd hhead (Number.head?_toDigits hpos)
  · have hn : (n : ℚ) = digitsValue 10 (Nat.toDigits 10 (n / 10 ^ places) ++ front) * 10 ^ k := by
      exact_mod_cast hvalue.symm
    rw [hq, pointedValue, hn, ← hlength, div_eq_div_iff (by positivity) (by positivity)]
    ring

variable {units : Nat} (hf : Number.Fits units) (hb : units.log2 < Number.limitBits)

theorem toFixedChars_of_lt (s : Bool) (h : units < 10 ^ 21 * unit) :
    (Number.finite s units hf hb).toFixedChars 6 =
      (if s && units != 0 then ['-'] else []) ++ Number.pointed (millionths units) 6 := by
  rw [Number.toFixedChars, Nat.pow_eq, if_neg (Nat.not_le.mpr h), Nat.pow_eq, millionths]

theorem millionths_zero : millionths 0 = 0 := by
  rw [millionths, Number.nearestUp, Nat.zero_mul]
  exact Nat.div_eq_of_lt (by have := unit_pos; omega)

/-- Below `10 ^ 21` a value is written as its millionths. -/
theorem spells_valueText (s : Bool) (h : units < 10 ^ 21 * unit) :
    ∃ whole fraction, fraction.length ≤ 6 ∧
      Spells (Number.signed s (millionths units) / 10 ^ 6) whole fraction
        (valueText (.finite s units hf hb)).toList := by
  generalize hq : (Number.signed s (millionths units) : ℚ) / 10 ^ 6 = q
  have habs : |q| = millionths units / 10 ^ 6 := by
    rw [← hq, abs_div, Number.abs_signed, abs_of_pos (by positivity : (0 : ℚ) < 10 ^ 6)]
  obtain ⟨whole, fraction, hlength, hspells, hstrip⟩ := spells_pointed (by decide : 0 < 6) habs
  refine ⟨whole, fraction, hlength, ?_⟩
  rw [valueText, Number.isFinite, if_pos rfl, toFixedChars_of_lt hf hb s h]
  dsimp only
  rw [hstrip]
  rcases Nat.eq_zero_or_pos (millionths units) with hzero | hpos
  · -- Whatever is rounded to zero is written `0`, also from below.
    have hnull : q = 0 := by rwa [hzero, Nat.cast_zero, zero_div, abs_eq_zero] at habs
    rw [hnull, if_neg (lt_irrefl 0), List.nil_append] at hspells
    have htext : whole ++ afterPoint fraction = ['0'] := spells_zero.unique hspells
    rw [htext] at hspells ⊢
    have hshown : (if (if s && units != 0 then ['-'] else []) ++ ['0'] = [] ∨
        (if s && units != 0 then ['-'] else []) ++ ['0'] = ['-', '0'] then "0"
        else String.ofList ((if s && units != 0 then ['-'] else []) ++ ['0'])).toList = ['0'] := by
      cases s && units != 0 <;> decide
    rw [hshown, hnull]
    exact hspells
  · have hunits : units ≠ 0 := by
      rintro rfl
      rw [millionths_zero] at hpos
      exact absurd hpos (lt_irrefl 0)
    have hsign : (if s && units != 0 then ['-'] else []) = if q < 0 then ['-'] else [] := by
      have hmillionths : (0 : ℚ) < millionths units := Nat.cast_pos.mpr hpos
      rw [← hq]
      cases s with
      | false =>
        rw [if_neg (by simp), if_neg]
        simp only [Number.signed, Bool.false_eq_true, if_false]
        exact not_lt.mpr (by positivity)
      | true =>
        rw [if_pos (by simpa using hunits), if_pos]
        simp only [Number.signed, if_true, Int.cast_neg, neg_div]
        exact neg_lt_zero.mpr (by positivity)
    rw [hsign, if_neg, String.toList_ofList]
    · exact hspells
    · rintro (hnil | hminus)
      · exact hspells.begins (by simp at hnil; exact hnil.2.1)
      · exact hspells.ne_minus_zero hminus

/-- What the text of a value tells: the value rounded to millionths. -/
def shownValue (x : Number) : ℚ := roundAway (x.value * 10 ^ 6) / 10 ^ 6

variable {x y : Number}

theorem spells_shownValue (hfin : x.isFinite = true) (hsmall : |x.value| < 10 ^ 21) :
    ∃ whole fraction, fraction.length ≤ 6 ∧
      Spells (shownValue x) whole fraction (valueText x).toList := by
  cases x with
  | nan => cases hfin
  | infinity s => cases hfin
  | finite s units hf hb =>
    have hround := Number.roundAway_value s hf hb (10 ^ 6)
    have hunits := (Number.abs_value_lt_iff s (n := 10 ^ 21) hf hb).mp (by push_cast; exact hsmall)
    rw [Nat.cast_pow, Nat.cast_ofNat] at hround
    rw [shownValue, hround]
    exact spells_valueText hf hb s hunits

theorem abs_shownValue_sub_le (x : Number) : |shownValue x - x.value| ≤ 1 / 2000000 := by
  have herror := Number.abs_roundAway_sub_le (x.value * 10 ^ 6)
  have hscale : shownValue x - x.value =
      (roundAway (x.value * 10 ^ 6) - x.value * 10 ^ 6) / 10 ^ 6 := by
    rw [shownValue]
    ring
  rw [hscale, abs_div, abs_of_pos (by positivity : (0 : ℚ) < 10 ^ 6), div_le_iff₀ (by positivity)]
  linarith

theorem shownValue_mono (hx : x.isFinite = true) (hy : y.isFinite = true) (h : x.le y = true) :
    shownValue x ≤ shownValue y := by
  have hvalue := (Number.le_iff_value hx hy).mp h
  have hround := Number.roundAway_mono (mul_le_mul_of_nonneg_right hvalue
    (by positivity : (0 : ℚ) ≤ 10 ^ 6))
  exact div_le_div_of_nonneg_right (by exact_mod_cast hround) (by positivity)

end Values

/-- Below `10 ^ 21` the text of a value is the one canonical decimal of the value rounded to
millionths, a tie away from zero. It has at most six decimals, and none exactly if the rounded value
is whole; it is not empty, no `-0`, and ends in no point. Read exactly it is off by at most half a
millionth, and it is no larger than the text of a larger value. -/
theorem valueText_is_canonical (x : Number) (hfin : x.isFinite = true)
    (hsmall : |x.value| < 10 ^ 21) :
    let shown : ℚ := roundAway (x.value * 10 ^ 6) / 10 ^ 6
    let text := (valueText x).toList
    (∀ cs, IsCanonical shown cs ↔ cs = text) ∧
    (∃ whole fraction, Spells shown whole fraction text ∧ fraction.length ≤ 6 ∧
      (fraction = [] ↔ ∃ n : ℤ, shown = n)) ∧
    (text ≠ [] ∧ text ≠ ['-', '0'] ∧ text.getLast? ≠ some '.') ∧
    (decimalValue? text = some shown ∧ |shown - x.value| ≤ 1 / 2000000) ∧
    ∀ y : Number, y.isFinite = true → |y.value| < 10 ^ 21 → x.le y = true →
      ∃ larger, decimalValue? (valueText y).toList = some larger ∧ shown ≤ larger := by
  intro shown text
  obtain ⟨whole, fraction, hlength, hspells⟩ := spells_shownValue hfin hsmall
  refine ⟨fun cs => ⟨?_, ?_⟩, ⟨whole, fraction, hspells, hlength, hspells.fraction_eq_nil_iff⟩,
    ⟨hspells.ne_nil, hspells.ne_minus_zero, hspells.ends⟩,
    ⟨hspells.decimalValue?, abs_shownValue_sub_le x⟩, fun y hy hbound hle => ?_⟩
  · rintro ⟨_, _, hother⟩
    exact hspells.unique hother
  · rintro rfl
    exact ⟨whole, fraction, hspells⟩
  · obtain ⟨_, _, -, hlarger⟩ := spells_shownValue hy hbound
    exact ⟨shownValue y, hlarger.decimalValue?, shownValue_mono hfin hy hle⟩

/-- `-1 / 128` lies halfway between two texts of six decimals. -/
theorem valueText_is_canonical_of_tie :
    let x := Number.ofText "-0.0078125"
    x.value = -1 / 128 ∧
    (∀ cs, IsCanonical (roundAway (x.value * 10 ^ 6) / 10 ^ 6) cs ↔ cs = "-0.007813".toList) ∧
    decimalValue? "-0.007813".toList = some (roundAway (x.value * 10 ^ 6) / 10 ^ 6 : ℚ) := by
  intro x
  have hunits : (x.toUnits : ℤ) * 128 = -(unit : ℤ) := by decide +kernel
  have hvalue : x.value = -1 / 128 := by
    have hcast : (x.toUnits : ℚ) * 128 = -(unit : ℚ) := by exact_mod_cast hunits
    rw [Number.value, div_eq_iff Number.unit_cast_pos.ne']
    linarith
  have htext : valueText x = "-0.007813" := by decide +kernel
  have hsmall : |x.value| < 10 ^ 21 := by
    rw [hvalue]
    norm_num [abs_div]
  obtain ⟨hcanonical, -, -, ⟨hread, -⟩, -⟩ :=
    valueText_is_canonical x (by decide +kernel) hsmall
  rw [htext] at hcanonical hread
  exact ⟨hvalue, hcanonical, hread⟩

end Telemetry.Metric
