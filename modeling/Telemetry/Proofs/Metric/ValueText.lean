import Mathlib.Data.Nat.Factorization.Basic
import Telemetry.Metric.Exposition
import Telemetry.Proofs.Metric.Amount
import Telemetry.Proofs.Number.RoundTrip

/-! # The numbers that texts show

What a reader makes of the text of a total keeps the order of totals. A text with six decimals is
read as the nearest millionths. From `10 ^ 21` up the text has an exponent, and dropping zeros at
its end makes the exponent smaller.
-/
namespace Telemetry.Metric
open Telemetry.Number (unit unit_pos isPlain)

attribute [local irreducible] Number.unit Number.unitBits

section Zeros

/-- Every text ends in a number of zeros. -/
theorem exists_append_zeros (cs : List Char) :
    ∃ front k, cs = front ++ List.replicate k '0' ∧ front.getLast? ≠ some '0' := by
  induction cs using List.reverseRecOn with
  | nil => exact ⟨[], 0, rfl, by simp⟩
  | append_singleton before c ih =>
    by_cases hc : c = '0'
    · obtain ⟨front, k, rfl, hlast⟩ := ih
      refine ⟨front, k + 1, ?_, hlast⟩
      rw [hc, List.append_assoc, ← List.replicate_succ']
    · refine ⟨before ++ [c], 0, by simp, ?_⟩
      simpa using hc

theorem dropEndWhile_append_zeros {front : List Char} (k : Nat)
    (h : front.getLast? ≠ some '0') :
    Text.dropEndWhile (· == '0') (front ++ List.replicate k '0') = front := by
  have hkeep : ∀ c ∈ front.getLast?, (c == '0') = false := by
    intro c hc
    rw [beq_eq_false_iff_ne]
    rintro rfl
    exact h hc
  rw [Text.dropEndWhile_append (by simp), Text.dropEndWhile_eq_self hkeep]

theorem stripZeros_append_zeros {front : List Char} (k : Nat) (h : front.getLast? ≠ some '0')
    (hpoint : front.getLast? ≠ some '.') :
    stripZeros (front ++ List.replicate k '0') = front := by
  unfold stripZeros
  rw [dropEndWhile_append_zeros k h, if_neg hpoint]

theorem stripZeros_point (front : List Char) (k : Nat) :
    stripZeros (front ++ '.' :: List.replicate k '0') = front := by
  have hlast : (front ++ ['.']).getLast? = some '.' := List.getLast?_concat
  have hzero : (front ++ ['.']).getLast? ≠ some '0' := by
    rw [hlast]
    decide
  have hdrop := dropEndWhile_append_zeros k hzero
  rw [List.append_assoc, List.singleton_append] at hdrop
  unfold stripZeros
  rw [hdrop, if_pos hlast, List.dropLast_concat]

end Zeros

section Positional

/-- A point only where a decimal follows. -/
def afterPoint (front : List Char) : List Char := if front = [] then [] else '.' :: front

theorem decimal?_afterPoint {whole front : List Char} (hwhole : ∀ c ∈ whole, c.isDigit = true)
    (hfront : ∀ c ∈ front, c.isDigit = true) (hne : whole ≠ []) :
    Number.decimal? false (whole ++ afterPoint front) =
      some (Number.ofDecimal false (Number.digitsValue 10 (whole ++ front))
        (-(front.length : Int))) := by
  unfold afterPoint
  split
  · rename_i hnil
    have hread := Number.decimal?_plain false hwhole hne Number.isExponentPart_nil
    rw [hread, hnil, List.append_nil]
    rfl
  · have hread := Number.decimal?_point false hwhole hfront hne Number.isExponentPart_nil
    rw [List.append_nil] at hread
    rw [hread, Number.exponent?, Option.map_some, Int.zero_sub]

theorem isPlain_afterPoint {front : List Char} (h : ∀ c ∈ front, c.isDigit = true) :
    ∀ c ∈ afterPoint front, isPlain c = true := by
  intro c hc
  unfold afterPoint at hc
  split at hc
  · cases hc
  · rcases List.mem_cons.mp hc with rfl | hc
    · decide
    · exact Number.isPlain_of_isDigit (h c hc)

theorem stripZeros_fraction (whole : List Char) {front : List Char} (k : Nat)
    (hfront : ∀ c ∈ front, c.isDigit = true) (hlast : front.getLast? ≠ some '0') :
    stripZeros (whole ++ '.' :: (front ++ List.replicate k '0')) = whole ++ afterPoint front := by
  unfold afterPoint
  split
  · rename_i hnil
    rw [hnil, List.nil_append, List.append_nil]
    exact stripZeros_point whole k
  · rename_i hne
    have hend : (whole ++ '.' :: front).getLast? = front.getLast? := by
      rw [List.append_cons, List.getLast?_append_of_ne_nil _ hne]
    have hpoint : front.getLast? ≠ some '.' := by
      intro hp
      exact absurd (hfront '.' (List.mem_of_getLast? hp)) (by decide)
    rw [← List.cons_append, ← List.append_assoc]
    exact stripZeros_append_zeros k (by rwa [hend]) (by rwa [hend])

/-- What is left of a positional text without its last zeros: the digits in front of the point, and
behind it those of the fraction up to the last one that is not zero. -/
theorem exists_stripped (n : Nat) {places : Nat} (hp : 0 < places) :
    ∃ front k, front.length + k = places ∧ (∀ c ∈ front, c.isDigit = true) ∧
      front.getLast? ≠ some '0' ∧
      Number.digitsValue 10 (Nat.toDigits 10 (n / 10 ^ places) ++ front) * 10 ^ k = n ∧
      ∀ sign, stripZeros (sign ++ Number.pointed n places) =
        sign ++ (Nat.toDigits 10 (n / 10 ^ places) ++ afterPoint front) := by
  obtain ⟨front, k, hzeros, hlast⟩ := exists_append_zeros (Number.fractionDigits n places)
  have hdigit : ∀ c ∈ Number.fractionDigits n places, c.isDigit = true :=
    Number.isDigit_of_mem_fractionDigits
  have hvalue := Number.digitsValue_pointed n hp
  have hlength := Number.length_fractionDigits n hp
  have htext : Number.pointed n places =
      Nat.toDigits 10 (n / 10 ^ places) ++ '.' :: Number.fractionDigits n places := rfl
  rw [hzeros] at hdigit hvalue hlength htext
  rw [← List.append_assoc, Number.digitsValue_append_zeros] at hvalue
  rw [List.length_append, List.length_replicate] at hlength
  have hfront : ∀ c ∈ front, c.isDigit = true := fun c hc => hdigit c (List.mem_append_left _ hc)
  refine ⟨front, k, hlength, hfront, hlast, hvalue, fun sign => ?_⟩
  rw [htext, ← List.append_assoc, stripZeros_fraction _ k hfront hlast, List.append_assoc]

/-- A positional text without its last zeros begins with a digit and is read as the fraction. -/
theorem ofText_stripZeros_pointed {n places : Nat} (hp : 0 < places) (hle : places ≤ 200)
    (hn : n < 10 ^ 200) :
    (∃ c ∈ (stripZeros (Number.pointed n places)).head?, c.isDigit = true) ∧
      Number.ofText (String.ofList (stripZeros (Number.pointed n places))) =
        Number.ofRatio false n (10 ^ places) := by
  obtain ⟨front, k, hlength, hfront, -, hvalue, hstrip⟩ := exists_stripped n hp
  have hall := hstrip []
  rw [List.nil_append, List.nil_append] at hall
  have hwhole : ∀ c ∈ Nat.toDigits 10 (n / 10 ^ places), c.isDigit = true :=
    fun _ => Number.isDigit_of_mem
  have hne : Nat.toDigits 10 (n / 10 ^ places) ≠ [] := Nat.toDigits_ne_nil
  generalize Nat.toDigits 10 (n / 10 ^ places) = whole at hvalue hall hwhole hne
  have hsmall : Number.digitsValue 10 (whole ++ front) < 10 ^ 200 :=
    Nat.lt_of_le_of_lt (hvalue ▸ Nat.le_mul_of_pos_right _ (by positivity)) hn
  have hread := Number.ofDecimal_eq_ofRatio k hsmall (by omega : front.length ≤ 200)
  rw [hvalue, hlength] at hread
  have hdecimal := decimal?_afterPoint hwhole hfront hne
  obtain ⟨c, more, rfl⟩ := List.exists_cons_of_ne_nil hne
  have hc : c.isDigit = true := hwhole c List.mem_cons_self
  have hrest : ∀ d ∈ more ++ afterPoint front, isPlain d = true := by
    intro d hd
    rcases List.mem_append.mp hd with hd | hd
    · exact Number.isPlain_of_isDigit (hwhole d (List.mem_cons_of_mem _ hd))
    · exact isPlain_afterPoint hfront d hd
  rw [hall]
  refine ⟨⟨c, rfl, hc⟩, ?_⟩
  rw [List.cons_append] at hdecimal ⊢
  rw [Number.ofText_ofList hc hrest, hdecimal, Option.getD_some, hread]

end Positional

section Values

variable {units : Nat} (hf : Number.Fits units) (hb : units.log2 < Number.limitBits)

/-- The whole millionths that the text of a number below `10 ^ 21` shows. -/
def millionths (units : Nat) : Nat := Number.nearestUp (units * 10 ^ 6) unit

theorem nearestUp_le {n : Nat} (p : Nat) (h : units ≤ n * unit) :
    Number.nearestUp (units * p) unit ≤ n * p := by
  have hu := unit_pos
  have hle : units * p ≤ n * p * unit := by
    calc units * p ≤ n * unit * p := Nat.mul_le_mul_right _ h
      _ = n * p * unit := by ring
  refine Nat.lt_succ_iff.mp ((Nat.div_lt_iff_lt_mul (by omega)).mpr ?_)
  have hsucc : (n * p).succ * (2 * unit) = 2 * (n * p * unit) + 2 * unit := by
    rw [Nat.succ_eq_add_one]
    ring
  rw [hsucc]
  omega

theorem millionths_le {n : Nat} (h : units ≤ n * unit) : millionths units ≤ n * 10 ^ 6 :=
  nearestUp_le (10 ^ 6) h

theorem valueText_of_lt (h : units < 10 ^ 21 * unit) :
    Number.ofText (valueText (.finite false units hf hb)) =
      Number.ofRatio false (millionths units) (10 ^ 6) := by
  have hle := (millionths_le h.le).trans_lt (by decide : 10 ^ 21 * 10 ^ 6 < 10 ^ 200)
  obtain ⟨⟨c, hhead, hc⟩, hread⟩ :=
    ofText_stripZeros_pointed (by decide : 0 < 6) (by decide) hle
  have htext : (Number.finite false units hf hb).toFixedChars 6 =
      Number.pointed (millionths units) 6 := by
    rw [Number.toFixedChars, Nat.pow_eq, if_neg (Nat.not_le.mpr h), Nat.pow_eq, Bool.false_and,
      if_neg Bool.false_ne_true, List.nil_append, millionths]
  rw [valueText, Number.isFinite, if_pos rfl]
  dsimp only
  rw [htext, if_neg, hread]
  rintro (hnil | hzero)
  · rw [hnil] at hhead
    cases hhead
  · rw [hzero] at hhead
    cases hhead
    exact absurd hc (by decide)

end Values

section Exponential

theorem shortest_ten_pow : Number.shortest (10 ^ 21 * unit) = ⟨1, 21⟩ := by
  unfold Number.unit
  decide +kernel

/-- Above a power of ten the point lies right of where the power has it. -/
theorem lt_point_of_lt {k units : Nat} (hk : 5 ^ k < 2 ^ 53) (hf : Number.Fits units)
    (h : 10 ^ k * unit < units) :
    (k : Int) < ((Nat.toDigits 10 (Number.shortest units).digits).length : Int) +
      (Number.shortest units).exponent := by
  have hround := Number.roundUnits_shortest (by omega) hf
  generalize Number.shortest units = d at hround ⊢
  by_contra hpoint
  -- A decimal with the point further left would be at most the power.
  have hdigits : d.digits * 10 ^ d.exponent.toNat ≤ 10 ^ k * 10 ^ (-d.exponent).toNat := by
    calc d.digits * 10 ^ d.exponent.toNat
        ≤ 10 ^ (Nat.toDigits 10 d.digits).length * 10 ^ d.exponent.toNat :=
          Nat.mul_le_mul_right _ (Number.lt_ten_pow_length _).le
      _ = 10 ^ ((Nat.toDigits 10 d.digits).length + d.exponent.toNat) := (Nat.pow_add _ _ _).symm
      _ ≤ 10 ^ (k + (-d.exponent).toNat) := Nat.pow_le_pow_right (by decide) (by omega)
      _ = 10 ^ k * 10 ^ (-d.exponent).toNat := Nat.pow_add _ _ _
  have hle := Number.roundUnits_mono (by positivity : 0 < 10 ^ (-d.exponent).toNat) Nat.one_pos
    (show d.digits * 10 ^ d.exponent.toNat * unit * 1 ≤
      10 ^ k * unit * 1 * 10 ^ (-d.exponent).toNat by nlinarith)
  rw [hround, Number.roundUnits_of_fits Nat.one_pos (fits_ten_pow hk)] at hle
  omega

/-- From `10 ^ 21` up the point lies where an exponent is written. -/
theorem lt_point_shortest {units : Nat} (hf : Number.Fits units) (h : 10 ^ 21 * unit ≤ units) :
    21 < ((Nat.toDigits 10 (Number.shortest units).digits).length : Int) +
      (Number.shortest units).exponent := by
  rcases Nat.eq_or_lt_of_le h with rfl | hlt
  · rw [shortest_ten_pow]
    decide
  · exact lt_point_of_lt (k := 21) (by decide) hf hlt

/-- From one up no exponent is negative. -/
theorem minus_not_mem_magnitudeText {units : Nat} (hf : Number.Fits units) (h : unit ≤ units) :
    '-' ∉ Number.magnitudeText units := by
  have hunit := unit_pos
  intro hc
  unfold Number.magnitudeText at hc
  split at hc
  · exact absurd (Number.isDigit_of_mem hc) (by decide)
  · rename_i hlarge
    have hne : unit ≠ units := by
      rintro rfl
      exact hlarge ⟨Nat.mod_self _, by rw [Nat.div_self hunit]; exact Nat.one_lt_two_pow (by decide)⟩
    have hpoint := lt_point_of_lt (k := 0) (by decide) hf (by omega)
    rcases Number.mem_layout hc with hd | hd | hd | ⟨-, hleft⟩ | ⟨hd, -⟩
    · exact absurd hd (by decide)
    · exact absurd hd (by decide)
    · exact absurd hd (by decide)
    · omega
    · exact absurd hd (by decide)

theorem layout_of_point {d : Decimal} {p : Nat}
    (hp : ((Nat.toDigits 10 d.digits).length : Int) + d.exponent = p + 1) (h : 21 ≤ p) :
    d.layout = (Nat.toDigits 10 d.digits).take 1 ++
      (if (Nat.toDigits 10 d.digits).length = 1 then []
        else '.' :: (Nat.toDigits 10 d.digits).drop 1) ++ 'e' :: '+' :: Nat.toDigits 10 p := by
  have hexponent : ((p : Int) + 1 - 1).natAbs = p := by omega
  have hsign : ¬ (p : Int) + 1 ≤ 0 := by omega
  unfold Decimal.layout
  dsimp only
  rw [hp, if_neg (by omega), if_neg (by omega), if_neg (by omega), if_neg hsign, hexponent]

theorem getLast?_toDigits {m : Nat} (h : ¬ 10 ∣ m) : (Nat.toDigits 10 m).getLast? ≠ some '0' := by
  have hdigit : Nat.digitChar (m % 10) ≠ '0' := fun hz => h (Nat.dvd_of_mod_eq_zero
    (Nat.digitChar_eq_zero.mp hz))
  rcases Nat.lt_or_ge m 10 with hlt | hge
  · rw [Nat.mod_eq_of_lt hlt] at hdigit
    rw [Nat.toDigits_of_lt_base hlt]
    simpa using hdigit
  · rw [Nat.toDigits_of_base_le (by decide) hge, List.getLast?_concat]
    simpa using hdigit

/-- What is left of the text of a decimal is still read as a decimal. -/
theorem ofText_front_layout {d : Decimal} {front back : List Char}
    (h : d.layout = front ++ back) (hne : front ≠ []) :
    (∃ c ∈ front.head?, c.isDigit = true) ∧
      Number.ofText (String.ofList front) = (Number.decimal? false front).getD .nan := by
  obtain ⟨c, rest, hl, hc, hrest⟩ := Number.layout_shape d
  obtain ⟨first, more, rfl⟩ := List.exists_cons_of_ne_nil hne
  rw [hl, List.cons_append] at h
  obtain ⟨rfl, rfl⟩ := List.cons.inj h
  refine ⟨⟨c, rfl, hc⟩, Number.ofText_ofList hc fun x hx => ?_⟩
  exact hrest x (List.mem_append_left _ hx)

/-- A text with an exponent loses the zeros of the exponent and is read as a smaller decimal. -/
theorem ofText_stripZeros_layout {d : Decimal} (hd : 0 < d.digits)
    (h : 21 < ((Nat.toDigits 10 d.digits).length : Int) + d.exponent) :
    (∃ c ∈ (stripZeros d.layout).head?, c.isDigit = true) ∧
      (∃ k, d.layout = stripZeros d.layout ++ List.replicate k '0') ∧
      (Number.ofText (String.ofList (stripZeros d.layout))).le
        (Number.ofDecimal false d.digits d.exponent) = true := by
  obtain ⟨p, hp⟩ : ∃ p : Nat, ((Nat.toDigits 10 d.digits).length : Int) + d.exponent = p + 1 :=
    ⟨(((Nat.toDigits 10 d.digits).length : Int) + d.exponent - 1).toNat, by omega⟩
  obtain ⟨k, m, hm, hpm⟩ := Nat.exists_eq_pow_mul_and_not_dvd (by omega : p ≠ 0) 10 (by decide)
  have hmpos : 0 < m := Nat.pos_of_ne_zero fun hz => hm (hz ▸ Nat.dvd_zero 10)
  have hle : m ≤ p := hpm ▸ Nat.le_mul_of_pos_left _ (by positivity)
  have hlayout := layout_of_point hp (by omega)
  have hread := Number.decimal?_exponential d.digits false m
  rw [hpm, Nat.mul_comm, Number.toDigits_mul_ten_pow hmpos, ← List.cons_append, ← List.cons_append,
    ← List.append_assoc] at hlayout
  rw [if_neg Bool.false_ne_true, if_neg Bool.false_ne_true] at hread
  generalize hfront : (Nat.toDigits 10 d.digits).take 1 ++
    (if (Nat.toDigits 10 d.digits).length = 1 then []
      else '.' :: (Nat.toDigits 10 d.digits).drop 1) ++ 'e' :: '+' :: Nat.toDigits 10 m = front
    at hlayout hread
  have hlast : front.getLast? = (Nat.toDigits 10 m).getLast? := by
    rw [← hfront, List.append_cons, List.append_cons,
      List.getLast?_append_of_ne_nil _ Nat.toDigits_ne_nil]
  have hzero := getLast?_toDigits hm
  have hpoint : (Nat.toDigits 10 m).getLast? ≠ some '.' := by
    intro hdot
    exact absurd (Number.isDigit_of_mem (List.mem_of_getLast? hdot)) (by decide)
  have hne : front ≠ [] := by
    rw [← hfront]
    simp
  obtain ⟨hhead, htext⟩ := ofText_front_layout hlayout hne
  rw [hlayout, stripZeros_append_zeros k (by rwa [hlast]) (by rwa [hlast])]
  refine ⟨hhead, ⟨k, rfl⟩, ?_⟩
  rw [htext, hread, Option.getD_some]
  exact Number.ofDecimal_mono hd (by omega) (by omega)

theorem valueText_of_le {units : Nat} (hf : Number.Fits units)
    (hb : units.log2 < Number.limitBits) (h : 10 ^ 21 * unit ≤ units) :
    (Number.ofText (valueText (.finite false units hf hb))).le (.finite false units hf hb) = true ∧
      ((Number.finite false units hf hb).toText.toList.getLast? ≠ some '0' →
        Number.ofText (valueText (.finite false units hf hb)) = .finite false units hf hb) := by
  have hunit := unit_pos
  have hu : 0 < units := by omega
  have hlarge : ¬ (units % unit = 0 ∧ units / unit < Nat.pow 2 53) := by
    rintro ⟨-, hlt⟩
    rw [Nat.pow_eq, Nat.div_lt_iff_lt_mul hunit] at hlt
    have hle : 2 ^ 53 * unit ≤ 10 ^ 21 * unit := Nat.mul_le_mul_right _ (by decide)
    omega
  have hchars : (Number.finite false units hf hb).toChars = (Number.shortest units).layout := by
    rw [Number.toChars, Number.magnitudeText, if_neg hlarge, Bool.false_and,
      if_neg Bool.false_ne_true, List.nil_append]
  have hpos := Number.pos_digits_of_halfOf (Number.halfOf_shortest hu) hu
  obtain ⟨⟨c, hhead, hc⟩, ⟨k, hk⟩, hle⟩ :=
    ofText_stripZeros_layout hpos (lt_point_shortest hf h)
  have htext : valueText (.finite false units hf hb) =
      String.ofList (stripZeros (Number.shortest units).layout) := by
    rw [valueText, Number.isFinite, if_pos rfl, Number.toFixedChars, Nat.pow_eq, if_pos h, hchars]
    refine if_neg ?_
    rintro (hnil | hzero)
    · rw [hnil] at hhead
      cases hhead
    · rw [hzero] at hhead
      cases hhead
      exact absurd hc (by decide)
  rw [Number.ofDecimal_shortest hu hf hb, ← htext] at hle
  refine ⟨hle, fun hlast => ?_⟩
  have hround := Number.ofText_toText_finite hf hb
  rw [Number.toText, String.toList_ofList, hchars, hk] at hlast
  have hnone : k = 0 := by
    by_contra hne
    obtain ⟨j, rfl⟩ := Nat.exists_eq_succ_of_ne_zero hne
    rw [List.replicate_succ', ← List.append_assoc, List.getLast?_concat] at hlast
    exact hlast rfl
  rw [hnone, List.replicate_zero, List.append_nil] at hk
  rw [htext, ← hk, ← hchars]
  exact hround

end Exponential

section Order

/-- A number without a sign, which may be infinite. Totals are such numbers. -/
structure Unsigned (x : Number) : Prop where
  number : x.isNaN = false
  sign : x.isNegative = false

theorem Unsigned.finite_or {x : Number} (h : Unsigned x) :
    (∃ units hf hb, x = .finite false units hf hb) ∨ x = .infinity false := by
  cases x with
  | nan => cases h.number
  | infinity s =>
    obtain rfl : s = false := h.sign
    exact .inr rfl
  | finite s units hf hb =>
    obtain rfl : s = false := h.sign
    exact .inl ⟨units, hf, hb, rfl⟩

theorem Unsigned.eq_finite {x : Number} (h : Unsigned x) (hfin : x.isFinite = true) :
    ∃ units hf hb, x = .finite false units hf hb := by
  rcases h.finite_or with hx | rfl
  · exact hx
  · cases hfin

theorem Unsigned.isFinite_of_le {x y : Number} (h : Unsigned x) (hle : x.le y = true)
    (hy : y.isFinite = true) : x.isFinite = true := by
  rcases h.finite_or with ⟨units, hf, hb, rfl⟩ | rfl
  · rfl
  · cases y with
    | nan => cases hy
    | infinity t => cases hy
    | finite t v hg hm => cases hle

/-- Smaller totals of finite totals, told by their magnitudes. -/
theorem magnitudes_of_le {x y : Number} (hx : Unsigned x) (hy : Unsigned y)
    (hle : x.le y = true) (hfin : y.isFinite = true) :
    ∃ u hu hl v hv hm, x = .finite false u hu hl ∧ y = .finite false v hv hm ∧ u ≤ v := by
  obtain ⟨u, hu, hl, rfl⟩ := hx.eq_finite (hx.isFinite_of_le hle hfin)
  obtain ⟨v, hv, hm, rfl⟩ := hy.eq_finite hfin
  refine ⟨u, hu, hl, v, hv, hm, rfl, rfl, ?_⟩
  have hplace := ((Number.le_iff _ _).mp hle).2.2
  rwa [Number.place, Number.place, Number.signed, Number.signed, if_neg Bool.false_ne_true,
    if_neg Bool.false_ne_true, Nat.cast_le] at hplace

theorem finite_le_finite {u v : Nat} (hu : Number.Fits u) (hl : u.log2 < Number.limitBits)
    (hv : Number.Fits v) (hm : v.log2 < Number.limitBits) (h : u ≤ v) :
    (Number.finite false u hu hl).le (.finite false v hv hm) = true := by
  refine (Number.le_iff _ _).mpr ⟨rfl, rfl, ?_⟩
  rw [Number.place, Number.place, Number.signed, Number.signed, if_neg Bool.false_ne_true,
    if_neg Bool.false_ne_true, Nat.cast_le]
  exact h

theorem ofText_wholeText {x : Number} (hx : Unsigned x) (hfin : x.isFinite = true) :
    Number.ofText (wholeText x) = x.truncate := by
  obtain ⟨u, hf, hb, rfl⟩ := hx.eq_finite hfin
  rw [wholeText, if_pos hfin, Number.truncate_finite]
  exact Number.ofText_toText_finite _ _

/-- The whole parts of growing totals do not fall as they are printed. -/
theorem wholeText_mono {x y : Number} (hx : Unsigned x) (hy : Unsigned y) (hle : x.le y = true)
    (hfin : y.isFinite = true) :
    (Number.ofText (wholeText x)).le (Number.ofText (wholeText y)) = true := by
  rw [ofText_wholeText hx (hx.isFinite_of_le hle hfin), ofText_wholeText hy hfin]
  obtain ⟨u, hu, hl, v, hv, hm, rfl, rfl, huv⟩ := magnitudes_of_le hx hy hle hfin
  rw [Number.truncate_finite, Number.truncate_finite]
  exact finite_le_finite _ _ _ _ (Nat.mul_le_mul_right _ (Nat.div_le_div_right huv))

/-- Numbers whose fixed text keeps every zero that means something: below `10 ^ 21` zeros are only
dropped behind the point, and from there up the general text must not end in one. -/
def KeepsZeros (x : Number) : Prop :=
  x.lt (Number.ofNat (10 ^ 21)) = true ∨ x.toText.toList.getLast? ≠ some '0'

instance (x : Number) : Decidable (KeepsZeros x) := inferInstanceAs (Decidable (_ ∨ _))

/-- Growing totals do not fall as they are printed, if the later one keeps its zeros. -/
theorem valueText_mono {x y : Number} (hx : Unsigned x) (hy : Unsigned y) (hle : x.le y = true)
    (hfin : y.isFinite = true) (hzeros : KeepsZeros y) :
    (Number.ofText (valueText x)).le (Number.ofText (valueText y)) = true := by
  obtain ⟨u, hu, hl, v, hv, hm, rfl, rfl, huv⟩ := magnitudes_of_le hx hy hle hfin
  rcases Nat.lt_or_ge v (10 ^ 21 * unit) with hsmall | hlarge
  · have hmono : millionths u ≤ millionths v := Nat.div_le_div_right (by omega)
    rw [valueText_of_lt hu hl (huv.trans_lt hsmall), valueText_of_lt hv hm hsmall]
    exact Number.ofRatio_le_ofRatio (by positivity) (by positivity) (Nat.mul_le_mul_right _ hmono)
  · have hlast := hzeros.resolve_left fun hlt =>
      Nat.not_lt.mpr hlarge (lt_of_lt_ten_pow (k := 21) (by decide) hlt)
    rw [(valueText_of_le hv hm hlarge).2 hlast]
    rcases Nat.lt_or_ge u (10 ^ 21 * unit) with hbelow | habove
    · have hbound : millionths u * 1 ≤ 10 ^ 21 * 10 ^ 6 := by
        rw [Nat.mul_one]
        exact millionths_le hbelow.le
      rw [valueText_of_lt hu hl hbelow]
      refine Number.le_trans (Number.ofRatio_le_ofRatio (by positivity) Nat.one_pos hbound) ?_
      exact ten_pow_le_finite (by decide) hv hm hlarge
    · exact Number.le_trans (valueText_of_le hu hl habove).1 hle

-- The zeros of an exponent are dropped like those of a fraction.
example : valueText (Number.ofText "1e21") = "1e+21" ∧
    valueText (Number.ofText "1e30") = "1e+3" := by decide +kernel

end Order

end Telemetry.Metric
