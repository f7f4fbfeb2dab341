import Mathlib.Data.List.Induction
import Mathlib.Tactic.IntervalCases
import Telemetry.Number.Numeral
import Telemetry.Proofs.Number.Whole
import Telemetry.Proofs.Text.Trim

/-! # Decimal texts are read back

Each of the four forms of a decimal text is a numeral, and reading it gives the double nearest to
the decimal. So whole numbers of at most 53 bits come back unchanged, and a larger whole number
comes back from its shortest text no smaller than half of it.
-/
namespace Telemetry.Number

attribute [local irreducible] unit unitBits

section Digits

theorem digitValue_of_isDigit {c : Char} (h : c.isDigit = true) : digitValue c = c.toNat - 48 :=
  if_pos h

theorem digitValue_lt_ten_iff {c : Char} : digitValue c < 10 ↔ c.isDigit = true := by
  unfold digitValue
  simp only [Char.isDigit_iff_toNat, Char.le_def, UInt32.le_iff_toNat_le]
  change (if 48 ≤ c.toNat ∧ c.toNat ≤ 57 then c.toNat - 48
    else if 97 ≤ c.toNat ∧ c.toNat ≤ 122 then c.toNat - 87
    else if 65 ≤ c.toNat ∧ c.toNat ≤ 90 then c.toNat - 55 else 36) < 10 ↔
      48 ≤ c.toNat ∧ c.toNat ≤ 57
  split_ifs <;> omega

theorem digitsValue_eq {cs : List Char} (h : ∀ c ∈ cs, c.isDigit = true) :
    digitsValue 10 cs = Nat.ofDigitChars 10 cs 0 := by
  unfold digitsValue
  generalize 0 = start
  induction cs generalizing start with
  | nil => rfl
  | cons c rest ih =>
    have hc := digitValue_of_isDigit (h c List.mem_cons_self)
    have hs : start * 10 + digitValue c = 10 * start + (c.toNat - 48) := by omega
    rw [List.foldl_cons, Nat.ofDigitChars_cons, hs]
    exact ih (fun d hd => h d (List.mem_cons_of_mem _ hd)) _

theorem isDigit_of_mem {n : Nat} {c : Char} (h : c ∈ Nat.toDigits 10 n) : c.isDigit = true :=
  Nat.isDigit_of_mem_toDigits (by decide) (by decide) h

theorem digitsValue_toDigits (n : Nat) : digitsValue 10 (Nat.toDigits 10 n) = n := by
  rw [digitsValue_eq fun c => isDigit_of_mem]
  exact Nat.ofDigitChars_ten_toDigits

theorem toDigits_mul_ten_pow {n : Nat} (h : 0 < n) (k : Nat) :
    Nat.toDigits 10 (n * 10 ^ k) = Nat.toDigits 10 n ++ List.replicate k '0' := by
  induction k with
  | zero => simp
  | succ k ih =>
    have hp : 0 < n * 10 ^ k := Nat.mul_pos h (by positivity)
    have hs := Nat.toDigits_append_toDigits (by decide : 1 < 10) hp (by decide : 0 < 10)
    have he : n * 10 ^ (k + 1) = 10 * (n * 10 ^ k) + 0 := by ring
    rw [he, ← hs, ih, List.append_assoc, Nat.toDigits_zero, ← List.replicate_succ']

theorem isDigit_of_mem_zeros {k : Nat} {c : Char} (h : c ∈ List.replicate k '0') :
    c.isDigit = true := by
  rw [List.eq_of_mem_replicate h]
  decide

theorem digitsValue_append (front back : List Char) :
    digitsValue 10 (front ++ back) =
      digitsValue 10 front * 10 ^ back.length + digitsValue 10 back := by
  induction back using List.reverseRecOn with
  | nil => simp [digitsValue]
  | append_singleton before c ih =>
    have hlast : ∀ cs : List Char, digitsValue 10 (cs ++ [c]) =
        digitsValue 10 cs * 10 + digitValue c := by
      intro cs
      simp [digitsValue]
    rw [← List.append_assoc, hlast, ih, hlast, List.length_append, List.length_singleton]
    ring

theorem digitsValue_zeros (k : Nat) : digitsValue 10 (List.replicate k '0') = 0 := by
  induction k with
  | zero => rfl
  | succ k ih =>
    have hzero : digitsValue 10 ['0'] = 0 := by decide
    rw [List.replicate_succ, ← List.singleton_append, digitsValue_append, ih, hzero, Nat.zero_mul]

theorem digitsValue_append_zeros (front : List Char) (k : Nat) :
    digitsValue 10 (front ++ List.replicate k '0') = digitsValue 10 front * 10 ^ k := by
  rw [digitsValue_append, digitsValue_zeros, List.length_replicate, Nat.add_zero]

theorem lt_ten_pow_length (n : Nat) : n < 10 ^ (Nat.toDigits 10 n).length :=
  (Nat.length_toDigits_le_iff (by decide) Nat.length_toDigits_pos).mp (Nat.le_refl _)

theorem head?_toDigits {n : Nat} (h : 0 < n) : (Nat.toDigits 10 n).head? ≠ some '0' := by
  induction n using Nat.strong_induction_on with
  | _ n ih =>
    rcases Nat.lt_or_ge n 10 with hlt | hge
    · have hdigit : Nat.digitChar n ≠ '0' := fun hz => h.ne' (Nat.digitChar_eq_zero.mp hz)
      rw [Nat.toDigits_of_lt_base hlt]
      simpa using hdigit
    · obtain ⟨c, rest, hcs⟩ :=
        List.exists_cons_of_ne_nil (Nat.toDigits_ne_nil (n := n / 10) (b := 10))
      have hhead := ih (n / 10) (by omega) (by omega)
      rw [hcs] at hhead
      rw [Nat.toDigits_of_base_le (by decide) hge, hcs]
      exact hhead

theorem digitChar_of_isDigit {c : Char} (h : c.isDigit = true) :
    Nat.digitChar (c.toNat - 48) = c ∧ c.toNat - 48 < 10 := by
  have hcode : 48 ≤ c.toNat ∧ c.toNat ≤ 57 := Char.isDigit_iff_toNat.mp h
  refine ⟨?_, by omega⟩
  obtain ⟨hlow, hhigh⟩ := hcode
  conv_rhs => rw [← Char.ofNat_toNat c]
  generalize c.toNat = n at hlow hhigh
  interval_cases n <;> decide

theorem digitsValue_concat (cs : List Char) {c : Char} (h : c.isDigit = true) :
    digitsValue 10 (cs ++ [c]) = 10 * digitsValue 10 cs + (c.toNat - 48) := by
  rw [digitsValue_append, List.length_singleton, pow_one, Nat.mul_comm]
  congr 1
  rw [digitsValue, List.foldl_cons, List.foldl_nil, Nat.zero_mul, Nat.zero_add,
    digitValue_of_isDigit h]

theorem digitsValue_lt {cs : List Char} (h : ∀ c ∈ cs, c.isDigit = true) :
    digitsValue 10 cs < 10 ^ cs.length := by
  induction cs using List.reverseRecOn with
  | nil => simp [digitsValue]
  | append_singleton before c ih =>
    have hc : c.isDigit = true := h c (by simp)
    have hbefore := ih fun d hd => h d (List.mem_append_left _ hd)
    have hdigit := (digitChar_of_isDigit hc).2
    rw [digitsValue_concat before hc, List.length_append, List.length_singleton, pow_succ]
    omega

/-- Digits without a superfluous zero at the front are the digits of their value. -/
theorem toDigits_digitsValue {cs : List Char} (h : ∀ c ∈ cs, c.isDigit = true) (hne : cs ≠ [])
    (hfront : cs.head? = some '0' → cs = ['0']) : Nat.toDigits 10 (digitsValue 10 cs) = cs := by
  induction cs using List.reverseRecOn with
  | nil => exact absurd rfl hne
  | append_singleton before c ih =>
    have hc : c.isDigit = true := h c (by simp)
    obtain ⟨hchar, hlt⟩ := digitChar_of_isDigit hc
    rw [digitsValue_concat before hc]
    rcases List.eq_nil_or_concat before with rfl | ⟨first, d, hbefore⟩
    · rw [digitsValue, List.foldl_nil, Nat.mul_zero, Nat.zero_add, Nat.toDigits_of_lt_base hlt,
        hchar, List.nil_append]
    · have hsome : before ≠ [] := by simp [hbefore]
      have hzero : before.head? ≠ some '0' := by
        intro hhead
        have hall := hfront (by rw [List.head?_append_of_ne_nil _ hsome, hhead])
        have hlength := congrArg List.length hall
        rw [hbefore] at hlength
        simp at hlength
      have hdigits := ih (fun d hd => h d (List.mem_append_left _ hd)) hsome
        fun hhead => absurd hhead hzero
      have hpos : 0 < digitsValue 10 before := by
        rw [Nat.pos_iff_ne_zero]
        intro hvalue
        rw [hvalue, Nat.toDigits_zero] at hdigits
        rw [← hdigits] at hzero
        exact hzero rfl
      rw [← Nat.toDigits_append_toDigits (by decide) hpos hlt, hdigits,
        Nat.toDigits_of_lt_base hlt, hchar]

/-- Equally many digits with one value are the same. -/
theorem digits_inj {cs ds : List Char} (hc : ∀ c ∈ cs, c.isDigit = true)
    (hd : ∀ d ∈ ds, d.isDigit = true) (hlength : cs.length = ds.length)
    (hvalue : digitsValue 10 cs = digitsValue 10 ds) : cs = ds := by
  have hone : ∀ es : List Char, (∀ e ∈ es, e.isDigit = true) →
      Nat.toDigits 10 (digitsValue 10 ('1' :: es)) = '1' :: es := by
    intro es hes
    refine toDigits_digitsValue (List.forall_mem_cons.mpr ⟨by decide, hes⟩)
      (List.cons_ne_nil _ _) fun hhead => ?_
    exact absurd hhead (by simp)
  have hfull : digitsValue 10 ('1' :: cs) = digitsValue 10 ('1' :: ds) := by
    change digitsValue 10 (['1'] ++ cs) = digitsValue 10 (['1'] ++ ds)
    rw [digitsValue_append, digitsValue_append, hlength, hvalue]
  have hsame := (hone cs hc).symm.trans ((congrArg _ hfull).trans (hone ds hd))
  exact (List.cons.inj hsame).2

end Digits

section Forms

/-- What ends the digits of a numeral: nothing, or the mark of an exponent. -/
def IsExponentPart (cs : List Char) : Prop := ∀ c ∈ cs.head?, c = 'e'

theorem takeWhile_digits {w rest : List Char} (hw : ∀ c ∈ w, c.isDigit = true)
    (hrest : ∀ c ∈ rest.head?, c.isDigit = false) : (w ++ rest).takeWhile Char.isDigit = w := by
  rw [List.takeWhile_append_of_pos hw]
  cases rest with
  | nil => simp
  | cons c more => simp [hrest c (by simp)]

theorem dropWhile_digits {w rest : List Char} (hw : ∀ c ∈ w, c.isDigit = true)
    (hrest : ∀ c ∈ rest.head?, c.isDigit = false) : (w ++ rest).dropWhile Char.isDigit = rest := by
  rw [List.dropWhile_append_of_pos hw]
  exact Text.dropWhile_eq_self hrest

theorem IsExponentPart.not_digit {e : List Char} (h : IsExponentPart e) :
    ∀ c ∈ e.head?, c.isDigit = false := by
  intro c hc
  rw [h c hc]
  decide

theorem decimal?_plain {w e : List Char} (s : Bool) (hw : ∀ c ∈ w, c.isDigit = true)
    (hne : w ≠ []) (he : IsExponentPart e) :
    decimal? s (w ++ e) = (exponent? e).map fun x => ofDecimal s (digitsValue 10 w) x := by
  have ht := takeWhile_digits hw he.not_digit
  have hd := dropWhile_digits hw he.not_digit
  unfold decimal?
  rw [ht, hd]
  cases e with
  | nil => simp [hne]
  | cons c more =>
    have hc : c = 'e' := he c (by simp)
    subst hc
    simp [hne]

theorem decimal?_point {w f e : List Char} (s : Bool) (hw : ∀ c ∈ w, c.isDigit = true)
    (hf : ∀ c ∈ f, c.isDigit = true) (hne : w ≠ []) (he : IsExponentPart e) :
    decimal? s (w ++ '.' :: (f ++ e)) = (exponent? e).map fun x =>
      ofDecimal s (digitsValue 10 (w ++ f)) (x - f.length) := by
  have hpoint : ∀ c ∈ ('.' :: (f ++ e)).head?, c.isDigit = false := by
    intro c hc
    cases hc
    decide
  have ht := takeWhile_digits hf he.not_digit
  have hd := dropWhile_digits hf he.not_digit
  unfold decimal?
  rw [takeWhile_digits hw hpoint, dropWhile_digits hw hpoint]
  simp only [ht, hd, hne, false_and, if_false]

theorem exponent?_signed (s : Bool) (n : Nat) :
    exponent? ('e' :: (if s then '-' else '+') :: Nat.toDigits 10 n) =
      some (if s then -(n : Int) else n) := by
  have hall : (Nat.toDigits 10 n).all Char.isDigit = true :=
    List.all_eq_true.mpr fun c => isDigit_of_mem
  cases s <;> simp [exponent?, Nat.toDigits_ne_nil, hall, digitsValue_toDigits]

end Forms

theorem ofDecimal_eq {digits : Nat} (s : Bool) (h : 0 < digits) (exponent : Int) :
    ofDecimal s digits exponent =
      if (Nat.toDigits 10 digits).length + exponent < -330 then ofUnits s 0 1
      else if 310 < (Nat.toDigits 10 digits).length + exponent then infinity s
      else ofRatio s (digits * Nat.pow 10 exponent.toNat) (Nat.pow 10 (-exponent).toNat) := by
  unfold ofDecimal
  simp only [Nat.pos_iff_ne_zero.mp h, false_or]

/-- Zeros at the end are as good as a larger exponent. -/
theorem ofDecimal_mul_ten_pow {digits : Nat} (s : Bool) (h : 0 < digits) (k : Nat) :
    ofDecimal s (digits * 10 ^ k) 0 = ofDecimal s digits k := by
  have hp : 0 < digits * 10 ^ k := Nat.mul_pos h (by positivity)
  have hl : ((Nat.toDigits 10 (digits * 10 ^ k)).length : Int) + 0 =
      (Nat.toDigits 10 digits).length + k := by
    rw [toDigits_mul_ten_pow h, List.length_append, List.length_replicate]
    omega
  have hr : digits * 10 ^ k * Nat.pow 10 (0 : Int).toNat = digits * Nat.pow 10 (k : Int).toNat := by
    simp
  have hd : Nat.pow 10 (-(0 : Int)).toNat = Nat.pow 10 (-(k : Int)).toNat := by
    simp
  rw [ofDecimal_eq s hp, ofDecimal_eq s h, hl, hr, hd]

/-- Reading a decimal with some of its zeros is reading the fraction. -/
theorem ofDecimal_eq_ofRatio {m j : Nat} (k : Nat) (hm : m < 10 ^ 200) (hj : j ≤ 200) :
    ofDecimal false m (-(j : Int)) = ofRatio false (m * 10 ^ k) (10 ^ (j + k)) := by
  rcases Nat.eq_zero_or_pos m with rfl | hpos
  · rw [Nat.zero_mul, ofRatio_zero, ofDecimal]
    exact if_pos (Or.inl rfl)
  · have hlen := (Nat.length_toDigits_le_iff (by decide : 1 < 10) (by decide : 0 < 200)).mpr hm
    have hzero : (-(j : Int)).toNat = 0 := by omega
    have hneg : (-(-(j : Int))).toNat = j := by omega
    rw [ofDecimal_eq false hpos, if_neg (by omega), if_neg (by omega), hzero, hneg]
    refine ofRatio_congr false (Nat.pow_pos (by decide)) (by positivity) ?_
    rw [Nat.pow_eq, Nat.pow_eq, Nat.pow_add]
    ring

theorem ofDecimal_mono {n : Nat} (hn : 0 < n) {a b : Int} (h : a ≤ b)
    (hlow : -330 ≤ ((Nat.toDigits 10 n).length : Int) + a) :
    (ofDecimal false n a).le (ofDecimal false n b) = true := by
  have hlow' : ¬ ((Nat.toDigits 10 n).length : Int) + b < -330 := by omega
  rw [ofDecimal_eq false hn, ofDecimal_eq false hn, if_neg (by omega), if_neg hlow']
  by_cases hhigh : 310 < ((Nat.toDigits 10 n).length : Int) + b
  · rw [if_pos hhigh]
    refine le_infinity ?_
    split
    · rfl
    · exact isNaN_ofUnits _ _ _
  · rw [if_neg hhigh, if_neg (by omega)]
    refine ofRatio_le_ofRatio (Nat.pow_pos (by decide)) (Nat.pow_pos (by decide)) ?_
    rw [Nat.pow_eq, Nat.pow_eq, Nat.pow_eq, Nat.pow_eq, Nat.mul_assoc, Nat.mul_assoc,
      ← Nat.pow_add, ← Nat.pow_add]
    exact Nat.mul_le_mul_left _ (Nat.pow_le_pow_right (by decide) (by omega))

section Fraction

/-- What follows the point of a positional text. -/
def fractionDigits (n places : Nat) : List Char :=
  List.replicate (places - (Nat.toDigits 10 (n % 10 ^ places)).length) '0' ++
    Nat.toDigits 10 (n % 10 ^ places)

theorem length_fractionDigits (n : Nat) {places : Nat} (h : 0 < places) :
    (fractionDigits n places).length = places := by
  have hlt : n % 10 ^ places < 10 ^ places := Nat.mod_lt _ (by positivity)
  have hlen := (Nat.length_toDigits_le_iff (by decide : 1 < 10) h).mpr hlt
  rw [fractionDigits, List.length_append, List.length_replicate]
  omega

theorem isDigit_of_mem_fractionDigits {n places : Nat} :
    ∀ c ∈ fractionDigits n places, c.isDigit = true := by
  intro c hc
  rcases List.mem_append.mp hc with hc | hc
  · exact isDigit_of_mem_zeros hc
  · exact isDigit_of_mem hc

/-- The digits on both sides of the point are the digits of the whole number. -/
theorem digitsValue_pointed (n : Nat) {places : Nat} (h : 0 < places) :
    digitsValue 10 (Nat.toDigits 10 (n / 10 ^ places) ++ fractionDigits n places) = n := by
  have hvalue : digitsValue 10 (fractionDigits n places) = n % 10 ^ places := by
    rw [fractionDigits, digitsValue_append, digitsValue_zeros, digitsValue_toDigits]
    omega
  rw [digitsValue_append, digitsValue_toDigits, length_fractionDigits n h, hvalue, Nat.mul_comm]
  exact Nat.div_add_mod n _

end Fraction

section Layout

variable (n : Nat)

theorem isDigit_of_mem_take {k : Nat} : ∀ c ∈ (Nat.toDigits 10 n).take k, c.isDigit = true :=
  fun _ h => isDigit_of_mem (List.mem_of_mem_take h)

theorem isDigit_of_mem_drop {k : Nat} : ∀ c ∈ (Nat.toDigits 10 n).drop k, c.isDigit = true :=
  fun _ h => isDigit_of_mem (List.mem_of_mem_drop h)

theorem digitsValue_take_drop (k : Nat) :
    digitsValue 10 ((Nat.toDigits 10 n).take k ++ (Nat.toDigits 10 n).drop k) = n := by
  rw [List.take_append_drop, digitsValue_toDigits]

theorem isExponentPart_nil : IsExponentPart [] := by
  intro c hc
  cases hc

theorem decimal?_positional (h : 0 < n) (k : Nat) :
    decimal? false (Nat.toDigits 10 n ++ List.replicate k '0') = some (ofDecimal false n k) := by
  have hp := decimal?_plain false (fun c => isDigit_of_mem) Nat.toDigits_ne_nil isExponentPart_nil
    (w := Nat.toDigits 10 (n * 10 ^ k))
  rw [List.append_nil, digitsValue_toDigits] at hp
  rw [← toDigits_mul_ten_pow h, hp, exponent?, Option.map_some, ofDecimal_mul_ten_pow false h]

theorem decimal?_pointed {k : Nat} (hk : 0 < k) (hle : k ≤ (Nat.toDigits 10 n).length) :
    decimal? false ((Nat.toDigits 10 n).take k ++ '.' :: (Nat.toDigits 10 n).drop k) =
      some (ofDecimal false n (k - (Nat.toDigits 10 n).length)) := by
  have hne : (Nat.toDigits 10 n).take k ≠ [] := by
    intro hnil
    rcases List.take_eq_nil_iff.mp hnil with hz | hz
    · omega
    · exact Nat.toDigits_ne_nil hz
  have hp := decimal?_point false (isDigit_of_mem_take n) (isDigit_of_mem_drop n (k := k)) hne
    isExponentPart_nil
  have hl : (0 : Int) - ((Nat.toDigits 10 n).drop k).length = k - (Nat.toDigits 10 n).length := by
    rw [List.length_drop]
    omega
  rw [List.append_nil, digitsValue_take_drop, exponent?, Option.map_some, hl] at hp
  exact hp

theorem decimal?_small (z : Nat) :
    decimal? false ('0' :: '.' :: (List.replicate z '0' ++ Nat.toDigits 10 n)) =
      some (ofDecimal false n (-(z : Int) - (Nat.toDigits 10 n).length)) := by
  have hzero : ∀ c ∈ ['0'], c.isDigit = true := by
    intro c hc
    rw [List.mem_singleton.mp hc]
    decide
  have hf : ∀ c ∈ List.replicate z '0' ++ Nat.toDigits 10 n, c.isDigit = true := by
    intro c hc
    rcases List.mem_append.mp hc with hc | hc
    · exact isDigit_of_mem_zeros hc
    · exact isDigit_of_mem hc
  have hall : ∀ c ∈ ['0'] ++ (List.replicate z '0' ++ Nat.toDigits 10 n), c.isDigit = true := by
    intro c hc
    rcases List.mem_append.mp hc with hc | hc
    · exact hzero c hc
    · exact hf c hc
  have hv : digitsValue 10 (['0'] ++ (List.replicate z '0' ++ Nat.toDigits 10 n)) = n := by
    rw [digitsValue_eq hall]
    simp [Nat.ofDigitChars_cons, Nat.ofDigitChars_append]
  have hp := decimal?_point false hzero hf (List.cons_ne_nil _ _) isExponentPart_nil
  have hl : (0 : Int) - (List.replicate z '0' ++ Nat.toDigits 10 n).length =
      -(z : Int) - (Nat.toDigits 10 n).length := by
    rw [List.length_append, List.length_replicate]
    omega
  rw [List.append_nil, hv, exponent?, Option.map_some, hl] at hp
  exact hp

theorem decimal?_exponential (s : Bool) (x : Nat) :
    decimal? false ((Nat.toDigits 10 n).take 1 ++
        (if (Nat.toDigits 10 n).length = 1 then [] else '.' :: (Nat.toDigits 10 n).drop 1) ++
        'e' :: (if s then '-' else '+') :: Nat.toDigits 10 x) =
      some (ofDecimal false n
        ((if s then -(x : Int) else x) - ((Nat.toDigits 10 n).length - 1))) := by
  have hlen : 0 < (Nat.toDigits 10 n).length := Nat.length_toDigits_pos
  have hne : (Nat.toDigits 10 n).take 1 ≠ [] := by
    intro hnil
    rcases List.take_eq_nil_iff.mp hnil with hz | hz
    · omega
    · exact Nat.toDigits_ne_nil hz
  have he : IsExponentPart ('e' :: (if s then '-' else '+') :: Nat.toDigits 10 x) := by
    intro c hc
    simpa using hc.symm
  by_cases hone : (Nat.toDigits 10 n).length = 1
  · have hp := decimal?_plain false (isDigit_of_mem_take n) hne he
    have hv : digitsValue 10 ((Nat.toDigits 10 n).take 1) = n := by
      rw [List.take_of_length_le (by omega), digitsValue_toDigits]
    have hz : (if s then -(x : Int) else x) - (((Nat.toDigits 10 n).length : Int) - 1) =
        if s then -(x : Int) else x := by
      omega
    rw [if_pos hone, List.append_nil, hp, exponent?_signed, Option.map_some, hv, hz]
  · have hp := decimal?_point false (isDigit_of_mem_take n) (isDigit_of_mem_drop n (k := 1)) hne he
    have hl : (((Nat.toDigits 10 n).drop 1).length : Int) = (Nat.toDigits 10 n).length - 1 := by
      rw [List.length_drop]
      omega
    rw [if_neg hone, List.append_assoc, List.cons_append, hp, exponent?_signed, Option.map_some,
      digitsValue_take_drop, hl]

/-- Every form of the text of a decimal reads as that decimal. -/
theorem decimal?_layout (d : Decimal) (h : 0 < d.digits) :
    decimal? false d.layout = some (ofDecimal false d.digits d.exponent) := by
  obtain ⟨n, e⟩ := d
  unfold Decimal.layout
  dsimp only at h ⊢
  generalize hlen : (Nat.toDigits 10 n).length = len
  split
  · rename_i hplain
    rw [decimal?_positional n h, Int.toNat_of_nonneg hplain.1]
  · rename_i hplain
    split
    · rename_i hpoint
      have hk : ((len + e).toNat : Int) - len = e := by omega
      rw [decimal?_pointed n (by omega) (by omega), hlen, hk]
    · rename_i hpoint
      split
      · rename_i hsmall
        have hk : -((-(len + e)).toNat : Int) - len = e := by omega
        rw [decimal?_small, hlen, hk]
      · rename_i hlarge
        have hp := decimal?_exponential n (decide (len + e ≤ 0)) (len + e - 1).natAbs
        have hk : (if decide (len + e ≤ 0) then -(((len + e - 1).natAbs : Nat) : Int)
            else ((len + e - 1).natAbs : Nat)) - (len - 1) = e := by
          split <;> rename_i hs <;> simp only [decide_eq_true_eq] at hs <;> omega
        rw [hlen, hk] at hp
        simpa only [decide_eq_true_eq] using hp

end Layout

section Text

def isPlain (c : Char) : Bool := c.isDigit || c == '.' || c == 'e' || c == '+' || c == '-'

theorem isPlain_of_isDigit {c : Char} (h : c.isDigit = true) : isPlain c = true := by
  simp [isPlain, h]

theorem isBlank_of_isPlain {c : Char} (h : isPlain c = true) : Text.isBlank c = false := by
  simp only [isPlain, Bool.or_eq_true, beq_iff_eq] at h
  rcases h with (((hd | rfl) | rfl) | rfl) | rfl
  · have hn : 48 ≤ c.toNat ∧ c.toNat ≤ 57 := Char.isDigit_iff_toNat.mp hd
    simp only [Text.isBlank, Bool.or_eq_false_iff, Bool.and_eq_false_iff, decide_eq_false_iff_not,
      beq_eq_false_iff_ne]
    omega
  all_goals decide

theorem trimChars_of_isPlain {cs : List Char} (h : ∀ c ∈ cs, isPlain c = true) :
    Text.trimChars cs = cs :=
  (Text.IsStripped.of_forall fun c hc => isBlank_of_isPlain (h c hc)).stripWhile_eq

theorem unsigned?_of_isDigit {c : Char} {rest : List Char} (s : Bool) (h : c.isDigit = true) :
    unsigned? s (c :: rest) = decimal? s (c :: rest) := by
  unfold unsigned?
  rw [if_neg]
  intro hi
  rw [List.cons.inj hi |>.1] at h
  exact absurd h (by decide)

theorem ofChars?_of_isPlain {c : Char} {rest : List Char} (hc : c.isDigit = true)
    (h : ∀ d ∈ rest, isPlain d = true) : ofChars? (c :: rest) = decimal? false (c :: rest) := by
  unfold ofChars?
  split
  · rename_i heq
    cases heq
  · rename_i mark more heq
    obtain ⟨-, rfl⟩ := List.cons.inj heq
    have hm := h mark List.mem_cons_self
    have hx : ¬ (mark = 'x' ∨ mark = 'X') := by
      rintro (rfl | rfl) <;> exact absurd hm (by decide)
    have ho : ¬ (mark = 'o' ∨ mark = 'O') := by
      rintro (rfl | rfl) <;> exact absurd hm (by decide)
    have hb : ¬ (mark = 'b' ∨ mark = 'B') := by
      rintro (rfl | rfl) <;> exact absurd hm (by decide)
    rw [if_neg hx, if_neg ho, if_neg hb, heq]
  · rename_i heq
    rw [(List.cons.inj heq).1] at hc
    exact absurd hc (by decide)
  · rename_i heq
    rw [(List.cons.inj heq).1] at hc
    exact absurd hc (by decide)
  · exact unsigned?_of_isDigit false hc

theorem ofText_ofList {c : Char} {rest : List Char} (hc : c.isDigit = true)
    (h : ∀ d ∈ rest, isPlain d = true) :
    ofText (String.ofList (c :: rest)) = (decimal? false (c :: rest)).getD nan := by
  have hall : ∀ d ∈ c :: rest, isPlain d = true := by
    intro d hd
    rcases List.mem_cons.mp hd with rfl | hd
    · exact isPlain_of_isDigit hc
    · exact h d hd
  rw [ofText, String.toList_ofList, trimChars_of_isPlain hall, ofChars?_of_isPlain hc h]

/-- The characters of a decimal text. An exponent belongs to a point that lies too far to the left,
with a minus, or too far to the right, with a plus. -/
theorem mem_layout {d : Decimal} {c : Char} (hc : c ∈ d.layout) :
    c.isDigit = true ∨ c = '.' ∨ c = 'e' ∨
      (c = '-' ∧ ((Nat.toDigits 10 d.digits).length : Int) + d.exponent ≤ 0) ∨
      (c = '+' ∧ 21 < ((Nat.toDigits 10 d.digits).length : Int) + d.exponent) := by
  unfold Decimal.layout at hc
  dsimp only at hc
  split at hc
  · rcases List.mem_append.mp hc with hc | hc
    · exact .inl (isDigit_of_mem hc)
    · exact .inl (isDigit_of_mem_zeros hc)
  · split at hc
    · rcases List.mem_append.mp hc with hc | hc
      · exact .inl (isDigit_of_mem_take d.digits c hc)
      · rcases List.mem_cons.mp hc with rfl | hc
        · exact .inr (.inl rfl)
        · exact .inl (isDigit_of_mem_drop d.digits c hc)
    · split at hc
      · simp only [List.mem_cons, List.mem_append] at hc
        rcases hc with rfl | rfl | hc | hc
        · exact .inl (by decide)
        · exact .inr (.inl rfl)
        · exact .inl (isDigit_of_mem_zeros hc)
        · exact .inl (isDigit_of_mem hc)
      · simp only [List.mem_append, List.mem_cons] at hc
        rcases hc with (hc | hc) | rfl | hc | hc
        · exact .inl (isDigit_of_mem_take d.digits c hc)
        · split at hc
          · cases hc
          · rcases List.mem_cons.mp hc with rfl | hc
            · exact .inr (.inl rfl)
            · exact .inl (isDigit_of_mem_drop d.digits c hc)
        · exact .inr (.inr (.inl rfl))
        · split at hc
          · exact .inr (.inr (.inr (.inl ⟨hc, by omega⟩)))
          · exact .inr (.inr (.inr (.inr ⟨hc, by omega⟩)))
        · exact .inl (isDigit_of_mem hc)

theorem isPlain_of_mem_layout (d : Decimal) : ∀ c ∈ d.layout, isPlain c = true := by
  intro c hc
  rcases mem_layout hc with hd | rfl | rfl | ⟨rfl, -⟩ | ⟨rfl, -⟩
  · exact isPlain_of_isDigit hd
  all_goals decide

theorem isPlain_of_mem_toDigits {n : Nat} : ∀ c ∈ Nat.toDigits 10 n, isPlain c = true :=
  fun _ hc => isPlain_of_isDigit (isDigit_of_mem hc)

theorem isPlain_of_mem_magnitudeText (units : Nat) : ∀ c ∈ magnitudeText units, isPlain c = true := by
  unfold magnitudeText
  split
  · exact isPlain_of_mem_toDigits
  · exact isPlain_of_mem_layout _

theorem isPlain_of_mem_sign (b : Bool) : ∀ c ∈ (if b then ['-'] else []), isPlain c = true := by
  cases b <;> exact List.all_eq_true.mp (by decide)

theorem isPlain_of_mem_toChars {x : Number} (h : x.isFinite = true) :
    ∀ c ∈ x.toChars, isPlain c = true := by
  cases x with
  | nan => cases h
  | infinity s => cases h
  | finite s u hf hb =>
    intro c hc
    rcases List.mem_append.mp hc with hc | hc
    · exact isPlain_of_mem_sign _ c hc
    · exact isPlain_of_mem_magnitudeText u c hc

theorem mem_pointed {n places : Nat} {c : Char} (hc : c ∈ pointed n places) :
    c.isDigit = true ∨ c = '.' := by
  rcases List.mem_append.mp hc with hc | hc
  · exact .inl (isDigit_of_mem hc)
  · rcases List.mem_cons.mp hc with rfl | hc
    · exact .inr rfl
    · exact .inl (isDigit_of_mem_fractionDigits c hc)

theorem isPlain_of_mem_pointed (n places : Nat) : ∀ c ∈ pointed n places, isPlain c = true := by
  intro c hc
  rcases mem_pointed hc with hd | rfl
  · exact isPlain_of_isDigit hd
  · decide

theorem isPlain_of_mem_toFixedChars {x : Number} (h : x.isFinite = true) (places : Nat) :
    ∀ c ∈ x.toFixedChars places, isPlain c = true := by
  cases x with
  | nan => cases h
  | infinity s => cases h
  | finite s u hf hb =>
    intro c hc
    rw [toFixedChars] at hc
    split at hc
    · exact isPlain_of_mem_toChars h c hc
    · rcases List.mem_append.mp hc with hc | hc
      · exact isPlain_of_mem_sign _ c hc
      · exact isPlain_of_mem_pointed _ _ c hc

/-- Decimal texts begin with a digit and have no character that other numerals need. -/
theorem layout_shape (d : Decimal) :
    ∃ c rest, d.layout = c :: rest ∧ c.isDigit = true ∧ ∀ x ∈ rest, isPlain x = true := by
  have hshape : ∃ c rest, d.layout = c :: rest ∧ c.isDigit = true := by
    obtain ⟨c, more, hds⟩ := List.exists_cons_of_ne_nil (Nat.toDigits_ne_nil (n := d.digits) (b := 10))
    have hc : c.isDigit = true := isDigit_of_mem (hds ▸ List.mem_cons_self)
    unfold Decimal.layout
    rw [hds]
    dsimp only
    split
    · exact ⟨c, _, List.cons_append, hc⟩
    · split
      · rename_i hpoint
        obtain ⟨k, hk⟩ : ∃ k, (((c :: more).length : Int) + d.exponent).toNat = k + 1 :=
          ⟨_, (Nat.succ_pred_eq_of_pos (by omega)).symm⟩
        rw [hk, List.take_succ_cons]
        exact ⟨c, _, List.cons_append, hc⟩
      · split
        · exact ⟨'0', _, rfl, by decide⟩
        · rw [List.take_succ_cons, List.cons_append, List.cons_append]
          exact ⟨c, _, rfl, hc⟩
  obtain ⟨c, rest, hl, hc⟩ := hshape
  refine ⟨c, rest, hl, hc, fun x hx => isPlain_of_mem_layout d x ?_⟩
  rw [hl]
  exact List.mem_cons_of_mem _ hx

theorem ofText_layout (d : Decimal) (h : 0 < d.digits) :
    ofText (String.ofList d.layout) = ofDecimal false d.digits d.exponent := by
  obtain ⟨c, rest, hl, hc, hrest⟩ := layout_shape d
  have hd := decimal?_layout d h
  rw [hl] at hd ⊢
  rw [ofText_ofList hc hrest, hd, Option.getD_some]

/-- A positional text begins with a digit and is read as its fraction. -/
theorem ofText_pointed {n places : Nat} (hp : 0 < places) (hle : places ≤ 200) (hn : n < 10 ^ 200) :
    (∃ c ∈ (pointed n places).head?, c.isDigit = true) ∧
      ofText (String.ofList (pointed n places)) = ofRatio false n (10 ^ places) := by
  have hread := decimal?_point false (fun _ => isDigit_of_mem) isDigit_of_mem_fractionDigits
    Nat.toDigits_ne_nil isExponentPart_nil (w := Nat.toDigits 10 (n / 10 ^ places))
    (f := fractionDigits n places)
  rw [List.append_nil, digitsValue_pointed n hp, length_fractionDigits n hp, exponent?,
    Option.map_some, Int.zero_sub, ofDecimal_eq_ofRatio 0 hn hle, pow_zero, Nat.mul_one,
    Nat.add_zero] at hread
  have htext : pointed n places =
      Nat.toDigits 10 (n / 10 ^ places) ++ '.' :: fractionDigits n places := rfl
  obtain ⟨c, more, hcs⟩ :=
    List.exists_cons_of_ne_nil (Nat.toDigits_ne_nil (n := n / 10 ^ places) (b := 10))
  have hc : c.isDigit = true := isDigit_of_mem (hcs ▸ List.mem_cons_self)
  have hplain := isPlain_of_mem_pointed n places
  rw [htext, hcs, List.cons_append] at hplain ⊢
  rw [hcs, List.cons_append] at hread
  rw [ofText_ofList hc fun d hd => hplain d (List.mem_cons_of_mem _ hd), hread, Option.getD_some]
  exact ⟨⟨c, rfl, hc⟩, rfl⟩

end Text

end Telemetry.Number
