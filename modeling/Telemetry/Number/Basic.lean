/-! # Double precision numbers as whole numbers of the smallest unit

Every finite double is a whole number of units of `2 ^ -1074`, with at most 53 significant bits
and below `2 ^ 2098` units. A `Number` keeps that whole number and a sign, so that order is the
order of integers and every operation is exact arithmetic followed by one rounding. The main
statement is `fits_roundUnits`: rounding always lands on a number of that form.
-/
namespace Telemetry

namespace Number

/-- The number one, in units. -/
def unit : Nat := Nat.pow 2 1074

/-- The first power of two that is too large, in units, is `2 ^ limitBits`. -/
def limitBits : Nat := 2098

/-- The number of low bits that a value with 53 significant bits leaves zero. -/
def slack (units : Nat) : Nat := units.log2 - 52

/-- At most 53 significant bits. -/
def Fits (units : Nat) : Prop := Nat.pow 2 (slack units) ∣ units

instance (units : Nat) : Decidable (Fits units) := inferInstanceAs (Decidable (_ ∣ _))

/-- The whole number nearest to `num / den`; a tie goes to the even neighbour. -/
def nearestEven (num den : Nat) : Nat :=
  let q := num / den
  let r := num % den
  if 2 * r < den then q
  else if den < 2 * r then q + 1
  else q + q % 2

/-- The whole number nearest to `num / den`; a tie goes up. -/
def nearestUp (num den : Nat) : Nat := (2 * num + den) / (2 * den)

/-- The multiple of the coarsest grid with 53 bits that lies nearest to `num / den`. -/
def roundUnits (num den : Nat) : Nat :=
  let s := slack (num / den)
  nearestEven num (den * Nat.pow 2 s) * Nat.pow 2 s

theorem nearestEven_le (num den : Nat) : nearestEven num den ≤ num / den + 1 := by
  unfold nearestEven
  dsimp only
  split
  · omega
  · split <;> omega

theorem le_nearestEven (num den : Nat) : num / den ≤ nearestEven num den := by
  unfold nearestEven
  dsimp only
  split
  · omega
  · split <;> omega

theorem lt_two_pow_slack (n : Nat) : n / Nat.pow 2 (slack n) < Nat.pow 2 53 := by
  simp only [Nat.pow_eq]
  rw [Nat.div_lt_iff_lt_mul (Nat.two_pow_pos _), ← Nat.pow_add]
  apply Nat.lt_of_lt_of_le Nat.lt_log2_self
  exact Nat.pow_le_pow_right (by decide) (by unfold slack; omega)

theorem fits_of_lt {m s : Nat} (h : m < Nat.pow 2 53) : Fits (m * Nat.pow 2 s) := by
  unfold Fits slack
  simp only [Nat.pow_eq] at h ⊢
  by_cases hm : m = 0
  · simp [hm]
  · have hp : m * 2 ^ s ≠ 0 := Nat.mul_ne_zero hm (Nat.pos_iff_ne_zero.mp (Nat.two_pow_pos s))
    have hl : (m * 2 ^ s).log2 < 53 + s := by
      rw [Nat.log2_lt hp, Nat.pow_add]
      exact Nat.mul_lt_mul_of_pos_right h (Nat.two_pow_pos s)
    exact Nat.dvd_trans (Nat.pow_dvd_pow 2 (by omega)) (Nat.dvd_mul_left _ _)

theorem fits_roundUnits (num den : Nat) : Fits (roundUnits num den) := by
  unfold roundUnits
  dsimp only
  generalize hs : slack (num / den) = s
  have hq : num / (den * 2 ^ s) < 2 ^ 53 := by
    rw [← Nat.div_div_eq_div_mul, ← hs]
    exact lt_two_pow_slack _
  have hm := nearestEven_le num (den * 2 ^ s)
  rcases Nat.lt_or_ge (nearestEven num (den * 2 ^ s)) (2 ^ 53) with h | h
  · exact fits_of_lt h
  · have he : nearestEven num (den * 2 ^ s) = 2 ^ 53 := by omega
    have hp : nearestEven num (den * 2 ^ s) * 2 ^ s = 1 * 2 ^ (53 + s) := by
      rw [he, Nat.pow_add, Nat.one_mul]
    show Fits (nearestEven num (den * 2 ^ s) * 2 ^ s)
    rw [hp]
    exact fits_of_lt (by decide)

end Number

/-- A double: no number, an infinity, or a sign and a magnitude in units. Zero has both signs. -/
inductive Number where
  | nan
  | infinity (negative : Bool)
  | finite (negative : Bool) (units : Nat) (fits : Number.Fits units)
      (bounded : units.log2 < Number.limitBits)
  deriving DecidableEq

namespace Number

/-- The double nearest to `num / den` units, or the infinity when that lies out of range. -/
def ofUnits (negative : Bool) (num den : Nat) : Number :=
  if h : (roundUnits num den).log2 < limitBits then
    .finite negative (roundUnits num den) (fits_roundUnits num den) h
  else .infinity negative

/-- The double nearest to the fraction `num / den`. -/
def ofRatio (negative : Bool) (num den : Nat) : Number := ofUnits negative (num * unit) den

def ofNat (n : Nat) : Number := ofRatio false n 1

def ofInt (n : Int) : Number := ofRatio (decide (n < 0)) n.natAbs 1

instance (n : Nat) : OfNat Number n := ⟨ofNat n⟩

instance : Inhabited Number := ⟨ofNat 0⟩

def isNaN : Number → Bool
  | nan => true
  | _ => false

def isFinite : Number → Bool
  | finite .. => true
  | _ => false

/-- The sign; `nan` counts as positive. -/
def isNegative : Number → Bool
  | nan => false
  | infinity negative => negative
  | finite negative .. => negative

/-- Whether the number is a zero of either sign. -/
def isZero : Number → Bool
  | finite _ units .. => units == 0
  | _ => false

/-- A signed amount of units. -/
def signed (negative : Bool) (units : Nat) : Int := if negative then -units else units

/-- The value in units, `0` for what is not finite. -/
def toUnits : Number → Int
  | finite negative units .. => signed negative units
  | _ => 0

/-- Order of values: `nan` is unordered and the two zeros are equal. -/
def le : Number → Number → Bool
  | nan, _ => false
  | _, nan => false
  | infinity true, _ => true
  | _, infinity false => true
  | infinity false, _ => false
  | _, infinity true => false
  | finite s u .., finite t v .. => decide (signed s u ≤ signed t v)

def lt (a b : Number) : Bool := le a b && !le b a

/-- Equality of values: `nan` differs from itself and the two zeros are equal. -/
def eq (a b : Number) : Bool := le a b && le b a

def neg : Number → Number
  | nan => nan
  | infinity s => infinity !s
  | finite s u hf hb => finite (!s) u hf hb

/-- The sum; opposite values cancel to `0`, and only two negative zeros sum to `-0`. -/
def add : Number → Number → Number
  | nan, _ => nan
  | _, nan => nan
  | infinity s, infinity t => if s == t then infinity s else nan
  | infinity s, _ => infinity s
  | _, infinity t => infinity t
  | finite s u .., finite t v .. =>
    let total := signed s u + signed t v
    ofUnits (if total = 0 then s && t else decide (total < 0)) total.natAbs 1

def sub (a b : Number) : Number := add a b.neg

def mul : Number → Number → Number
  | nan, _ => nan
  | _, nan => nan
  | infinity s, b => if b.isZero then nan else infinity (s != b.isNegative)
  | a, infinity t => if a.isZero then nan else infinity (a.isNegative != t)
  | finite s u .., finite t v .. => ofUnits (s != t) (u * v) unit

def div : Number → Number → Number
  | nan, _ => nan
  | _, nan => nan
  | infinity _, infinity _ => nan
  | infinity s, b => infinity (s != b.isNegative)
  | a, infinity t => ofUnits (a.isNegative != t) 0 1
  | finite s u .., finite t v .. =>
    if v = 0 then if u = 0 then nan else infinity (s != t)
    else ofUnits (s != t) (u * unit) v

instance : Neg Number := ⟨neg⟩
instance : Add Number := ⟨add⟩
instance : Sub Number := ⟨sub⟩
instance : Mul Number := ⟨mul⟩
instance : Div Number := ⟨div⟩

/-- The larger number; `nan` if either is, and `0` rather than `-0`. -/
def maximum (a b : Number) : Number :=
  if a.isNaN || b.isNaN then nan
  else if lt a b then b
  else if lt b a then a
  else if a.isNegative then b else a

/-- The smaller number; `nan` if either is, and `-0` rather than `0`. -/
def minimum (a b : Number) : Number :=
  if a.isNaN || b.isNaN then nan
  else if lt a b then a
  else if lt b a then b
  else if a.isNegative then a else b

theorem le_refl {a : Number} (h : a.isNaN = false) : le a a = true := by
  cases a with
  | nan => simp [isNaN] at h
  | infinity s => cases s <;> rfl
  | finite => simp [le]

end Number

end Telemetry
