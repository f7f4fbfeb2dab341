import Telemetry.Number.Whole

/-! # Decimal text of numbers

The general text has the fewest digits that read back as the same number, and of those the ones
nearest to it. It is positional from `10 ^ -7` up to `10 ^ 21` and carries an exponent outside.
The fixed text rounds the exact value to a given count of decimals.
-/
namespace Telemetry

/-- The value `digits * 10 ^ exponent`. -/
structure Decimal where
  digits : Nat
  exponent : Int
  deriving DecidableEq, Repr

/-- A point before position `21` and at most six zeros after the point keep positional form. -/
def Decimal.layout (d : Decimal) : List Char :=
  let ds := Nat.toDigits 10 d.digits
  let point := ds.length + d.exponent
  if 0 ≤ d.exponent ∧ point ≤ 21 then ds ++ List.replicate d.exponent.toNat '0'
  else if 0 < point ∧ point ≤ 21 then ds.take point.toNat ++ '.' :: ds.drop point.toNat
  else if -6 < point ∧ point ≤ 0 then
    '0' :: '.' :: (List.replicate (-point).toNat '0' ++ ds)
  else
    ds.take 1 ++ (if ds.length = 1 then [] else '.' :: ds.drop 1) ++
      'e' :: (if point ≤ 0 then '-' else '+') :: Nat.toDigits 10 (point - 1).natAbs

namespace Number

/-- The values, in quarter units, that round to a magnitude. The ends belong to it when the last
of the 53 bits is zero; the gap below a power of two is half as wide as the one above. -/
structure Reach where
  low : Nat
  high : Nat
  closed : Bool

def reach (units : Nat) : Reach :=
  let step := Nat.pow 2 (slack units)
  let narrow := 0 < slack units ∧ units = Nat.pow 2 units.log2
  { low := 4 * units - (if narrow then step else 2 * step)
    high := 4 * units + 2 * step
    closed := units / step % 2 = 0 }

/-- Whether the fraction `num / den` of quarter units lies in the reach. -/
def Reach.holds (r : Reach) (num den : Nat) : Bool :=
  if r.closed then r.low * den ≤ num && num ≤ r.high * den
  else r.low * den < num && num < r.high * den

/-- The multiple of `10 ^ exponent` that reads back as the magnitude, the nearer one of two. -/
def onGrid? (units : Nat) (exponent : Int) : Option Decimal :=
  let up := Nat.pow 10 exponent.toNat
  let down := Nat.pow 10 (-exponent).toNat
  let below := units * down / (unit * up)
  let fits := fun n => (reach units).holds (4 * n * unit * up) down
  let nearest := nearestEven (units * down) (unit * up)
  if fits below && fits (below + 1) then some ⟨nearest, exponent⟩
  else if fits below then some ⟨below, exponent⟩
  else if fits (below + 1) then some ⟨below + 1, exponent⟩
  else none

/-- Tries ever finer decimal grids; the exact expansion always reads back. -/
def coarsest (units : Nat) : Nat → Int → Decimal
  | 0, _ => ⟨units * Nat.pow 5 1074, -1074⟩
  | fuel + 1, exponent =>
    match onGrid? units exponent with
    | some d => d
    | none => coarsest units fuel (exponent - 1)

/-- The shortest decimal that reads back as the magnitude. The first grid tried is coarser than
the magnitude itself, and seventeen digits always suffice. -/
def shortest (units : Nat) : Decimal :=
  coarsest units 24 (((units.log2 : Int) - 1073) * 30103 / 100000 + 2)

/-- The general text of a magnitude. Whole numbers of at most 53 bits are their own digits. -/
def magnitudeText (units : Nat) : List Char :=
  if units % unit = 0 ∧ units / unit < Nat.pow 2 53 then Nat.toDigits 10 (units / unit)
  else (shortest units).layout

def toChars : Number → List Char
  | nan => ['N', 'a', 'N']
  | infinity s => (if s then ['-'] else []) ++ ['I', 'n', 'f', 'i', 'n', 'i', 't', 'y']
  | finite s u .. => (if s && u != 0 then ['-'] else []) ++ magnitudeText u

/-- The general text; `-0` is written `0`. -/
def toText (x : Number) : String := String.ofList x.toChars

/-- The digits of `n` with a point before the last `places` of them. -/
def pointed (n places : Nat) : List Char :=
  let fraction := Nat.toDigits 10 (n % Nat.pow 10 places)
  Nat.toDigits 10 (n / Nat.pow 10 places) ++
    '.' :: (List.replicate (places - fraction.length) '0' ++ fraction)

/-- The exact value rounded to `places` decimals, a tie away from zero; at least one place.
From `10 ^ 21` up and for what is not finite it is the general text. -/
def toFixedChars (x : Number) (places : Nat) : List Char :=
  match x with
  | finite s u .. =>
    if Nat.pow 10 21 * unit ≤ u then x.toChars
    else
      (if s && u != 0 then ['-'] else []) ++
        pointed (nearestUp (u * Nat.pow 10 places) unit) places
  | x => x.toChars

def toFixed (x : Number) (places : Nat) : String := String.ofList (x.toFixedChars places)

end Number

end Telemetry
