import Telemetry.Number.Basic

/-! # Rounding to whole numbers

A result of zero keeps the sign of what was rounded.
-/
namespace Telemetry.Number

/-- Replaces a finite magnitude in units by a whole number, which may depend on the sign. -/
def mapWhole (f : Bool → Nat → Nat) : Number → Number
  | finite s u .. => ofRatio s (f s u) 1
  | x => x

/-- Drops the fraction. -/
def truncate (x : Number) : Number := x.mapWhole fun _ u => u / unit

/-- The largest whole number that is not above. -/
def floor (x : Number) : Number :=
  x.mapWhole fun s u => if s then (u + (unit - 1)) / unit else u / unit

/-- The smallest whole number that is not below. -/
def ceil (x : Number) : Number :=
  x.mapWhole fun s u => if s then u / unit else (u + (unit - 1)) / unit

/-- The nearest whole number; a half goes up, so `-0.5` goes to `-0`. -/
def roundHalfUp (x : Number) : Number :=
  x.mapWhole fun s u => if s then (2 * u + (unit - 1)) / (2 * unit) else nearestUp u unit

/-- Rounded to hundredths by way of whole hundredths. -/
def roundHundredths (x : Number) : Number := roundHalfUp (x * 100) / 100

/-- The whole number that a finite value without a fraction stands for. -/
def toInt? : Number → Option Int
  | finite s u .. => if u % unit = 0 then some (signed s (u / unit)) else none
  | _ => none

def isWhole (x : Number) : Bool := x.toInt?.isSome

/-- The low 32 bits of the whole part as a number with a sign, zero for what is not finite. -/
def toInt32 (x : Number) : Int := (x.truncate.toInt?.getD 0).bmod 4294967296

/-- Whole and of at most 53 bits, so that its neighbours are whole numbers too. -/
def isSafeWhole (x : Number) : Bool := x.toInt?.any fun n => n.natAbs < Nat.pow 2 53

end Telemetry.Number
