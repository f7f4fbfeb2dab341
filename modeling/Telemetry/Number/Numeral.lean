import Telemetry.Number.Decimal
import Telemetry.Text.Blank

/-! # Reading numbers

A numeral is a decimal with optional sign, point and exponent, a signed `Infinity`, or an
unsigned whole number in base sixteen, eight or two. Blanks around it are ignored and the empty
text reads as zero; any other text is `nan`.
-/
namespace Telemetry.Number

def digitValue (c : Char) : Nat :=
  if c.isDigit then c.toNat - 48
  else if 'a' ≤ c ∧ c ≤ 'z' then c.toNat - 87
  else if 'A' ≤ c ∧ c ≤ 'Z' then c.toNat - 55
  else 36

/-- The value of a digit list, most significant digit first. -/
def digitsValue (base : Nat) (cs : List Char) : Nat :=
  cs.foldl (fun total c => total * base + digitValue c) 0

/-- A list of at least one digit of the base. -/
def wholeOfBase? (base : Nat) (cs : List Char) : Option Number :=
  if cs ≠ [] ∧ cs.all (fun c => decide (digitValue c < base)) then
    some (ofNat (digitsValue base cs))
  else none

/-- The double nearest to `digits * 10 ^ exponent`, without forming powers out of range. -/
def ofDecimal (negative : Bool) (digits : Nat) (exponent : Int) : Number :=
  let point := (Nat.toDigits 10 digits).length + exponent
  if digits = 0 ∨ point < -330 then ofUnits negative 0 1
  else if 310 < point then infinity negative
  else ofRatio negative (digits * Nat.pow 10 exponent.toNat) (Nat.pow 10 (-exponent).toNat)

/-- An optional exponent up to the end of the text. -/
def exponent? : List Char → Option Int
  | [] => some 0
  | mark :: rest =>
    if mark = 'e' ∨ mark = 'E' then
      let digits := fun cs : List Char =>
        if cs ≠ [] ∧ cs.all Char.isDigit then some (digitsValue 10 cs) else none
      match rest with
      | '+' :: cs => (digits cs).map fun n => (n : Int)
      | '-' :: cs => (digits cs).map fun n => -(n : Int)
      | cs => (digits cs).map fun n => (n : Int)
    else none

/-- Digits with an optional point, at least one digit in all, and an optional exponent. -/
def decimal? (negative : Bool) (cs : List Char) : Option Number :=
  let whole := cs.takeWhile Char.isDigit
  let rest := cs.dropWhile Char.isDigit
  let (fraction, rest) := match rest with
    | '.' :: cs => (cs.takeWhile Char.isDigit, cs.dropWhile Char.isDigit)
    | cs => ([], cs)
  if whole = [] ∧ fraction = [] then none
  else (exponent? rest).map fun e =>
    ofDecimal negative (digitsValue 10 (whole ++ fraction)) (e - fraction.length)

/-- What may follow a sign. -/
def unsigned? (negative : Bool) (cs : List Char) : Option Number :=
  if cs = ['I', 'n', 'f', 'i', 'n', 'i', 't', 'y'] then some (infinity negative)
  else decimal? negative cs

def ofChars? : List Char → Option Number
  | [] => some 0
  | '0' :: mark :: rest =>
    if mark = 'x' ∨ mark = 'X' then wholeOfBase? 16 rest
    else if mark = 'o' ∨ mark = 'O' then wholeOfBase? 8 rest
    else if mark = 'b' ∨ mark = 'B' then wholeOfBase? 2 rest
    else decimal? false ('0' :: mark :: rest)
  | '-' :: rest => unsigned? true rest
  | '+' :: rest => unsigned? false rest
  | cs => unsigned? false cs

/-- The number a text stands for, `nan` if it is no numeral. -/
def ofText (s : String) : Number := (ofChars? (Text.trimChars s.toList)).getD nan

end Telemetry.Number
