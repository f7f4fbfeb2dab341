/-! # Texts in letters and digits

A text is written as its ASCII characters, a hyphen, and digits in base 36 that say which other
characters are to be put in, and where. Each number says how far to go from the last place through
all places and all characters in ascending order; how many digits it takes adapts to the numbers
before it.
-/
namespace Telemetry.Text.Punycode

/-- The value of a digit: the letters come first. -/
def digit? (c : Char) : Option Nat :=
  if c.isLower then some (c.toNat - 97)
  else if c.isDigit then some (c.toNat - 22)
  else none

/-- A digit below this value ends its number. -/
def threshold (position bias : Nat) : Nat :=
  if position ≤ bias then 1 else if bias + 26 ≤ position then 26 else position - bias

/-- Divides until the distance is small and counts 36 for each division. -/
def settle (distance : Nat) : Nat × Nat :=
  if 455 < distance then
    let (distance, count) := settle (distance / 35)
    (distance, count + 36)
  else (distance, 0)
termination_by distance

/-- The bias after a distance that led to `count` characters. -/
def adapt (distance count : Nat) (first : Bool) : Nat :=
  let scaled := if first then distance / 700 else distance / 2
  let (rest, base) := settle (scaled + scaled / count)
  base + 36 * rest / (rest + 38)

/-- The characters so far and the number that is being read. -/
structure State where
  chars : List Char
  code : Nat := 128
  start : Nat := 0
  bias : Nat := 72
  place : Nat := 0
  weight : Nat := 1
  position : Nat := 36

/-- Puts a character in when its number is complete. -/
def State.put? (s : State) (place : Nat) : Option State :=
  let count := s.chars.length + 1
  let code := s.code + place / count
  let next := place % count
  if code.isValidChar then
    some
      { chars := s.chars.insertIdx next (Char.ofNat code), code := code, start := next + 1
        bias := adapt (place - s.start) count (s.start == 0), place := next + 1 }
  else none

/-- Numbers and weights must stay below this bound. -/
def bound : Nat := Nat.pow 2 31

/-- Reads one digit. -/
def State.read? (s : State) (c : Char) : Option State :=
  (digit? c).bind fun d =>
    let place := s.place + d * s.weight
    let limit := threshold s.position s.bias
    let weight := s.weight * (36 - limit)
    if bound ≤ place then none
    else if d < limit then s.put? place
    else if bound ≤ weight then none
    else some { s with place := place, weight := weight, position := s.position + 36 }

def State.readAll? (s : State) : List Char → Option State
  | [] => some s
  | c :: rest => (s.read? c).bind fun next => next.readAll? rest

/-- The text before the last hyphen, empty where there is none, and the text behind it. -/
def splitLast (cs : List Char) : List Char × List Char :=
  (((cs.reverse.dropWhile (· != '-')).drop 1).reverse, (cs.reverse.takeWhile (· != '-')).reverse)

/-- The characters that a text in small letters stands for. -/
def decode? (cs : List Char) : Option (List Char) :=
  let (basic, digits) := splitLast cs
  (State.readAll? { chars := basic } digits).bind fun s =>
    if s.position = 36 then some s.chars else none

end Telemetry.Text.Punycode
