import Telemetry.Datum
import Telemetry.Number.Numeral
import Telemetry.Text.Percent

/-! # Reading JSON

The reader takes exactly the JSON grammar. In a record, names that are whole numbers below
`2 ^ 32 - 1` come first in ascending order and the others in order of appearance; a repeated name
keeps its first place and its last value.
-/
namespace Telemetry.Json

def isSpace (c : Char) : Bool := c == ' ' || c == '\t' || c == '\n' || c == '\r'

def skip (cs : List Char) : List Char := cs.dropWhile isSpace

/-- A surrogate pair is one character; a surrogate alone becomes the replacement character. -/
def joinUnits : List Nat → List Char
  | [] => []
  | [n] => [if 0xD800 ≤ n ∧ n < 0xE000 then Char.ofNat 0xFFFD else Char.ofNat n]
  | n :: m :: rest =>
    if 0xD800 ≤ n ∧ n < 0xDC00 ∧ 0xDC00 ≤ m ∧ m < 0xE000 then
      Char.ofNat (0x10000 + (n - 0xD800) * 0x400 + (m - 0xDC00)) :: joinUnits rest
    else
      (if 0xD800 ≤ n ∧ n < 0xE000 then Char.ofNat 0xFFFD else Char.ofNat n) :: joinUnits (m :: rest)

def hexUnit? (a b c d : Char) : Option Nat := do
  let w ← Text.hexValue? a
  let x ← Text.hexValue? b
  let y ← Text.hexValue? c
  let z ← Text.hexValue? d
  return ((w * 16 + x) * 16 + y) * 16 + z

/-- The units of a text up to its closing quote, in reverse, and what follows the quote. -/
def scan? (units : List Nat) : List Char → Option (List Nat × List Char)
  | [] => none
  | '"' :: rest => some (units, rest)
  | '\\' :: 'u' :: a :: b :: c :: d :: rest =>
    match hexUnit? a b c d with
    | some n => scan? (n :: units) rest
    | none => none
  | '\\' :: c :: rest =>
    match [('"', 34), ('\\', 92), ('/', 47), ('b', 8), ('f', 12), ('n', 10), ('r', 13),
        ('t', 9)].lookup c with
    | some n => scan? (n :: units) rest
    | none => none
  | c :: rest => if c.toNat < 32 ∨ c = '\\' then none else scan? (c.toNat :: units) rest

/-- A text after its opening quote. -/
def text? (cs : List Char) : Option (String × List Char) :=
  (scan? [] cs).map fun (units, rest) => (String.ofList (joinUnits units.reverse), rest)

def isNumberChar (c : Char) : Bool :=
  c.isDigit || c == '-' || c == '+' || c == '.' || c == 'e' || c == 'E'

/-- A digit sequence without superfluous leading zeros. -/
def wholePart? (cs : List Char) : Bool :=
  match cs with
  | [] => false
  | '0' :: rest => rest.isEmpty
  | _ => true

/-- A number: in contrast to a numeral it has digits on both sides of its point and neither a
plus sign nor a leading zero. -/
def number? (cs : List Char) : Option (Number × List Char) :=
  let body := cs.takeWhile isNumberChar
  let rest := cs.dropWhile isNumberChar
  let (negative, magnitude) := match body with
    | '-' :: m => (true, m)
    | m => (false, m)
  let whole := magnitude.takeWhile Char.isDigit
  let pointed := match magnitude.dropWhile Char.isDigit with
    | '.' :: c :: _ => c.isDigit
    | '.' :: [] => false
    | _ => true
  if wholePart? whole && pointed then
    (Number.decimal? negative magnitude).map fun x => (x, rest)
  else none

/-- Whether a name counts as a place in a list. -/
def place? (name : String) : Option Nat :=
  let cs := name.toList
  if cs.all Char.isDigit && wholePart? cs then
    let n := Number.digitsValue 10 cs
    if n < Nat.pow 2 32 - 1 then some n else none
  else none

/-- Gives a name its value, in its old place if it has one. -/
def setMember (members : List (String × Datum)) (name : String) (value : Datum) :
    List (String × Datum) :=
  if members.any (·.1 == name) then
    members.map fun m => if m.1 == name then (name, value) else m
  else members ++ [(name, value)]

def arrangeMembers (members : List (String × Datum)) : List (String × Datum) :=
  let distinct := members.foldl (fun ms m => setMember ms m.1 m.2) []
  let places := distinct.filterMap fun m => (place? m.1).map fun n => (n, m)
  (places.mergeSort fun a b => a.1 ≤ b.1).map (·.2) ++
    distinct.filter fun m => (place? m.1).isNone

mutual

/-- A value and what follows it. -/
def value? : Nat → List Char → Option (Datum × List Char)
  | 0, _ => none
  | fuel + 1, cs =>
    match skip cs with
    | 'n' :: 'u' :: 'l' :: 'l' :: rest => some (.null, rest)
    | 't' :: 'r' :: 'u' :: 'e' :: rest => some (.flag true, rest)
    | 'f' :: 'a' :: 'l' :: 's' :: 'e' :: rest => some (.flag false, rest)
    | '"' :: rest => (text? rest).map fun (s, rest) => (.text s, rest)
    | '[' :: rest =>
      match skip rest with
      | ']' :: rest => some (.list [], rest)
      | rest => (items? fuel rest).map fun (items, rest) => (.list items, rest)
    | '\x7b' :: rest =>
      match skip rest with
      | '\x7d' :: rest => some (.record [], rest)
      | rest => (members? fuel rest).map fun (ms, rest) => (.record (arrangeMembers ms), rest)
    | cs => (number? cs).map fun (x, rest) => (.number x, rest)

/-- Items separated by commas, up to the closing bracket. -/
def items? : Nat → List Char → Option (List Datum × List Char)
  | 0, _ => none
  | fuel + 1, cs =>
    match value? fuel cs with
    | none => none
    | some (item, rest) =>
      match skip rest with
      | ',' :: rest => (items? fuel rest).map fun (items, rest) => (item :: items, rest)
      | ']' :: rest => some ([item], rest)
      | _ => none

/-- Members separated by commas, up to the closing brace. -/
def members? : Nat → List Char → Option (List (String × Datum) × List Char)
  | 0, _ => none
  | fuel + 1, cs =>
    match skip cs with
    | '"' :: rest =>
      match text? rest with
      | none => none
      | some (name, rest) =>
        match skip rest with
        | ':' :: rest =>
          match value? fuel rest with
          | none => none
          | some (value, rest) =>
            match skip rest with
            | ',' :: rest => (members? fuel rest).map fun (ms, rest) => ((name, value) :: ms, rest)
            | '\x7d' :: rest => some ([(name, value)], rest)
            | _ => none
        | _ => none
    | _ => none

end

/-- The value of a whole text. Each step of the recursion consumes a character or ends. -/
def read? (s : String) : Option Datum :=
  let cs := s.toList
  match value? (2 * cs.length + 2) cs with
  | some (d, rest) => if (skip rest).isEmpty then some d else none
  | none => none

end Telemetry.Json
