/-! # Percent encoding of path components

A component is written with its letters, digits and nine marks as they are and every other
character as the octets of its UTF-8 form, two hexadecimal digits each. Reading is strict: every
percent sign starts an octet, and the octets between plain characters are well-formed UTF-8.
-/
namespace Telemetry.Text

def hexValue? (c : Char) : Option Nat :=
  if c.isDigit then some (c.toNat - 48)
  else if 'a' ≤ c ∧ c ≤ 'f' then some (c.toNat - 87)
  else if 'A' ≤ c ∧ c ≤ 'F' then some (c.toNat - 55)
  else none

def hexDigit (n : Nat) : Char := Char.ofNat (if n < 10 then 48 + n else 55 + n)

/-- The octets of a character in UTF-8. -/
def octets (c : Char) : List Nat :=
  let n := c.toNat
  if n < 0x80 then [n]
  else if n < 0x800 then [0xC0 + n / 64, 0x80 + n % 64]
  else if n < 0x10000 then [0xE0 + n / 4096, 0x80 + n / 64 % 64, 0x80 + n % 64]
  else [0xF0 + n / 262144, 0x80 + n / 4096 % 64, 0x80 + n / 64 % 64, 0x80 + n % 64]

def percentOctet (n : Nat) : List Char := ['%', hexDigit (n / 16), hexDigit (n % 16)]

def percentChar (c : Char) : List Char := (octets c).flatMap percentOctet

/-- Letters, digits and the marks of a component that stay as they are. -/
def isComponentChar (c : Char) : Bool := c.isAlphanum || "-_.!~*\x27()".toList.contains c

def encodeComponent (cs : List Char) : List Char :=
  cs.flatMap fun c => if isComponentChar c then [c] else percentChar c

/-- A plain character or an octet that stood behind a percent sign. -/
inductive Piece where
  | plain (c : Char)
  | octet (n : Nat)
  deriving DecidableEq

def pieces? : List Char → Option (List Piece)
  | [] => some []
  | '%' :: a :: b :: rest =>
    match hexValue? a, hexValue? b with
    | some high, some low => (pieces? rest).map (.octet (16 * high + low) :: ·)
    | _, _ => none
  | c :: rest => if c = '%' then none else (pieces? rest).map (.plain c :: ·)

/-- A character of which `needed` octets are to come, the next one from `low` to `high`. -/
structure Pending where
  needed : Nat := 0
  low : Nat := 0x80
  high : Nat := 0xBF
  value : Nat := 0

/-- What a lead octet announces. The narrowed ranges exclude overlong forms, surrogates and
values beyond the last character. -/
def lead? (n : Nat) : Option Pending :=
  if 0xC2 ≤ n ∧ n ≤ 0xDF then some { needed := 1, value := n - 0xC0 }
  else if n = 0xE0 then some { needed := 2, low := 0xA0, value := 0 }
  else if n = 0xED then some { needed := 2, high := 0x9F, value := n - 0xE0 }
  else if 0xE1 ≤ n ∧ n ≤ 0xEF then some { needed := 2, value := n - 0xE0 }
  else if n = 0xF0 then some { needed := 3, low := 0x90, value := 0 }
  else if 0xF1 ≤ n ∧ n ≤ 0xF3 then some { needed := 3, value := n - 0xF0 }
  else if n = 0xF4 then some { needed := 3, high := 0x8F, value := 4 }
  else none

/-- Joins octets to characters. -/
def assemble? (p : Pending) : List Piece → Option (List Char)
  | [] => if p.needed = 0 then some [] else none
  | .plain c :: rest => if p.needed = 0 then (assemble? p rest).map (c :: ·) else none
  | .octet n :: rest =>
    if p.needed = 0 then
      if n < 0x80 then (assemble? p rest).map (Char.ofNat n :: ·)
      else match lead? n with
        | some q => assemble? q rest
        | none => none
    else if p.low ≤ n ∧ n ≤ p.high then
      let value := 64 * p.value + (n - 0x80)
      if p.needed = 1 then (assemble? {} rest).map (Char.ofNat value :: ·)
      else assemble? { needed := p.needed - 1, value := value } rest
    else none

/-- The component that a text stands for, if its percent signs are well formed. -/
def decodeComponent? (cs : List Char) : Option (List Char) := (pieces? cs).bind (assemble? {})

end Telemetry.Text
