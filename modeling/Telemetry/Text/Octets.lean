import Telemetry.Text.Percent

/-! # Octets

Octets stand in a text as characters of their own, behind percent signs, or by six bits a
character. As UTF-8 they give a text again: what is not well formed becomes the replacement
character, and a byte order mark at the beginning is no part of the text.
-/
namespace Telemetry.Text

/-- The octets of a text. A percent sign without two digits behind it stands for itself. -/
def percentOctets : List Char → List Nat
  | '%' :: a :: b :: rest =>
    match hexValue? a, hexValue? b with
    | some high, some low => (16 * high + low) :: percentOctets rest
    | _, _ => octets '%' ++ percentOctets (a :: b :: rest)
  | c :: rest => octets c ++ percentOctets rest
  | [] => []

def replacement : Char := '\ufffd'

/-- The character that an octet alone gives, if it does not announce others. -/
def opening (n : Nat) : List Char × Pending :=
  if n < 0x80 then ([Char.ofNat n], {})
  else match lead? n with
    | some p => ([], p)
    | none => ([replacement], {})

/-- The text behind the octets of a character that is not complete. -/
def readPending (p : Pending) : List Nat → List Char
  | [] => if p.needed = 0 then [] else [replacement]
  | n :: rest =>
    if p.needed = 0 then
      let (cs, p) := opening n
      cs ++ readPending p rest
    else if p.low ≤ n ∧ n ≤ p.high then
      let value := 64 * p.value + (n - 0x80)
      if p.needed = 1 then Char.ofNat value :: readPending {} rest
      else readPending { needed := p.needed - 1, value := value } rest
    else
      let (cs, p) := opening n
      replacement :: cs ++ readPending p rest

/-- The text of octets. -/
def readOctets (ns : List Nat) : List Char :=
  match readPending {} ns with
  | '\ufeff' :: rest => rest
  | cs => cs

/-- Six bits by a character. -/
def sixBits? (n : Nat) : Option Nat :=
  if 65 ≤ n ∧ n ≤ 90 then some (n - 65)
  else if 97 ≤ n ∧ n ≤ 122 then some (n - 71)
  else if 48 ≤ n ∧ n ≤ 57 then some (n + 4)
  else if n = 43 then some 62
  else if n = 47 then some 63
  else none

/-- The octets of six bits each; four of these make three octets, and bits left over count for
nothing. -/
def joinBits : List Nat → List Nat
  | a :: b :: c :: d :: rest =>
    (4 * a + b / 16) :: (b % 16 * 16 + c / 4) :: (c % 4 * 64 + d) :: joinBits rest
  | [a, b, c] => [4 * a + b / 16, b % 16 * 16 + c / 4]
  | [a, b] => [4 * a + b / 16]
  | _ => []

/-- Drops one or two equals signs at the end of a whole number of fours. -/
def unpad (ns : List Nat) : List Nat :=
  if ns.length % 4 = 0 then
    match ns.reverse with
    | 61 :: 61 :: rest => rest.reverse
    | 61 :: rest => rest.reverse
    | _ => ns
  else ns

/-- The octets that octets stand for by six bits each, whatever blanks are between them. -/
def base64? (ns : List Nat) : Option (List Nat) :=
  let digits := unpad (ns.filter fun n => !([9, 10, 12, 13, 32].contains n))
  if digits.length % 4 = 1 then none else (digits.mapM sixBits?).map joinBits

end Telemetry.Text
