import Telemetry.Number.Numeral
import Telemetry.Text.Percent
import Telemetry.Text.Split
import Telemetry.Web.Domain.Label

/-! # Hosts of addresses

A host is a domain, an address of four numbers, or an address of eight groups in brackets. A
scheme that knows nothing of domains takes any text without delimiters as a host.
-/
namespace Telemetry.Web

/-- Characters that no host may hold. -/
def isForbiddenHostChar (c : Char) : Bool :=
  c.toNat == 0 || c == '\t' || c == '\n' || c == '\r' || " #/:<>?@[\\]^|".toList.contains c

/-- Characters that no domain may hold. -/
def isForbiddenDomainChar (c : Char) : Bool :=
  isForbiddenHostChar c || c.toNat < 32 || c == '%' || c.toNat == 127

/-- A part of an address of numbers, in base ten, in base eight after `0` and in base sixteen
after `0x`. -/
def addressPart? (cs : List Char) : Option Nat :=
  let digits := fun (base : Nat) (ds : List Char) =>
    if ds.all fun c => decide (Number.digitValue c < base) then
      some (Number.digitsValue base ds)
    else none
  match cs with
  | [] => none
  | '0' :: mark :: rest =>
    if mark = 'x' ∨ mark = 'X' then digits 16 rest else digits 8 (mark :: rest)
  | cs => digits 10 cs

/-- The parts between points, without an empty last one. -/
def addressParts (cs : List Char) : List (List Char) :=
  let parts := Text.splitWhere (· == '.') cs
  if 1 < parts.length ∧ parts.getLast? = some [] then parts.dropLast else parts

/-- Whether a domain has to be an address of numbers. -/
def endsInNumber (cs : List Char) : Bool :=
  match (addressParts cs).getLast? with
  | none => false
  | some part => (!part.isEmpty && part.all Char.isDigit) || (addressPart? part).isSome

/-- At most four parts, each below 256 but the last, which fills the remaining octets. -/
def isNumberAddress (cs : List Char) : Bool :=
  let parts := addressParts cs
  match parts.mapM addressPart? with
  | none => false
  | some numbers =>
    numbers.length ≤ 4 && numbers.dropLast.all (· < 256) &&
      (numbers.getLast?.all fun last => last < Nat.pow 256 (5 - numbers.length))

/-- Whether a text with percent signs is a domain, possibly an address of numbers. -/
def isDomain (cs : List Char) : Bool :=
  match (Text.decodeComponent? cs).bind Domain.spell? with
  | none => false
  | some spelled =>
    let domain := Text.composed spelled
    !domain.isEmpty && (Text.splitWhere (· == '.') domain).all Domain.isLabel &&
      !domain.any isForbiddenDomainChar && (!endsInNumber domain || isNumberAddress domain)

/-- Four numbers below 256 without superfluous zeros. -/
def isDottedTail (cs : List Char) : Bool :=
  let parts := Text.splitWhere (· == '.') cs
  parts.length == 4 && parts.all fun part =>
    !part.isEmpty && part.all Char.isDigit && (part.length == 1 || part.head? != some '0') &&
      Number.digitsValue 10 part < 256

def isGroup (cs : List Char) : Bool :=
  !cs.isEmpty && cs.length ≤ 4 && cs.all fun c => (Text.hexValue? c).isSome

/-- How many of the eight places a run of groups fills. Four numbers fill two places and may
stand at the end alone. -/
def groupPlaces? (final : Bool) : List (List Char) → Option Nat
  | [] => some 0
  | [part] =>
    if isGroup part then some 1 else if final && isDottedTail part then some 2 else none
  | part :: rest => if isGroup part then (groupPlaces? final rest).map (· + 1) else none

/-- The groups between single colons; no text has no groups. -/
def groups (cs : List Char) : List (List Char) :=
  if cs.isEmpty then [] else Text.splitWhere (· == ':') cs

/-- The text before and after the first double colon. -/
def splitGap : List Char → Option (List Char × List Char)
  | ':' :: ':' :: rest => some ([], rest)
  | c :: rest => (splitGap rest).map fun (before, after) => (c :: before, after)
  | [] => none

/-- Eight places in all; one double colon stands for at least one place. -/
def isGroupAddress (cs : List Char) : Bool :=
  match splitGap cs with
  | none => groupPlaces? true (groups cs) == some 8
  | some (before, after) =>
    match groupPlaces? false (groups before), groupPlaces? true (groups after) with
    | some a, some b => a + b ≤ 7
    | _, _ => false

/-- Whether a text is a host of a scheme with domains (`special`) or of another one. -/
def isHost (special : Bool) (cs : List Char) : Bool :=
  match cs with
  | '[' :: rest => rest.getLast? == some ']' && isGroupAddress rest.dropLast
  | cs => if special then isDomain cs else !cs.any isForbiddenHostChar

end Telemetry.Web
