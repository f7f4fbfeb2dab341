/-! # Order of texts by UTF-16 code units

A character outside the basic plane counts as two units, a high and a low surrogate, and so
sorts below the characters from `U+E000` up. Texts compare like their lists of units.
-/
namespace Telemetry.Text

def charUnits (c : Char) : List Nat :=
  if c.toNat < 0x10000 then [c.toNat]
  else [0xD800 + (c.toNat - 0x10000) / 0x400, 0xDC00 + (c.toNat - 0x10000) % 0x400]

def units (s : String) : List Nat := s.toList.flatMap charUnits

/-- Lexicographic comparison; a proper beginning comes first. -/
def compareUnits : List Nat → List Nat → Ordering
  | [], [] => .eq
  | [], _ :: _ => .lt
  | _ :: _, [] => .gt
  | a :: s, b :: t => if a = b then compareUnits s t else if a < b then .lt else .gt

/-- The order of two texts. -/
def compare (s t : String) : Ordering := compareUnits (units s) (units t)

def le (s t : String) : Bool := compare s t != .gt

end Telemetry.Text
