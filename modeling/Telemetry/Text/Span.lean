/-! # Spans of characters -/
namespace Telemetry.Text

/-- The characters from the first to the second code. -/
abbrev Span := Nat × Nat

def Span.holds (n : Nat) (s : Span) : Bool := s.1 ≤ n && n ≤ s.2

/-- Whether a character lies in one of the spans. -/
def isIn (spans : List Span) (c : Char) : Bool := spans.any (Span.holds c.toNat)

end Telemetry.Text
