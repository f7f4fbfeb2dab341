import Telemetry.Table
import Telemetry.Text.Percent
import Telemetry.Text.Split
import Telemetry.Text.Units

/-! # Route patterns

A pattern is a path whose segments are literal or, after a colon, the name of a parameter. Empty
segments do not count on either side.
-/
namespace Telemetry.Web

/-- A name that no parameter record can hold. -/
def reservedParameter : List Char := "__proto__".toList

/-- The segments of a path that are not empty. -/
def segments (path : String) : List (List Char) :=
  (Text.splitWhere (· == '/') path.toList).filter fun segment => !segment.isEmpty

abbrev Parameters := Table (List Char) (List Char)

/-- Sets a parameter; the last value of a name stays. -/
def setParameter (params : Parameters) (name value : List Char) : Parameters :=
  if name = reservedParameter then params else params.alter name fun _ => value

/-- Matches segment by segment and collects the decoded parameters. -/
def matchSegments (params : Parameters) :
    List (List Char) → List (List Char) → Option Parameters
  | [], [] => some params
  | (':' :: name) :: expected, actual :: rest =>
    match Text.decodeComponent? actual with
    | some value => matchSegments (setParameter params name value) expected rest
    | none => none
  | literal :: expected, actual :: rest =>
    if literal = actual then matchSegments params expected rest else none
  | _, _ => none

/-- The parameters of a path that fits the pattern. -/
def matchPattern (pattern path : String) : Option Parameters :=
  matchSegments [] (segments pattern) (segments path)

/-- Names and values in the order of the names. -/
def Parameters.sorted (params : Parameters) : List (String × String) :=
  (params.map fun p => (String.ofList p.1, String.ofList p.2)).mergeSort fun a b => Text.le a.1 b.1

end Telemetry.Web
