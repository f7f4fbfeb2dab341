import Telemetry.Text.Blank

/-! # Names of metrics on the wire

Names are made of ASCII letters, digits, underscores, points and hyphens. Any other run of
characters becomes one underscore.
-/
namespace Telemetry.Metric

def isNameChar (c : Char) : Bool := c.isAlphanum || c == '_' || c == '.' || c == '-'

/-- Replaces every run of characters outside the class by one underscore. The flag tells that
the run has already been replaced. -/
def squash (p : Char → Bool) : Bool → List Char → List Char
  | _, [] => []
  | inRun, c :: rest =>
    if p c then c :: squash p false rest
    else if inRun then squash p true rest
    else '_' :: squash p true rest

def isEdge (c : Char) : Bool := c == '.' || c == '_'

/-- The allowed form of a name without points and underscores at its ends. -/
def cleanName (cs : List Char) : List Char :=
  Text.stripWhile isEdge (squash isNameChar false (Text.trimChars cs))

def defaultScope : String := "tvendor"

/-- The allowed form of a scope without points at its ends. -/
def cleanScope (raw : String) : String :=
  let cs := Text.stripWhile (· == '.') (squash isNameChar false raw.toList)
  if cs.isEmpty then defaultScope else String.ofList cs

/-- A name below its scope. -/
def scopedName (scope name : String) : String :=
  let cs := cleanName name.toList
  scope ++ "." ++ if cs.isEmpty then "metric" else String.ofList cs

end Telemetry.Metric
