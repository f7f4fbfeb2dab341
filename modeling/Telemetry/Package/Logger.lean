import Telemetry.Log.Basic

/-! # The package that writes the log

The program takes this package from outside; here is one that it can be run with. Without levels of
its own a logger has six. The one it is created with may be a name or a severity.
-/
namespace Telemetry.Package

open Log (Level)

def levels : Log.Levels where
  severities :=
    [(⟨"trace"⟩, 10), (.debug, 20), (.info, 30), (.warn, 40), (.error, 50), (⟨"fatal"⟩, 60)]
  isPlain := by decide

/-- Names that every record knows of itself. They pass for levels but have no severity. -/
def recordNames : List String :=
  ["constructor", "__defineGetter__", "__defineSetter__", "hasOwnProperty", "__lookupGetter__",
    "__lookupSetter__", "isPrototypeOf", "propertyIsEnumerable", "toString", "valueOf",
    "__proto__", "toLocaleString"]

/-- The name of the level that a logger is created with. The levels that have a severity may be
named in any case, and so may the names of records that are known in lower case. A number stands
for the level of that severity. -/
def levelText : Datum → String
  | .text text =>
    let lower := Text.lowerAscii text
    if (levels.severity? ⟨lower⟩).isSome || recordNames.contains lower then lower else text
  | .number x =>
    ((levels.severities.find? fun l => x.eq (Number.ofNat l.2)).map (·.1.name)).getD x.toText
  | level => level.plain

def unknownLevel (text : String) : Failure :=
  if recordNames.contains text then .plain "unknown level undefined"
  else .plain ("default level:" ++ text ++ " must be included in custom levels")

/-- A logger is created only with the exact name of a level. -/
def logger : Log.Logger where
  levels := levels
  first level :=
    if levels.thresholds.contains ⟨levelText level⟩ then .ok ⟨levelText level⟩
    else .error (unknownLevel (levelText level))

end Telemetry.Package
