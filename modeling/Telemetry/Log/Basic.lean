import Telemetry.Failure
import Telemetry.Text.Blank
import Telemetry.Text.Case
import Telemetry.Text.Units

/-! # Log levels and log entries

The levels are those of a logger from outside, which gives each of them a name and a severity. An
entry is visible when it is at least as severe as the threshold. The threshold `silent` lies above
every entry.
-/
namespace Telemetry.Log

/-- A level, by the name that the logger has for it. -/
structure Level where
  name : String
  deriving DecidableEq, Inhabited

namespace Level

/-! The levels at which the program writes. -/

def debug : Level := ⟨"debug"⟩

def info : Level := ⟨"info"⟩

def warn : Level := ⟨"warn"⟩

def error : Level := ⟨"error"⟩

/-- The threshold that lets nothing through. -/
def silent : Level := ⟨"silent"⟩

end Level

/-- The levels of a logger with their severities. Their names are plain words, so that a text with
letters of either case is compared with them by its ASCII letters alone. -/
structure Levels where
  severities : List (Level × Nat)
  isPlain : severities.all (fun l => Text.isPlainWord l.1.name) = true

namespace Levels

def severity? (levels : Levels) (level : Level) : Option Nat := levels.severities.lookup level

/-- The levels that can be thresholds. -/
def thresholds (levels : Levels) : List Level := levels.severities.map (·.1) ++ [.silent]

/-- The names of the thresholds in their order. -/
def names (levels : Levels) : List String :=
  (levels.thresholds.map Level.name).eraseDups.mergeSort Text.le

/-- A threshold by its name in any case and with blanks around it. -/
def read? (levels : Levels) (text : String) : Option Level :=
  levels.thresholds.find? fun level => level.name == Text.lowerAscii (Text.trim text)

end Levels

/-- Fields from outside, in which `err` holds what somebody threw. -/
def fieldsOf (members : List (String × Datum)) : List (String × Datum) :=
  members.map fun m => if m.1 == "err" then (m.1, (Failure.value m.2).datum) else m

/-- The part of the program that writes an entry. -/
inductive Source where
  | root | metrics | alerts | perf | http
  deriving DecidableEq

def Source.name : Source → String
  | .root => "root"
  | .metrics => "metrics"
  | .alerts => "alerts"
  | .perf => "perf"
  | .http => "http"

structure Entry where
  source : Source
  level : Level
  message : String
  fields : List (String × Datum) := []

/-- Whether a threshold lets an entry through. One without a severity lets none. -/
def Entry.visible (levels : Levels) (threshold : Level) (e : Entry) : Bool :=
  match levels.severity? threshold, levels.severity? e.level with
  | some least, some severity => decide (least ≤ severity)
  | _, _ => false

/-- The entries that a threshold lets through. -/
def visible (levels : Levels) (threshold : Level) (entries : List Entry) : List Entry :=
  entries.filter (·.visible levels threshold)

/-- The log with its threshold. Entries are in order of writing. -/
structure Journal where
  levels : Levels
  threshold : Level
  entries : List Entry := []

namespace Journal

def write (j : Journal) (entries : List Entry) : Journal :=
  { j with entries := j.entries ++ visible j.levels j.threshold entries }

def levelNames (levels : Levels) : String := String.intercalate ", " levels.names

def unknownLevel (levels : Levels) (text : String) : String :=
  "Unknown log level \"" ++ text ++ "\" (available: " ++ levelNames levels ++ ")"

/-- Changes the threshold. The change is announced under the new threshold; setting the present
one announces nothing. -/
def setLevel (j : Journal) (text : String) : Except Failure Journal :=
  match j.levels.read? text with
  | none => .error (.plain (unknownLevel j.levels text))
  | some level =>
    if level = j.threshold then .ok j
    else
      .ok ({ j with threshold := level }.write
        [{ source := .root, level := .info, message := "Log level updated",
           fields := [("level", .text level.name)] }])

end Journal

/-- A logger: its levels, and the threshold that it takes from what it is created with. -/
structure Logger where
  levels : Levels
  first : Datum → Except Failure Level

/-- The log of a new logger. -/
def Logger.journal (logger : Logger) (level : Datum) : Except Failure Journal :=
  (logger.first level).map fun threshold => { levels := logger.levels, threshold := threshold }

end Telemetry.Log
