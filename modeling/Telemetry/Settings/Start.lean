import Telemetry.Log.Basic
import Telemetry.Settings.Basic

/-! # The start of a program

A program is started with an environment and arguments. A package from outside makes a tree of
settings of them, which is resolved. The logger takes its level from the tree as it stands.
-/
namespace Telemetry.Settings

/-- Names with their values, the first of two equal names in force. -/
abbrev Environment := List (String × String)

/-- What a program is started with. -/
structure Start where
  env : Environment
  argv : List String := []

/-- A package that loads settings: the tree of a start, and what it writes to the error output
unless it lets the start fail. -/
structure Loader where
  tree : Start → Datum
  warnings : Start → Except Failure String

/-- The settings of a start. -/
def Runtime.load (loader : Loader) (s : Start) : Runtime := Runtime.resolve (loader.tree s)

/-- The log at a start, before settings are resolved. -/
def startJournal (loader : Loader) (logger : Log.Logger) (s : Start) : Except Failure Log.Journal :=
  logger.journal (match ((loader.tree s).get "logging").get "level" with
    | .absent => .text "info"
    | level => level)

end Telemetry.Settings
