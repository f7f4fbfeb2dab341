import Telemetry.Command.Serving
import Telemetry.Log.Line
import Telemetry.Package.Loader
import Telemetry.Package.Logger

/-! # The program

The command line over the environment of the process. Log lines go to standard output before the
text of the command. This program has no listener of its own, so `serve` reports that it cannot
start.
-/
namespace Telemetry

/-- The variables that matter. -/
def readEnvironment : IO Settings.Environment :=
  Package.Start.variableNames.filterMapM fun name => do
    return (← IO.getEnv name).map fun value => (name, value)

def noListener : Service.Setup := { startedAt := 0, bound := .error (.plain "no listener") }

/-- Runs the command line with the packages for settings and for the log. Before its outcome comes
what the start has to say. -/
def runCommand (loader : Settings.Loader) (logger : Log.Logger) (start : Settings.Start) :
    Except Failure (String × Command.Outcome (Unit × Service)) := do
  let warnings ← loader.warnings start
  let journal ← Settings.startJournal loader logger start
  let settings := Settings.Runtime.load loader start
  let outcome := Command.run start.argv
    (Command.Surroundings.ofService settings (fun _ => noListener) [] () "SIGTERM") journal
  return (warnings, outcome.logged)

end Telemetry

open Telemetry in
def main (argv : List String) : IO UInt32 := do
  let start : Settings.Start := { env := ← readEnvironment, argv := argv }
  let settings := Settings.Runtime.load Package.loader start
  match runCommand Package.loader Package.logger start with
  | .error failure =>
    IO.eprintln failure.message
    return 1
  | .ok (warnings, outcome) =>
    IO.eprint warnings
    for entry in outcome.journal.entries do
      IO.println (entry.line Package.logger.levels settings.appName)
    IO.print outcome.stdout
    IO.eprint outcome.stderr
    return outcome.code.toUInt32
