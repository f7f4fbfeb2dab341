import Telemetry.Command.Arguments
import Telemetry.Json.Writer
import Telemetry.Settings.Basic
import Telemetry.Shutdown

/-! # Running a command

A command ends with a code and what it wrote to the two streams. Faulty arguments or an unknown
log level stop it before it does anything. To serve is to start the service, to wait for a signal
and to run the shutdown hooks.
-/
namespace Telemetry.Command

open Shutdown (Registry)

/-- A service that runs: its port, the hooks that take it down and the state they act on. -/
structure Running (σ : Type) where
  port : Datum
  hooks : Registry σ
  state : σ

/-- What the commands depend on: the settings that loading gives, the start of the service and
the signal that comes in the end. -/
structure Surroundings (σ : Type) where
  settings : Settings.Runtime
  start : Settings.Runtime → Log.Journal → Log.Journal × Except Failure (Running σ)
  signal : String

/-- What a command did to its surroundings. -/
inductive Effect where
  | load
  | start (settings : Settings.Runtime)

/-- The end of a command, with the state after the hooks if they ran. A fault that the command
does not handle ends it, and the process that runs it ends with code 1. -/
structure Outcome (σ : Type) where
  code : Nat
  stdout : String := ""
  stderr : String := ""
  journal : Log.Journal
  effects : List Effect := []
  state : Option σ := none
  fault : Option Failure := none

def usage : List String := [
  "vendorcat observability CLI",
  "",
  "Usage:",
  "  vendorcat-observability <command> [options]",
  "",
  "Commands:",
  "  serve          Start the instrumented HTTP server",
  "  config         Print the resolved runtime configuration as JSON",
  "  help           Show this help message",
  "",
  "Options:",
  "  --log-level <level>  Override the configured log level",
  "  --port <port>        Override the listen port (serve)",
  "  --host <host>        Override the listen host (serve)",
  "  --pretty             Indent JSON output (config)"]

/-- The text of lines, each with its line feed. -/
def linesText (lines : List String) : String := String.join (lines.map (· ++ "\n"))

def helpText (levels : Log.Levels) : String :=
  linesText (usage ++ ["", "Log levels: " ++ Log.Journal.levelNames levels])

/-- The settings with the values from the command line in their places. -/
def Arguments.override (a : Arguments) (s : Settings.Runtime) : Settings.Runtime :=
  { s with
    logLevel := a.logLevel.getD s.logLevel
    server := { s.server with
      port := a.port.getD s.server.port
      host := a.host.getD s.server.host } }

def failedStart (failure : Failure) : Log.Entry :=
  { source := .root, level := .error, message := "Server failed to start"
    fields := [("err", failure.datum)] }

def hookMessage (r : Shutdown.Result) (failure : Failure) : String :=
  "Shutdown hook " ++ r.name ++ " failed: " ++ failure.message

def failedCommand (fault : Failure) : Log.Entry :=
  { source := .root, level := .error, message := "CLI failed", fields := [("err", fault.datum)] }

/-- The outcome with the fault that ended the command, if any, in the log. -/
def Outcome.logged {σ : Type} (o : Outcome σ) : Outcome σ :=
  match o.fault with
  | none => o
  | some fault => { o with journal := o.journal.write [failedCommand fault] }

/-- A line for each hook that failed. -/
def hookMessages (results : List Shutdown.Result) : List String :=
  results.filterMap fun r => r.failure.map (hookMessage r)

variable {σ : Type}

def serve (a : Arguments) (s : Surroundings σ) (journal : Log.Journal) : Outcome σ :=
  let settings := a.override s.settings
  let effects := [.load, .start settings]
  match s.start settings journal with
  | (journal, .error failure) =>
    { code := 1
      stderr := linesText ["Server failed to start. Check logs for details."]
      journal := journal.write [failedStart failure]
      effects := effects }
  | (journal, .ok running) =>
    let report := running.hooks.run { reason := "signal", signal := some s.signal } running.state
    let listening := "Listening on " ++ settings.server.host ++ ":" ++ running.port.plain
    let ended : Outcome σ :=
      { code := 1
        stdout := linesText [listening]
        journal := journal.write report.logs
        effects := effects
        state := some report.state }
    match report.answer with
    | .error fault => { ended with fault := some fault }
    | .ok results =>
      { ended with
        code := if results.any (·.failed) then 1 else 0
        stdout := linesText [listening, "Stopped (" ++ s.signal ++ ")"]
        stderr := linesText (hookMessages results) }

/-- The settings as they are printed. -/
def configText (pretty : Bool) (settings : Settings.Runtime) : String :=
  let tree := settings.masked.datum
  linesText [if pretty then Json.writePretty tree else Json.write tree]

/-- Sets the log level that the arguments ask for. -/
def Arguments.applyLevel (a : Arguments) (journal : Log.Journal) : Except Failure Log.Journal :=
  match a.logLevel with
  | none => .ok journal
  | some level => journal.setLevel level

/-- Runs the command that the arguments name. -/
def perform (a : Arguments) (s : Surroundings σ) (journal : Log.Journal) : Outcome σ :=
  let command := a.commandName
  if command = "serve" then serve a s journal
  else if command = "config" then
    { code := 0, stdout := configText a.pretty s.settings, journal := journal, effects := [.load] }
  else if command = "help" then { code := 0, stdout := helpText journal.levels, journal := journal }
  else { code := 1, stderr := linesText ["Unknown command: " ++ command], journal := journal }

/-- Reads the arguments and runs their command. -/
def run (argv : List String) (s : Surroundings σ) (journal : Log.Journal) : Outcome σ :=
  let a := Arguments.parse argv
  if a.errors.isEmpty then
    match a.applyLevel journal with
    | .error failure => { code := 1, stderr := linesText [failure.message], journal := journal }
    | .ok journal => perform a s journal
  else { code := 1, stderr := linesText (a.errors.map ArgumentError.message), journal := journal }

end Telemetry.Command
