import Telemetry.Log.Basic
import Telemetry.Metric.Name
import Telemetry.Number.Decimal

/-! # The line sink

Counters and timings leave as single lines over a datagram socket that is opened on first use
and held until the sink is closed. No failure of a socket reaches the caller: it becomes a
warning, at most one a minute. Only a clock that cannot be read does.
-/
namespace Telemetry.Metric

/-- The least time between two warnings, in milliseconds. -/
def warningInterval : Number := 60000

structure SinkSettings where
  enabled : Bool := false
  host : String := "127.0.0.1"
  port : Number := 8125
  scope : String := defaultScope

/-- How sockets behave: whether one can be made, whether sending and closing throw, and the error
that a transmission reports afterwards. -/
structure Network where
  createThrows : Bool := false
  sendThrows : Bool := false
  closeThrows : Bool := false
  sendError : Option String := none

/-- A counter or a timing to be sent. -/
inductive Emission where
  | counter (name : String) (value : Number)
  | timing (name : String) (ms : Number)

/-- What the sink does to its sockets, which are numbered from one. -/
inductive SocketAction where
  | create (succeeds : Bool)
  | listen (socket : Nat)
  | unref (socket : Nat)
  | send (socket : Nat) (line : String)
  | refuse (socket : Nat) (line : String)
  | close (socket : Nat)
  deriving DecidableEq

/-- A reading of a clock, which may fail. -/
abbrev Reading := Except Failure Number

/-- What one emission meets: the sockets, the clock when a failure is reported, and the clock when
the failure of that report is reported. -/
structure Trial where
  network : Network := {}
  clock : Reading := .ok 0
  again : Reading := .ok 0

/-- The trials of emissions, in order. -/
abbrev Trials := Nat → Trial

namespace Trials

/-- Every emission meets the same sockets at the same reading of the clock. -/
def steady (network : Network) (clock : Reading) : Trials := fun _ => ⟨network, clock, clock⟩

/-- Nothing fails. -/
def calm : Trials := fun _ => {}

end Trials

/-- The socket held, the number of sockets made so far and the time of the last warning. -/
structure Sink where
  settings : SinkSettings
  held : Option Nat := none
  opened : Nat := 0
  lastWarning : Option Number := none

/-- The state after a step with what the step did. -/
structure SinkStep where
  sink : Sink
  actions : List SocketAction := []
  logs : List Log.Entry := []
  failure : Option Failure := none

def SinkStep.after (actions : List SocketAction) (step : SinkStep) : SinkStep :=
  { step with actions := actions ++ step.actions }

namespace Sink

/-- Whether a warning at this time would follow the last one too soon. -/
def isQuiet (s : Sink) (now : Number) : Bool :=
  match s.lastWarning with
  | none => false
  | some last => (now - last).lt warningInterval

def warning (s : Sink) (cause : Failure) : Log.Entry :=
  { source := .metrics, level := .warn, message := "Failed to emit StatsD metric"
    fields := [("err", cause.datum), ("host", .text s.settings.host),
      ("port", .number s.settings.port)] }

/-- Warns of a failure unless the last warning is recent. -/
def report (s : Sink) (clock : Reading) (cause : Failure) : SinkStep :=
  match clock with
  | .error failure => { sink := s, failure := some failure }
  | .ok now =>
    if s.isQuiet now then { sink := s }
    else { sink := { s with lastWarning := some now }, logs := [s.warning cause] }

/-- Sends a line over the held socket. A failure to report a failed transmission is itself
reported once more. -/
def transmit (s : Sink) (t : Trial) (socket : Nat) (line : String) : SinkStep :=
  if t.network.sendThrows then
    (s.report t.clock (.plain "socket is closed")).after [.refuse socket line]
  else
    match t.network.sendError with
    | none => { sink := s, actions := [.send socket line] }
    | some message =>
      let first := s.report t.clock (.plain message)
      (match first.failure with
        | none => first
        | some failure => s.report t.again failure).after [.send socket line]

/-- Sends a line, opening a socket if none is held. -/
def emit (s : Sink) (t : Trial) (line : String) : SinkStep :=
  if !s.settings.enabled then { sink := s }
  else match s.held with
    | some socket => s.transmit t socket line
    | none =>
      if t.network.createThrows then
        (s.report t.clock (.plain "no sockets left")).after [.create false]
      else
        let socket := s.opened + 1
        ({ s with held := some socket, opened := socket }.transmit t socket line).after
          [.create true, .listen socket, .unref socket]

def metricName (s : Sink) (name : String) : String := scopedName s.settings.scope name

/-- The line of a counter; nothing below one. -/
def counterLine? (s : Sink) (name : String) (value : Number) : Option String :=
  if value.isFinite && Number.le 1 value.truncate then
    some (s.metricName name ++ ":" ++ value.truncate.toText ++ "|c")
  else none

/-- The line of a timing, two decimals; nothing below zero. -/
def timingLine? (s : Sink) (name : String) (ms : Number) : Option String :=
  if ms.isFinite && !ms.lt 0 then some (s.metricName name ++ ":" ++ ms.toFixed 2 ++ "|ms")
  else none

def emit? (s : Sink) (t : Trial) (line : Option String) : SinkStep :=
  match line with
  | some line => s.emit t line
  | none => { sink := s }

def counter (s : Sink) (t : Trial) (name : String) (value : Number) : SinkStep :=
  s.emit? t (s.counterLine? name value)

def timing (s : Sink) (t : Trial) (name : String) (ms : Number) : SinkStep :=
  s.emit? t (s.timingLine? name ms)

def perform (s : Sink) (t : Trial) : Emission → SinkStep
  | .counter name value => s.counter t name value
  | .timing name ms => s.timing t name ms

/-- Performs emissions one after another until one fails, each with a trial of its own. -/
def performAll (s : Sink) (trials : Trials) : List Emission → SinkStep
  | [] => { sink := s }
  | e :: rest =>
    let first := s.perform (trials 0) e
    match first.failure with
    | some _ => first
    | none =>
      let others := first.sink.performAll (fun n => trials (n + 1)) rest
      { others with
        actions := first.actions ++ others.actions
        logs := first.logs ++ others.logs }

/-- An error that the latest socket raises on its own. -/
def socketError (s : Sink) (clock : Reading) (message : String) : SinkStep :=
  if s.opened = 0 then { sink := s } else s.report clock (.plain message)

/-- Lets go of the held socket. -/
def close (s : Sink) (net : Network) : SinkStep :=
  match s.held with
  | none => { sink := s }
  | some socket =>
    { sink := { s with held := none }
      actions := [.close socket]
      logs := if net.closeThrows then
          [{ source := .metrics, level := .debug, message := "StatsD socket already closed"
             fields := [("err", (Failure.plain "Not running").datum)] }]
        else [] }

end Sink

end Telemetry.Metric
