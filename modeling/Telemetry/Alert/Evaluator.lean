import Telemetry.Alert.Aggregate
import Telemetry.Log.Basic

/-! # Alerts and their transitions

An alert is breached when the window holds enough requests and its observed value is above a
positive threshold. A breach is counted and announced when it begins and again whenever the
cooldown has passed since the last announcement; its end is announced once.
-/
namespace Telemetry.Alert

/-- What an alert is about. -/
inductive Kind where
  | requestP95 | errorRate | databaseAvg
  deriving DecidableEq

namespace Kind

def name : Kind → String
  | requestP95 => "request_p95_ms"
  | errorRate => "error_rate_pct"
  | databaseAvg => "db_avg_ms"

/-- The order of evaluation. -/
def all : List Kind := [requestP95, errorRate, databaseAvg]

/-- The order of the names. -/
def sorted : List Kind := [databaseAvg, errorRate, requestP95]

def ofName? (name : String) : Option Kind := all.find? fun alert => alert.name == name

end Kind

/-- One value for each alert. -/
structure PerAlert (α : Type) where
  requestP95 : α
  errorRate : α
  databaseAvg : α

namespace PerAlert

variable {α β : Type}

def get (p : PerAlert α) : Kind → α
  | .requestP95 => p.requestP95
  | .errorRate => p.errorRate
  | .databaseAvg => p.databaseAvg

def tabulate (f : Kind → α) : PerAlert α :=
  { requestP95 := f .requestP95, errorRate := f .errorRate, databaseAvg := f .databaseAvg }

def toList (p : PerAlert α) : List (Kind × α) := Kind.all.map fun alert => (alert, p.get alert)

@[simp] theorem get_tabulate (f : Kind → α) (alert : Kind) : (tabulate f).get alert = f alert := by
  cases alert <;> rfl

end PerAlert

/-- Whether an alert is breached, also as the number that is shown, how often that was announced and
when it was last. -/
structure State where
  breached : Bool := false
  active : Fin 2 := 0
  breachCount : Nat := 0
  lastBreach : Option Number := none
  deriving DecidableEq

structure Rules where
  thresholds : PerAlert Number
  minRequests : Number
  cooldownSec : Number
  windowSec : Number

def Rules.cooldownMs (r : Rules) : Number := r.cooldownSec * 1000

/-- What an evaluation found for one alert. The values are missing below the least number of
requests. -/
structure Finding where
  breached : Bool
  observed : Option Number
  threshold : Option Number

/-- Two decimals, zero for what is missing or not finite. -/
def logged (value : Option Number) : Datum :=
  match value with
  | some x => .number (if x.isFinite then x.roundHundredths else 0)
  | none => .number 0

def breachEntry (rules : Rules) (alert : Kind) (f : Finding) (sampleSize : Nat) : Log.Entry :=
  { source := .alerts, level := .warn, message := "Performance alert breached"
    fields := [("event", .text "performance_alert"), ("alert", .text alert.name),
      ("observed", logged f.observed), ("threshold", logged f.threshold),
      ("windowSec", .number rules.windowSec), ("sampleSize", .ofNat sampleSize)] }

def recoveryEntry (alert : Kind) (f : Finding) (sampleSize : Nat) : Log.Entry :=
  { source := .alerts, level := .info, message := "Performance alert recovered"
    fields := [("event", .text "performance_alert_recovered"), ("alert", .text alert.name),
      ("observed", logged f.observed), ("threshold", logged f.threshold),
      ("sampleSize", .ofNat sampleSize)] }

/-- Whether the cooldown has passed since the last announcement, if there was one. -/
def cooledDown (rules : Rules) (s : State) (now : Number) : Bool :=
  match s.lastBreach with
  | none => true
  | some last => rules.cooldownMs.le (now - last)

/-- The next state of an alert and what is announced. -/
def advance (rules : Rules) (alert : Kind) (f : Finding) (sampleSize : Nat) (now : Number)
    (s : State) : State × List Log.Entry :=
  let next := { s with breached := f.breached, active := if f.breached then 1 else 0 }
  if f.breached then
    if !s.breached || cooledDown rules s now then
      ({ next with breachCount := s.breachCount + 1, lastBreach := some now },
        [breachEntry rules alert f sampleSize])
    else (next, [])
  else (next, if s.breached then [recoveryEntry alert f sampleSize] else [])

def observed (a : Aggregates) : PerAlert Number :=
  { requestP95 := a.requestP95Ms, errorRate := a.errorRatePct, databaseAvg := a.databaseAvgMs }

/-- The condition of every alert for a list of samples. -/
def findings (rules : Rules) (samples : List Sample) : PerAlert Finding :=
  if (Number.ofNat samples.length).lt rules.minRequests then
    .tabulate fun _ => { breached := false, observed := none, threshold := none }
  else
    let values := observed (aggregate samples)
    .tabulate fun alert =>
      let value := values.get alert
      let threshold := rules.thresholds.get alert
      { breached := Number.lt 0 threshold && threshold.lt value
        observed := some value
        threshold := some threshold }

abbrev States := PerAlert State

def States.initial : States := .tabulate fun _ => {}

/-- Evaluates every alert against the samples. -/
def evaluate (rules : Rules) (samples : List Sample) (now : Number) (states : States) :
    States × List Log.Entry :=
  let found := findings rules samples
  let step := fun alert =>
    advance rules alert (found.get alert) samples.length now (states.get alert)
  (.tabulate fun alert => (step alert).1, Kind.all.flatMap fun alert => (step alert).2)

def State.isActive (s : State) : Bool := s.active == 1

/-- The active alerts in ascending order of their names. -/
def active (states : States) : List Kind := Kind.sorted.filter fun alert =>
  (states.get alert).isActive

end Telemetry.Alert
