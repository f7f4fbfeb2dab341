import Telemetry.Datum
import Telemetry.Number.Whole

/-! # The profile of a request

A profile adds up the downstream calls of one request and keeps the first slow ones.
-/
namespace Telemetry.Request

def maxSlowCalls : Nat := 10

/-- A downstream call as it is reported. -/
structure Call where
  operation : String
  elapsedMs : Number
  cached : Bool := false
  error : Bool := false
  rows : Option Number := none

/-- A slow call as it is kept, its time rounded to two decimals. -/
structure SlowCall where
  operation : String
  elapsedMs : Number
  cached : Bool
  rows : Option Number
  error : Bool

def SlowCall.fields (c : SlowCall) : List (String × Datum) :=
  [("operation", .text c.operation), ("elapsedMs", .number c.elapsedMs), ("cached", .flag c.cached),
    ("rows", (c.rows.map Datum.number).getD .null), ("error", .flag c.error)]

structure Profile where
  requestId : String
  method : String
  path : String
  slowQueryMs : Number
  calls : Nat := 0
  totalMs : Number := 0
  maxMs : Number := 0
  cacheHits : Nat := 0
  errors : Nat := 0
  slow : List SlowCall := []

/-- The time of a call; what is negative or not finite counts as zero. -/
def Call.time (c : Call) : Number :=
  if c.elapsedMs.isFinite then Number.maximum 0 c.elapsedMs else 0

def Call.slowCall (c : Call) : SlowCall :=
  { operation := c.operation, elapsedMs := c.time.roundHundredths, cached := c.cached
    rows := c.rows, error := c.error }

/-- Adds one call. -/
def Profile.add (p : Profile) (c : Call) : Profile :=
  { p with
    calls := p.calls + 1
    totalMs := p.totalMs + c.time
    maxMs := Number.maximum p.maxMs c.time
    cacheHits := if c.cached then p.cacheHits + 1 else p.cacheHits
    errors := if c.error then p.errors + 1 else p.errors
    slow := if p.slowQueryMs.le c.time && p.slow.length < maxSlowCalls then p.slow ++ [c.slowCall]
      else p.slow }

end Telemetry.Request
