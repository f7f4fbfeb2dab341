import Telemetry.Datum

/-! # Failures

What stops a step: an error with a kind and a message, or any bare value.
-/
namespace Telemetry

inductive Failure where
  | error (kind message : String)
  | value (value : Datum)
  deriving Inhabited

namespace Failure

/-- An error without a kind of its own. -/
def plain (message : String) : Failure := error "Error" message

/-- The message of an error, the plain text of a bare value. -/
def message : Failure → String
  | error _ message => message
  | value d => d.plain

/-- Whether there are words for a failure: an error has a message, a bare value needs a text. -/
def hasMessage : Failure → Bool
  | error .. => true
  | value d => d.hasPlain

/-- What comes of asking for the text of a value that has none. -/
def wordless : Failure := error "TypeError" "Cannot convert object to primitive value"

/-- A bare value as an error with its plain text for a message; an error as it is. -/
def asError : Failure → Failure
  | error kind message => error kind message
  | value d => plain d.plain

def errorDatum (kind message : String) : Datum :=
  .record [("type", .text kind), ("message", .text message)]

/-- A failure as a log field. A record with a text for a message looks like an error. -/
def datum : Failure → Datum
  | error kind message => errorDatum kind message
  | value d =>
    match d.get "message" with
    | .text message => errorDatum "Object" message
    | _ => d

end Failure

end Telemetry
