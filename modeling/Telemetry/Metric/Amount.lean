import Telemetry.Datum
import Telemetry.Number.Numeral

/-! # Status codes and amounts of untyped values

A status code is a finite number or numeral without its fraction. Amounts are finite and not
negative; anything else counts as zero.
-/
namespace Telemetry.Metric

def statusCode? (value : Datum) : Option Number :=
  let code := match value with
    | .number x => x
    | .text s => if (Text.trimChars s.toList).isEmpty then .nan else Number.ofText s
    | _ => .nan
  if code.isFinite then some code.truncate else none

/-- The hundreds of the status code, `0xx` below one hundred and for what is no code. -/
def statusClass (value : Datum) : String :=
  match statusCode? value with
  | none => "0xx"
  | some code => if code.lt 100 then "0xx" else (code / 100).floor.toText ++ "xx"

/-- Codes from five hundred up are server errors. -/
def isServerError (value : Datum) : Bool :=
  match statusCode? value with
  | none => false
  | some code => Number.le 500 code

/-- A finite number that is not negative, else zero. -/
def clampAmount (x : Number) : Number := if x.isFinite && !x.lt 0 then x else 0

def amount (value : Datum) : Number :=
  match value with
  | .number x => clampAmount x
  | .text s => clampAmount (Number.ofText s)
  | _ => 0

def wholeAmount (value : Datum) : Number := (amount value).truncate

end Telemetry.Metric
