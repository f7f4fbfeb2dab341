import Telemetry.Datum
import Telemetry.Text.Blank
import Telemetry.Text.Case

/-! # Label values

A label value has no control character and no blank at its ends. A value longer than its limit
ends in three points and has exactly the length of the limit.
-/
namespace Telemetry.Metric

def methodLimit : Nat := 16

def pathLimit : Nat := 160

def isControl (c : Char) : Bool := c.toNat < 32 || c.toNat == 127

/-- Control characters become spaces before the ends are trimmed. -/
def tidyChars (cs : List Char) : List Char :=
  Text.trimChars (cs.map fun c => if isControl c then ' ' else c)

/-- Cuts a text to a limit of at least three characters; `none` is no limit. -/
def shorten (limit : Option Nat) (cs : List Char) : List Char :=
  match limit with
  | none => cs
  | some n => if cs.length ≤ n then cs else cs.take (n - 3) ++ ['.', '.', '.']

def cleanChars (fallback : List Char) (limit : Option Nat) (cs : List Char) : List Char :=
  shorten limit (if tidyChars cs = [] then fallback else tidyChars cs)

/-- The limit that a requested length sets: at least four, none for what has no whole part. -/
def lengthLimit (requested : Number) : Option Nat :=
  (Number.floor (Number.maximum 4 requested)).toInt?.map Int.toNat

/-- The text that an untyped value gives to a label. -/
def labelText : Datum → String
  | .absent => ""
  | .null => ""
  | value => value.plain

def cleanLabel (fallback : String) (limit : Option Nat) (value : Datum) : String :=
  String.ofList (cleanChars fallback.toList limit (labelText value).toList)

/-- Methods are written in upper case; what is not text is unknown. -/
def methodLabel (method : Datum) : String :=
  cleanLabel "UNKNOWN" (some methodLimit) (.text (Text.upper (method.text?.getD "")))

def pathLabel (path : Datum) : String := cleanLabel "/" (some pathLimit) path

end Telemetry.Metric
