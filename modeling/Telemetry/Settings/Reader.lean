import Telemetry.Datum
import Telemetry.Number.Numeral
import Telemetry.Text.Case

/-! # Reading single settings

A setting of the right type is taken as it is, a text that spells such a value is taken for it,
and anything else gives way to the fallback.
-/
namespace Telemetry.Settings

def trueWords : List String := ["1", "true", "yes", "on", "y"]

def falseWords : List String := ["0", "false", "no", "off", "n"]

/-- A flag, a number other than zero, or a word in any case. -/
def readFlag (value : Datum) (fallback : Bool) : Bool :=
  match value with
  | .flag b => b
  | .number x => !x.eq 0
  | .text s =>
    let word := Text.lowerAscii (Text.trim s)
    if trueWords.contains word then true
    else if falseWords.contains word then false
    else fallback
  | _ => fallback

/-- The range of a number, and whether its fraction is dropped first. -/
structure Bounds where
  least : Option Number := none
  most : Option Number := none
  whole : Bool := false

def Bounds.apply (b : Bounds) (x : Number) : Number :=
  let x := if b.whole then x.truncate else x
  let x := match b.least with
    | some least => Number.maximum least x
    | none => x
  match b.most with
  | some most => Number.minimum most x
  | none => x

/-- The number a value gives, if it is finite. -/
def finite? : Datum → Option Number
  | .number x => if x.isFinite then some x else none
  | .text s =>
    let x := Number.ofText s
    if (Text.trimChars s.toList).isEmpty || !x.isFinite then none else some x
  | _ => none

/-- A finite number or numeral, brought into its range; the fallback is brought there too. -/
def readNumber (value : Datum) (fallback : Number) (bounds : Bounds) : Number :=
  bounds.apply ((finite? value).getD fallback)

/-- A text that is not blank, trimmed, or the text of a finite number. -/
def readText (value : Datum) (fallback : String) : String :=
  match value with
  | .text s => if (Text.trimChars s.toList).isEmpty then fallback else Text.trim s
  | .number x => if x.isFinite then x.toText else fallback
  | _ => fallback

/-- A path, which starts with a slash. -/
def readPath (value : Datum) (fallback : String) : String :=
  let raw := readText value fallback
  if raw.toList.head? = some '/' then raw else "/" ++ raw

end Telemetry.Settings
