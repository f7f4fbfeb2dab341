import Telemetry.Metric.Store
import Telemetry.Number.Decimal
import Telemetry.Text.Blank

/-! # Text exposition of metrics

Each family starts with its help and type lines. Buckets are printed cumulatively, and the
bucket `+Inf` carries the total count, since what lies above every bound is in no bucket.
-/
namespace Telemetry.Metric

def contentType : String := "text/plain; version=0.0.4; charset=utf-8"

/-- The name, the help text and the label names of a family. -/
structure Family where
  name : String
  help : String
  labels : List String

/-- A histogram as it is printed; its amounts may be any numbers. -/
structure BucketSample where
  bounds : List Number
  buckets : List Number
  count : Number
  sum : Number

def Histogram.sample (h : Histogram) : BucketSample :=
  { bounds := h.bounds
    buckets := h.buckets.map Number.ofNat
    count := Number.ofNat h.count
    sum := h.sum }

def escapeLabelChar (c : Char) : List Char :=
  if c = '\\' then ['\\', '\\']
  else if c = '\n' then ['\\', 'n']
  else if c = '"' then ['\\', '"']
  else [c]

/-- Backslashes, line feeds and quotes are escaped. -/
def escapeLabel (value : String) : String := String.ofList (value.toList.flatMap escapeLabelChar)

def escapeHelpChar (c : Char) : List Char :=
  if c = '\\' then ['\\', '\\'] else if c = '\n' then [' '] else [c]

/-- A help text has its backslashes escaped and stays on one line. -/
def escapeHelp (value : String) : String := String.ofList (value.toList.flatMap escapeHelpChar)

def labelPair (label : String × String) : String := label.1 ++ "=\"" ++ escapeLabel label.2 ++ "\""

/-- Labels between braces, nothing where there are none. -/
def labelsText (labels : List (String × String)) : String :=
  if labels.isEmpty then "" else "\x7b" ++ String.intercalate "," (labels.map labelPair) ++ "\x7d"

/-- Drops zeros at the end, then a point at the end. -/
def stripZeros (cs : List Char) : List Char :=
  let cs := Text.dropEndWhile (· == '0') cs
  if cs.getLast? = some '.' then cs.dropLast else cs

/-- At most six decimals; what is not finite is written as zero. -/
def valueText (x : Number) : String :=
  if x.isFinite then
    let cs := stripZeros (x.toFixedChars 6)
    if cs = [] ∨ cs = ['-', '0'] then "0" else String.ofList cs
  else "0"

/-- The whole part; what is not finite is written as zero. -/
def wholeText (x : Number) : String := if x.isFinite then x.truncate.toText else "0"

/-- Pairs label names with values; a missing value is empty. -/
def pairLabels : List String → LabelKey → List (String × String)
  | [], _ => []
  | name :: names, [] => (name, "") :: pairLabels names []
  | name :: names, value :: values => (name, value) :: pairLabels names values

def headLines (family : Family) (kind : String) : List String :=
  ["# HELP " ++ family.name ++ " " ++ escapeHelp family.help,
    "# TYPE " ++ family.name ++ " " ++ kind]

def series (name : String) (labels : List (String × String)) (value : String) : String :=
  name ++ labelsText labels ++ " " ++ value

def counterLines (family : Family) (samples : List (LabelKey × Number)) : List String :=
  headLines family "counter" ++ (sortSeries samples).map fun s =>
    series family.name (pairLabels family.labels s.1) (wholeText s.2)

def gaugeLines (family : Family) (samples : List (LabelKey × Number)) : List String :=
  headLines family "gauge" ++ (sortSeries samples).map fun s =>
    series family.name (pairLabels family.labels s.1) (valueText s.2)

/-- Each bound with the sum of the buckets up to it; a missing bucket counts as empty. -/
def cumulative (total : Number) : List Number → List Number → List (Number × Number)
  | [], _ => []
  | bound :: bounds, [] => (bound, total + 0) :: cumulative (total + 0) bounds []
  | bound :: bounds, n :: buckets => (bound, total + n) :: cumulative (total + n) bounds buckets

def bucketLines (family : Family) (key : LabelKey) (sample : BucketSample) : List String :=
  let labels := pairLabels family.labels key
  (cumulative 0 sample.bounds sample.buckets).map (fun b =>
      series (family.name ++ "_bucket") (labels ++ [("le", valueText b.1)]) b.2.toText) ++
    [series (family.name ++ "_bucket") (labels ++ [("le", "+Inf")]) (wholeText sample.count),
      series (family.name ++ "_sum") labels (valueText sample.sum),
      series (family.name ++ "_count") labels (wholeText sample.count)]

def histogramLines (family : Family) (samples : List (LabelKey × BucketSample)) : List String :=
  headLines family "histogram" ++ (sortSeries samples).flatMap fun s =>
    bucketLines family s.1 s.2

end Telemetry.Metric
