import Telemetry.Number.Whole
import Telemetry.Table
import Telemetry.Text.Units

/-! # Counters and histograms

A store keeps, for each metric name and label key, a counter or a histogram. A histogram counts
each observation in the first bucket whose bound is not below it; what lies above every bound
shows only in the total count.
-/
namespace Telemetry.Metric

/-- The label values of one series, in the order of the label names. -/
abbrev LabelKey := List String

/-- The order of keys: the first different value decides, by its UTF-16 units, and a proper
beginning comes first. The amount means nothing beyond its sign. -/
def compareKeys : LabelKey → LabelKey → Int
  | a :: s, b :: t =>
    if a = b then compareKeys s t else if Text.compare a b = .lt then -1 else 1
  | s, t => (s.length : Int) - t.length

def keyLe (a b : LabelKey) : Bool := compareKeys a b ≤ 0

def requestBounds : List Number := [5, 10, 25, 50, 100, 250, 500, 1000, 2500, 5000, 10000]

def databaseBounds : List Number := [1, 5, 10, 25, 50, 100, 250, 500, 1000, 2500]

/-- The first bucket that takes a value. -/
def bucket? (value : Number) (bounds : List Number) : Option Nat :=
  bounds.findIdx? fun bound => value.le bound

/-- Observations by bucket, not cumulative, with their total count and sum. -/
structure Histogram where
  bounds : List Number
  buckets : List Nat
  count : Nat
  sum : Number
  deriving DecidableEq

def Histogram.empty (bounds : List Number) : Histogram :=
  { bounds := bounds, buckets := bounds.map fun _ => 0, count := 0, sum := 0 }

def Histogram.observe (h : Histogram) (value : Number) : Histogram :=
  { h with
    buckets := match bucket? value h.bounds with
      | some i => h.buckets.modify i (· + 1)
      | none => h.buckets
    count := h.count + 1
    sum := h.sum + value }

structure Store where
  counters : Table String (Table LabelKey Number) := []
  histograms : Table String (Table LabelKey Histogram) := []

namespace Store

/-- Adds the whole part of an amount. -/
def increment (s : Store) (metric : String) (key : LabelKey) (amount : Number) : Store :=
  let add := fun old : Option Number => match old with
    | none => amount.truncate
    | some value => value + amount.truncate
  { s with counters := s.counters.alter metric fun family => (family.getD []).alter key add }

/-- Adds an observation. The bounds of the first one stay in force. -/
def observe (s : Store) (metric : String) (key : LabelKey) (value : Number)
    (bounds : List Number) : Store :=
  let add := fun old : Option Histogram => (old.getD (Histogram.empty bounds)).observe value
  { s with histograms := s.histograms.alter metric fun family => (family.getD []).alter key add }

def counter (s : Store) (metric : String) (key : LabelKey) : Number :=
  (((s.counters.get? metric).getD []).get? key).getD 0

def histogram? (s : Store) (metric : String) (key : LabelKey) : Option Histogram :=
  ((s.histograms.get? metric).getD []).get? key

end Store

/-- A name that no record can hold; a metric called so is not exported. -/
def reservedName : String := "__proto__"

/-- All series of a store by metric name. -/
structure Snapshot where
  counters : Table String (Table LabelKey Number)
  histograms : Table String (Table LabelKey Histogram)

def Store.snapshot (s : Store) : Snapshot :=
  { counters := s.counters.filter fun family => family.1 ≠ reservedName
    histograms := s.histograms.filter fun family => family.1 ≠ reservedName }

/-- The series of a family in the order of their keys. -/
def sortSeries {α : Type} (family : List (LabelKey × α)) : List (LabelKey × α) :=
  family.mergeSort fun a b => keyLe a.1 b.1

/-- Families in the order of their names, series in the order of their keys. -/
def sortFamilies {α : Type} (families : Table String (Table LabelKey α)) :
    Table String (Table LabelKey α) :=
  (families.mergeSort fun a b => Text.le a.1 b.1).map fun family =>
    (family.1, sortSeries family.2)

end Telemetry.Metric
