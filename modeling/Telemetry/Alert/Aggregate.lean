import Telemetry.Alert.Ranking
import Telemetry.Alert.Window
import Telemetry.Number.Whole

/-! # Aggregates of a window -/
namespace Telemetry.Alert

/-- The place of the nearest-rank 95th percentile among `n` ascending values. -/
def rank95 (n : Nat) : Nat :=
  let rank := Number.ceil (Number.ofNat n * Number.ofRatio false 95 100) - 1
  min (n - 1) ((rank.toInt?.getD 0).toNat)

/-- The nearest-rank 95th percentile, zero of no values. -/
def percentile95 (values : List Number) : Number :=
  ((ascending values)[rank95 values.length]?).getD 0

structure Aggregates where
  sampleSize : Nat
  requestP95Ms : Number
  errorRatePct : Number
  databaseAvgMs : Number

def errorCount (samples : List Sample) : Nat := samples.countP (·.isError)

def databaseTotal (samples : List Sample) : Number :=
  samples.foldl (fun total s => total + s.databaseMs) 0

/-- The percentile of the durations, the share of errors and the mean database time; all zero
where there is no sample. -/
def aggregate (samples : List Sample) : Aggregates :=
  let n := samples.length
  if n = 0 then { sampleSize := 0, requestP95Ms := 0, errorRatePct := 0, databaseAvgMs := 0 }
  else
    { sampleSize := n
      requestP95Ms := percentile95 (samples.map (·.requestMs))
      errorRatePct := Number.ofNat (errorCount samples * 100) / Number.ofNat n
      databaseAvgMs := databaseTotal samples / Number.ofNat n }

end Telemetry.Alert
