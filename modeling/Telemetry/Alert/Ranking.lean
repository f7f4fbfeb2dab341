import Telemetry.Number.Basic

/-! # Ascending order of durations

A value that is no number compares as equal to every value, so that the order of a list with such
values depends on the comparisons that are made. In a list of fewer than 64 values the first run is
kept, and every later value is placed among those before it by halving. Longer lists are sorted in
several runs, which makes no difference unless one of their values is no number; for those the order
here is only one of many. The samples of a monitor hold no such value.
-/
namespace Telemetry.Alert

/-- The values from the head of a list of which each follows the one before. -/
def stretch (follows : Number → Number → Bool) (before : Number) :
    List Number → List Number × List Number
  | [] => ([], [])
  | x :: rest =>
    if follows before x then
      let (run, others) := stretch follows x rest
      (x :: run, others)
    else ([], x :: rest)

/-- The first run of a list and the values after it. A run falls strictly, in which case it is
turned round, or it never falls. -/
def firstRun : List Number → List Number × List Number
  | a :: b :: rest =>
    if b.lt a then
      let (run, others) := stretch (fun before x => x.lt before) b rest
      ((a :: b :: run).reverse, others)
    else
      let (run, others) := stretch (fun before x => !x.lt before) b rest
      (a :: b :: run, others)
  | xs => (xs, [])

/-- The place of a value among those from `low` up to `high`, behind its equals. -/
def place (x : Number) (placed : List Number) (low high : Nat) : Nat :=
  if low < high then
    let middle := (low + high) / 2
    if x.lt (placed.getD middle .nan) then place x placed low middle
    else place x placed (middle + 1) high
  else low
termination_by high - low

/-- Puts a value into its place. -/
def insert (placed : List Number) (x : Number) : List Number :=
  let i := place x placed 0 placed.length
  placed.take i ++ x :: placed.drop i

/-- The values in ascending order. With a value that is no number it is the order of a short list. -/
def ascending (values : List Number) : List Number :=
  if values.any (·.isNaN) then
    let (run, others) := firstRun values
    others.foldl insert run
  else values.mergeSort fun a b => !b.lt a

end Telemetry.Alert
