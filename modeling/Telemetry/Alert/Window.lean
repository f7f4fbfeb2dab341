import Telemetry.Number.Basic

/-! # The window of recent requests

Samples are appended at the end and leave from the front. Leaving only moves an index, and the
list is rebuilt when at least half of it is dead. The main statements say that the live samples
are those of a plain list: `samples_append`, `samples_evict` and `length_items_evict`.
-/
namespace Telemetry.Alert

structure Sample where
  timestamp : Number
  requestMs : Number
  isError : Bool
  databaseMs : Number

structure Window where
  items : List Sample := []
  head : Nat := 0
  head_le : head ≤ items.length := by simp

namespace Window

/-- The live samples, oldest first. -/
def samples (w : Window) : List Sample := w.items.drop w.head

def size (w : Window) : Nat := w.items.length - w.head

def append (w : Window) (s : Sample) : Window where
  items := w.items ++ [s]
  head := w.head
  head_le := by simpa using Nat.le_succ_of_le w.head_le

def isBefore (cutoff : Number) (s : Sample) : Bool := s.timestamp.lt cutoff

/-- How many samples leave: those before the cutoff, up to the first that is not. -/
def expired (w : Window) (cutoff : Number) : Nat :=
  (w.samples.takeWhile (isBefore cutoff)).length

theorem expired_le (w : Window) (cutoff : Number) : w.head + w.expired cutoff ≤ w.items.length := by
  have h : w.expired cutoff ≤ w.samples.length := (List.takeWhile_sublist _).length_le
  have hd := w.head_le
  simp only [samples, List.length_drop] at h
  omega

/-- Drops the samples before the cutoff from the front. -/
def evict (w : Window) (cutoff : Number) : Window :=
  let head := w.head + w.expired cutoff
  if 0 < head ∧ w.items.length ≤ head * 2 then { items := w.items.drop head }
  else { items := w.items, head := head, head_le := w.expired_le cutoff }

theorem length_samples (w : Window) : w.samples.length = w.size := by
  simp [samples, size]

theorem samples_append (w : Window) (s : Sample) : (w.append s).samples = w.samples ++ [s] := by
  simp [samples, append, List.drop_append_of_le_length w.head_le]

theorem drop_length_takeWhile {α : Type} (p : α → Bool) (xs : List α) :
    xs.drop (xs.takeWhile p).length = xs.dropWhile p := by
  induction xs with
  | nil => rfl
  | cons x rest ih => by_cases h : p x <;> simp [h, ih]

theorem samples_evict (w : Window) (cutoff : Number) :
    (w.evict cutoff).samples = w.samples.dropWhile (isBefore cutoff) := by
  have h : w.items.drop (w.head + w.expired cutoff) = w.samples.dropWhile (isBefore cutoff) := by
    rw [← List.drop_drop]
    exact drop_length_takeWhile _ _
  unfold evict
  dsimp only
  split <;> simpa [samples] using h

theorem length_items_evict (w : Window) (cutoff : Number) :
    (w.evict cutoff).items.length ≤ 2 * (w.evict cutoff).size := by
  have h := w.expired_le cutoff
  unfold evict
  dsimp only
  split
  · simp only [size, List.length_drop]
    omega
  · simp only [size]
    omega

end Window

end Telemetry.Alert
