import Mathlib.Algebra.BigOperators.Group.List.Basic
import Mathlib.Algebra.GroupWithZero.Nat
import Mathlib.Data.List.Induction
import Telemetry.Alert.Window

/-! # The window beside a plain list

A window is asked to take in a sample or to drop the old ones, in any order and with any times. It
shows what a plain list shows that grows at its end and drops its longest old prefix, and it
returns the same counts, so that every sample which came in is either shown or was counted out.
After an eviction at most half of the backing list is dead.
-/
namespace Telemetry.Alert.Window

/-- What is asked of a window. -/
inductive Request where
  | append (s : Sample)
  | evict (cutoff : Number)

/-- A window and what its evictions have returned. -/
structure Trace where
  window : Window
  evicted : List Nat := []

namespace Trace

def extend (t : Trace) : Request → Trace
  | .append s => { t with window := t.window.append s }
  | .evict cutoff =>
    { window := t.window.evict cutoff
      evicted := t.evicted ++ [t.window.expired cutoff] }

def run (w : Window) (requests : List Request) : Trace := requests.foldl extend { window := w }

theorem run_concat (w : Window) (requests : List Request) (r : Request) :
    run w (requests ++ [r]) = (run w requests).extend r := by
  simp [run]

end Trace

/-- A plain list and how many samples each eviction dropped from it. -/
structure Queue where
  live : List Sample
  evicted : List Nat := []

namespace Queue

def extend (q : Queue) : Request → Queue
  | .append s => { q with live := q.live ++ [s] }
  | .evict cutoff =>
    let kept := q.live.dropWhile (isBefore cutoff)
    { live := kept, evicted := q.evicted ++ [q.live.length - kept.length] }

def run (live : List Sample) (requests : List Request) : Queue :=
  requests.foldl extend { live := live }

theorem run_concat (live : List Sample) (requests : List Request) (r : Request) :
    run live (requests ++ [r]) = (run live requests).extend r := by
  simp [run]

end Queue

/-- The samples that came in. -/
def appended (requests : List Request) : List Sample :=
  requests.filterMap fun r =>
    match r with
    | .append s => some s
    | .evict _ => none

theorem appended_append (requests : List Request) (s : Sample) :
    appended (requests ++ [.append s]) = appended requests ++ [s] := by
  simp [appended]

theorem appended_evict (requests : List Request) (cutoff : Number) :
    appended (requests ++ [.evict cutoff]) = appended requests := by
  simp [appended]

/-- What is dropped in front and what is kept make up the list. -/
theorem length_dropped (live : List Sample) (cutoff : Number) :
    live.length - (live.dropWhile (isBefore cutoff)).length =
      (live.takeWhile (isBefore cutoff)).length := by
  have hsplit := congrArg List.length (List.takeWhile_append_dropWhile (p := isBefore cutoff)
    (l := live))
  rw [List.length_append] at hsplit
  omega

/-- A window that shows the list of a queue and has returned its counts. -/
structure Shows (t : Trace) (q : Queue) : Prop where
  live : t.window.samples = q.live
  evicted : t.evicted = q.evicted

theorem Shows.extend {t : Trace} {q : Queue} (h : Shows t q) (r : Request) :
    Shows (t.extend r) (q.extend r) := by
  cases r with
  | append s =>
    refine ⟨?_, h.evicted⟩
    rw [Trace.extend, Queue.extend, samples_append, h.live]
  | evict cutoff =>
    refine ⟨?_, ?_⟩
    · rw [Trace.extend, Queue.extend, samples_evict, h.live]
    · simp only [Trace.extend, Queue.extend, expired, h.live, h.evicted, length_dropped]

theorem shows_run (w : Window) (requests : List Request) :
    Shows (Trace.run w requests) (Queue.run w.samples requests) := by
  induction requests using List.reverseRecOn with
  | nil => exact ⟨rfl, rfl⟩
  | append_singleton before r ih =>
    rw [Trace.run_concat, Queue.run_concat]
    exact ih.extend r

/-- The samples that came in are those counted out, which came first, and those still there. -/
structure Queue.Accounts (q : Queue) (samples : List Sample) : Prop where
  counted : q.evicted.sum ≤ samples.length
  live : samples.drop q.evicted.sum = q.live

theorem accounts_run (live : List Sample) (requests : List Request) :
    (Queue.run live requests).Accounts (live ++ appended requests) := by
  induction requests using List.reverseRecOn with
  | nil => exact ⟨Nat.zero_le _, List.append_nil live⟩
  | append_singleton before r ih =>
    rw [Queue.run_concat]
    generalize Queue.run live before = q at ih ⊢
    cases r with
    | append s =>
      rw [appended_append, ← List.append_assoc]
      refine ⟨?_, ?_⟩
      · rw [List.length_append]
        exact Nat.le_add_right_of_le ih.counted
      · rw [Queue.extend, List.drop_append_of_le_length ih.counted, ih.live]
    | evict cutoff =>
      rw [appended_evict]
      have hlength : q.evicted.sum + q.live.length = (live ++ appended before).length := by
        rw [← ih.live, List.length_drop, Nat.add_sub_cancel' ih.counted]
      refine ⟨?_, ?_⟩
      · simp only [Queue.extend, List.sum_append, List.sum_singleton]
        omega
      · simp only [Queue.extend, List.sum_append, List.sum_singleton]
        rw [← List.drop_drop, ih.live, length_dropped, drop_length_takeWhile]

/-- A backing list that is mostly live is empty with its window. -/
theorem items_eq_nil_iff {w : Window} (h : w.items.length ≤ 2 * w.size) :
    w.items = [] ↔ w.samples = [] := by
  constructor
  · intro hitems
    rw [samples, hitems, List.drop_nil]
  · intro hsamples
    have hsize : w.size = 0 := by rw [← length_samples, hsamples, List.length_nil]
    exact List.length_eq_zero_iff.mp (by omega)

/-- After every sequence of requests, begun with any window such as the empty one, a window shows the
samples of the plain list, in order, and its evictions have returned the same counts. Its size is
the length of that list. What came in and was not counted out is exactly what it shows. The head
stays within the backing list, which after one more eviction is at most twice as long as what is
shown, and empty if nothing is. -/
theorem window_shows_queue (w : Window) (requests : List Request) :
    let t := Trace.run w requests
    let q := Queue.run w.samples requests
    t.window.samples = q.live ∧ t.evicted = q.evicted ∧ t.window.size = q.live.length ∧
      w.samples ++ appended requests =
        (w.samples ++ appended requests).take t.evicted.sum ++ t.window.samples ∧
      t.window.head ≤ t.window.items.length ∧
      ∀ cutoff, let after := (Trace.run w (requests ++ [.evict cutoff])).window
        after.items.length ≤ 2 * after.samples.length ∧
          (after.items = [] ↔ after.samples = []) := by
  intro t q
  obtain ⟨hlive, hevicted⟩ := shows_run w requests
  have haccounts := accounts_run w.samples requests
  refine ⟨hlive, hevicted, ?_, ?_, t.window.head_le, fun cutoff => ?_⟩
  · rw [← length_samples, hlive]
  · rw [hlive, hevicted, ← haccounts.live, List.take_append_drop]
  · intro after
    have hafter : after = t.window.evict cutoff := by
      simp only [after, Trace.run_concat]
      rfl
    have hbound := length_items_evict t.window cutoff
    rw [← hafter] at hbound
    exact ⟨(length_samples after).symm ▸ hbound, items_eq_nil_iff hbound⟩

end Telemetry.Alert.Window
