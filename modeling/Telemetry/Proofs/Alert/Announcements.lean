import Mathlib.Computability.RegularExpressions
import Mathlib.Data.List.Induction
import Mathlib.Order.CompletePartialOrder
import Telemetry.Alert.Evaluator

/-! # The announcements of an alert

One evaluation makes one of four moves with an alert: it announces a breach, lets a breach persist,
announces the recovery, or leaves the alert at rest. So the lines that an alert writes to the log
over a whole history alternate between runs of breaches and single recoveries, and its state says
how many breaches there were, when the last one was, and which line came last.
-/
namespace Telemetry.Alert
open Computability

theorem mem_active_iff (states : States) (alert : Kind) :
    alert ∈ active states ↔ (states.get alert).active = 1 := by
  cases alert <;> simp [active, Kind.sorted, State.isActive]

/-- The two lines that an alert can write. -/
inductive Line where
  | breach | recovery
  deriving DecidableEq

def Line.ofMessage? (message : String) : Option Line :=
  if message = "Performance alert breached" then some breach
  else if message = "Performance alert recovered" then some recovery
  else none

def isAbout (alert : Kind) (e : Log.Entry) : Bool :=
  match e.fields.lookup "alert" with
  | some (.text name) => name == alert.name
  | _ => false

/-- What a log entry says of an alert. -/
def line? (alert : Kind) (e : Log.Entry) : Option Line :=
  if isAbout alert e then Line.ofMessage? e.message else none

section Moves

/-- What one evaluation does with an alert, where the flag tells that its condition is met. -/
inductive Move (rules : Rules) (now : Number) (s : State) : Bool → State → List Line → Prop where
  | announce (h : s.breached = false ∨ cooledDown rules s now = true) :
      Move rules now s true
        { breached := true, active := 1, breachCount := s.breachCount + 1, lastBreach := some now }
        [.breach]
  | persist (hb : s.breached = true) (hc : cooledDown rules s now = false) :
      Move rules now s true { s with active := 1 } []
  | recover (hb : s.breached = true) :
      Move rules now s false { s with breached := false, active := 0 } [.recovery]
  | rest (hb : s.breached = false) : Move rules now s false { s with active := 0 } []

variable (rules : Rules) (alert : Kind) (f : Finding) (n : Nat)

theorem isAbout_breachEntry (other : Kind) :
    isAbout other (breachEntry rules alert f n) = (alert.name == other.name) := by
  simp [isAbout, breachEntry, List.lookup_cons]

theorem isAbout_recoveryEntry (other : Kind) :
    isAbout other (recoveryEntry alert f n) = (alert.name == other.name) := by
  simp [isAbout, recoveryEntry, List.lookup_cons]

theorem line?_breachEntry : line? alert (breachEntry rules alert f n) = some .breach := by
  rw [line?, isAbout_breachEntry, if_pos (beq_self_eq_true _)]
  rfl

theorem line?_recoveryEntry : line? alert (recoveryEntry alert f n) = some .recovery := by
  rw [line?, isAbout_recoveryEntry, if_pos (beq_self_eq_true _)]
  rfl

theorem advance_move (now : Number) (s : State) :
    ∃ lines, Move rules now s f.breached (advance rules alert f n now s).1 lines ∧
      (advance rules alert f n now s).2.filterMap (line? alert) = lines := by
  have hbreach := line?_breachEntry rules alert f n
  have hrecovery := line?_recoveryEntry alert f n
  obtain ⟨breached, active, breachCount, lastBreach⟩ := s
  unfold advance
  cases hf : f.breached with
  | true =>
    rw [if_pos rfl]
    split
    · rename_i h
      refine ⟨[.breach], .announce ?_, by simp [hbreach]⟩
      simpa using h
    · rename_i h
      simp only [Bool.or_eq_true, Bool.not_eq_true', not_or, Bool.not_eq_false,
        Bool.not_eq_true] at h
      obtain ⟨rfl, hc⟩ := h
      exact ⟨[], .persist rfl hc, rfl⟩
  | false =>
    rw [if_neg Bool.false_ne_true]
    cases breached with
    | true => exact ⟨[.recovery], .recover rfl, by simp [hrecovery]⟩
    | false => exact ⟨[], .rest rfl, rfl⟩

theorem Kind.name_injective : Function.Injective Kind.name := by
  intro a b
  cases a <;> cases b <;> decide

/-- An alert writes no lines of another one. -/
theorem filterMap_line?_advance_of_ne {other : Kind} (hne : alert ≠ other) (now : Number)
    (s : State) : (advance rules alert f n now s).2.filterMap (line? other) = [] := by
  have hname : (alert.name == other.name) = false :=
    beq_eq_false_iff_ne.mpr fun h => hne (Kind.name_injective h)
  have hbreach : line? other (breachEntry rules alert f n) = none := by
    rw [line?, isAbout_breachEntry, hname, if_neg Bool.false_ne_true]
  have hrecovery : line? other (recoveryEntry alert f n) = none := by
    rw [line?, isAbout_recoveryEntry, hname, if_neg Bool.false_ne_true]
  unfold advance
  split
  · split <;> simp [hbreach]
  · split <;> simp [hrecovery]

theorem evaluate_move (samples : List Sample) (now : Number) (states : States) :
    ∃ lines, Move rules now (states.get alert) ((findings rules samples).get alert).breached
        ((evaluate rules samples now states).1.get alert) lines ∧
      (evaluate rules samples now states).2.filterMap (line? alert) = lines := by
  obtain ⟨lines, hmove, hlines⟩ := advance_move rules alert ((findings rules samples).get alert)
    samples.length now (states.get alert)
  refine ⟨lines, ?_, ?_⟩
  · simpa only [evaluate, PerAlert.get_tabulate] using hmove
  · have hother : ∀ other, other ≠ alert →
        (advance rules other ((findings rules samples).get other) samples.length now
          (states.get other)).2.filterMap (line? alert) = [] :=
      fun other hne => filterMap_line?_advance_of_ne rules other _ _ hne now _
    rw [evaluate, Kind.all]
    simp only [List.flatMap_cons, List.flatMap_nil, List.append_nil, List.filterMap_append]
    cases alert with
    | requestP95 =>
      rw [hlines, hother .errorRate (by decide), hother .databaseAvg (by decide)]
      simp
    | errorRate =>
      rw [hlines, hother .requestP95 (by decide), hother .databaseAvg (by decide)]
      simp
    | databaseAvg =>
      rw [hlines, hother .requestP95 (by decide), hother .errorRate (by decide)]
      simp

end Moves

structure Evaluation where
  samples : List Sample
  now : Number

/-- The states after some evaluations, and all entries with the times at which they were written. -/
structure History where
  states : States := .initial
  log : List (Number × Log.Entry) := []

namespace History

def extend (rules : Rules) (h : History) (e : Evaluation) : History :=
  let step := evaluate rules e.samples e.now h.states
  { states := step.1, log := h.log ++ step.2.map fun entry => (e.now, entry) }

def run (rules : Rules) (evaluations : List Evaluation) : History :=
  evaluations.foldl (extend rules) {}

/-- The lines of an alert with their times, in the order of writing. -/
def lines (h : History) (alert : Kind) : List (Number × Line) :=
  h.log.filterMap fun entry => (line? alert entry.2).map fun line => (entry.1, line)

theorem run_concat (rules : Rules) (evaluations : List Evaluation) (e : Evaluation) :
    run rules (evaluations ++ [e]) = (run rules evaluations).extend rules e := by
  simp [run]

theorem extend_move (rules : Rules) (h : History) (e : Evaluation) (alert : Kind) :
    ∃ found lines, Move rules e.now (h.states.get alert) found
        ((h.extend rules e).states.get alert) lines ∧
      (h.extend rules e).lines alert = h.lines alert ++ lines.map fun line => (e.now, line) := by
  obtain ⟨lines, hmove, hlines⟩ := evaluate_move rules alert e.samples e.now h.states
  refine ⟨_, lines, hmove, ?_⟩
  have hstep : (extend rules h e).lines alert = h.lines alert ++
      ((evaluate rules e.samples e.now h.states).2.map fun entry => (e.now, entry)).filterMap
        fun entry => (line? alert entry.2).map fun line => (entry.1, line) :=
    List.filterMap_append
  rw [hstep, ← hlines, List.filterMap_map, List.map_filterMap]
  rfl

end History

section Words

def breaches : RegularExpression Line := .char .breach * .star (.char .breach)

/-- Runs of breaches, each closed by a single recovery. -/
def closedTurns : RegularExpression Line := .star (breaches * .char .recovery)

/-- Closed runs of breaches, and perhaps a last one that is still open. -/
def turns : RegularExpression Line := closedTurns * .star (.char .breach)

/-- What an alert has written, by whether it is breached now. -/
def written (breached : Bool) : RegularExpression Line :=
  if breached then closedTurns * breaches else closedTurns

variable {word : List Line}

theorem concat_mem {l m : Language Line} (line : Line) (hle : l * {[line]} ≤ m) (h : word ∈ l) :
    word ++ [line] ∈ m :=
  hle (Language.append_mem_mul h (Set.mem_singleton [line]))

theorem nil_mem_written : [] ∈ (written false).matches' := Language.nil_mem_kstar _

theorem breach_mem_written {breached : Bool} (h : word ∈ (written breached).matches') :
    word ++ [.breach] ∈ (written true).matches' := by
  refine concat_mem .breach ?_ h
  let b : Language Line := {[.breach]}
  cases breached with
  | true =>
    calc closedTurns.matches' * (b * b∗) * b = closedTurns.matches' * (b * (b∗ * b)) := by
          simp only [mul_assoc]
      _ ≤ closedTurns.matches' * (b * b∗) := by gcongr; exact kstar_mul_le_kstar
  | false =>
    calc closedTurns.matches' * b = closedTurns.matches' * (b * 1) := by rw [mul_one]
      _ ≤ closedTurns.matches' * (b * b∗) := by gcongr; exact one_le_kstar

theorem recovery_mem_written (h : word ∈ (written true).matches') :
    word ++ [.recovery] ∈ (written false).matches' := by
  refine concat_mem .recovery ?_ h
  let turn : Language Line := breaches.matches' * {[.recovery]}
  calc turn∗ * breaches.matches' * {[.recovery]} = turn∗ * turn := mul_assoc _ _ _
    _ ≤ turn∗ := kstar_mul_le_kstar

theorem written_le_turns (breached : Bool) : (written breached).matches' ≤ turns.matches' := by
  let b : Language Line := {[.breach]}
  cases breached with
  | true =>
    calc closedTurns.matches' * (b * b∗) ≤ closedTurns.matches' * b∗ := by
          gcongr; exact mul_kstar_le_kstar
  | false =>
    calc closedTurns.matches' = closedTurns.matches' * 1 := (mul_one _).symm
      _ ≤ closedTurns.matches' * b∗ := by gcongr; exact one_le_kstar

/-- A line behind a word is the one that is looked for, or it follows what is looked for. -/
theorem concat_eq_append_cons {line found : Line} {before rest : List Line}
    (h : word ++ [line] = before ++ found :: rest) :
    (word = before ∧ line = found) ∨ ∃ more, word = before ++ found :: more := by
  rcases List.eq_nil_or_concat rest with rfl | ⟨more, last, rfl⟩
  · exact .inl (List.concat_inj.mp (by simpa using h))
  · have hassoc : word ++ [line] = before ++ found :: more ++ [last] := by simpa using h
    exact .inr ⟨more, (List.append_inj' hassoc rfl).1⟩

end Words

def words (lines : List (Number × Line)) : List Line := lines.map (·.2)

def breachTimes (lines : List (Number × Line)) : List Number :=
  (lines.filter fun line => line.2 = .breach).map (·.1)

/-- What the state of an alert tells of the lines that it has written. -/
structure Tells (s : State) (lines : List (Number × Line)) : Prop where
  active : s.active = if s.breached then 1 else 0
  word : words lines ∈ (written s.breached).matches'
  count : s.breachCount = (breachTimes lines).length
  last : s.lastBreach = (breachTimes lines).getLast?
  breached : s.breached = true ↔ (words lines).getLast? = some .breach
  paired : ∀ before rest, words lines = before ++ .recovery :: rest →
    before.getLast? = some .breach

section Steps

variable {rules : Rules} {now : Number} {s next : State} {found : Bool}
  {lines : List (Number × Line)} {new : List Line}

theorem tells_initial (alert : Kind) : Tells (States.initial.get alert) [] := by
  have hs : States.initial.get alert = {} := PerAlert.get_tabulate _ alert
  rw [hs]
  exact ⟨rfl, nil_mem_written, rfl, rfl, by simp [words], by simp [words]⟩

/-- Every move keeps the state in agreement with the lines. -/
theorem Move.tells (hmove : Move rules now s found next new) (h : Tells s lines) :
    Tells next (lines ++ new.map fun line => (now, line)) := by
  have hwords : words (lines ++ new.map fun line => (now, line)) = words lines ++ new := by
    simp [words, Function.comp_def]
  cases hmove with
  | announce _ =>
    refine ⟨rfl, ?_, ?_, ?_, ?_, fun before rest he => ?_⟩
    · rw [hwords]
      exact breach_mem_written h.word
    · simp [breachTimes, h.count]
    · simp [breachTimes]
    · rw [hwords]
      simp
    · rw [hwords] at he
      rcases concat_eq_append_cons he with ⟨-, hline⟩ | ⟨more, hmore⟩
      · cases hline
      · exact h.paired before more hmore
  | persist hb hc =>
    rw [List.map_nil, List.append_nil]
    exact ⟨by simp [hb], h.word, h.count, h.last, h.breached, h.paired⟩
  | recover hb =>
    refine ⟨rfl, ?_, ?_, ?_, ?_, fun before rest he => ?_⟩
    · have hword := h.word
      rw [hb] at hword
      rw [hwords]
      exact recovery_mem_written hword
    · simpa [breachTimes] using h.count
    · simpa [breachTimes] using h.last
    · rw [hwords]
      simp
    · rw [hwords] at he
      rcases concat_eq_append_cons he with ⟨hbefore, -⟩ | ⟨more, hmore⟩
      · rw [← hbefore]
        exact h.breached.mp hb
      · exact h.paired before more hmore
  | rest hb =>
    rw [List.map_nil, List.append_nil]
    exact ⟨by simp [hb], h.word, h.count, h.last, h.breached, h.paired⟩

theorem Move.active_eq (hmove : Move rules now s found next new) :
    next.active = if found then 1 else 0 := by
  cases hmove <;> rfl

theorem Move.breachCount_le (hmove : Move rules now s found next new) :
    next.breachCount ≤ s.breachCount + 1 := by
  cases hmove with
  | announce _ => exact Nat.le_refl _
  | persist _ _ | recover _ | rest _ => exact Nat.le_succ _

theorem Move.le_breachCount (hmove : Move rules now s found next new) :
    s.breachCount ≤ next.breachCount := by
  cases hmove with
  | announce _ => exact Nat.le_succ _
  | persist _ _ | recover _ | rest _ => exact Nat.le_refl _

/-- An alert that begins to be breached says so. -/
theorem Move.announced (hmove : Move rules now s found next new) (hs : s.breached = false)
    (hnext : next.breached = true) : next.breachCount = s.breachCount + 1 ∧
      next.lastBreach = some now ∧ new = [.breach] := by
  cases hmove with
  | announce _ => exact ⟨rfl, rfl, rfl⟩
  | persist hb hc => exact absurd hb (by rw [hs]; decide)
  | recover hb => cases hnext
  | rest hb => exact absurd hnext (by rw [hs]; decide)

end Steps

theorem tells_run (rules : Rules) (evaluations : List Evaluation) (alert : Kind) :
    Tells ((History.run rules evaluations).states.get alert)
      ((History.run rules evaluations).lines alert) := by
  induction evaluations using List.reverseRecOn with
  | nil => exact tells_initial alert
  | append_singleton before e ih =>
    obtain ⟨found, new, hmove, hlines⟩ :=
      History.extend_move rules (History.run rules before) e alert
    rw [History.run_concat, hlines]
    exact hmove.tells ih

/-- Over any history of evaluations an alert writes runs of breaches, each but the last closed by a
single recovery. Its state counts the breaches and keeps the time of the last one, and it is active
exactly while a breach is its last line. A recovery directly follows a breach, and an alert does not
become active without a line. -/
theorem announcements_of_run (rules : Rules) (evaluations : List Evaluation) (alert : Kind) :
    let h := History.run rules evaluations
    let s := h.states.get alert
    let lines := h.lines alert
    words lines ∈ turns.matches' ∧
    s.breachCount = (breachTimes lines).length ∧
    s.lastBreach = (breachTimes lines).getLast? ∧
    (s.lastBreach = none ↔ breachTimes lines = []) ∧
    s.active = (if s.breached then 1 else 0) ∧
    (alert ∈ active h.states ↔ s.breached = true) ∧
    (s.breached = true ↔ (words lines).getLast? = some .breach) ∧
    (∀ before rest, words lines = before ++ .recovery :: rest → before.getLast? = some .breach) ∧
    ∀ e, s.breached = false →
      ((History.run rules (evaluations ++ [e])).states.get alert).breached = true →
      (History.run rules (evaluations ++ [e])).lines alert = lines ++ [(e.now, .breach)] := by
  intro h s lines
  have htells : Tells s lines := tells_run rules evaluations alert
  refine ⟨written_le_turns _ htells.word, htells.count, htells.last, ?_, htells.active, ?_,
    htells.breached, htells.paired, fun e hs hnext => ?_⟩
  · rw [htells.last, List.getLast?_eq_none_iff]
  · rw [mem_active_iff, htells.active]
    cases s.breached <;> decide
  · obtain ⟨found, new, hmove, hlines⟩ := History.extend_move rules h e alert
    rw [History.run_concat] at hnext ⊢
    obtain ⟨-, -, rfl⟩ := hmove.announced hs hnext
    exact hlines

def slowSample : Sample :=
  { timestamp := 0, requestMs := 900, isError := false, databaseMs := 0 }

/-- One slow request is enough for a breach, and a breach is repeated after a second. -/
def promptRules : Rules :=
  { thresholds := { requestP95 := 500, errorRate := 0, databaseAvg := 0 }
    minRequests := 1, cooldownSec := 1, windowSec := 60 }

/-- A breach, a reminder that comes too early, a recovery, and at an earlier time a new breach. -/
theorem announcements_of_two_breaches :
    let evaluations : List Evaluation :=
      [⟨[slowSample], 5000⟩, ⟨[slowSample], 5500⟩, ⟨[], 6000⟩, ⟨[slowSample], 4000⟩]
    let h := History.run promptRules evaluations
    h.lines .requestP95 = [(5000, .breach), (6000, .recovery), (4000, .breach)] ∧
      (h.states.get .requestP95).breachCount = 2 ∧
      (h.states.get .requestP95).lastBreach = some 4000 ∧ .requestP95 ∈ active h.states := by
  intro evaluations h
  have hlines : h.lines .requestP95 =
      [(5000, .breach), (6000, .recovery), (4000, .breach)] := by decide +kernel
  obtain ⟨-, hcount, hlast, -, -, hactive, hbreached, -, -⟩ :=
    announcements_of_run promptRules evaluations .requestP95
  rw [hlines] at hcount hlast hbreached
  exact ⟨hlines, hcount, hlast, hactive.mpr (hbreached.mpr rfl)⟩

end Telemetry.Alert
