import Mathlib.Data.List.Chain
import Telemetry.Proofs.Metric.Sink
import Telemetry.Proofs.Number.Whole

/-! # The warnings of a sink

A sink warns of the failures that are not too soon after the one it last warned of. The times of
the failures alone decide which these are: neither the kind of a failure nor a new socket makes a
difference.
-/
namespace Telemetry.Metric

/-- A failure with its time. -/
abbrev Mishap := Number × Failure

/-- Whether a time follows the last of some failures too soon. -/
def tooSoon (earlier : List Mishap) (now : Number) : Bool :=
  earlier.getLast?.any fun last => (now - last.1).lt warningInterval

/-- Lets a failure pass unless it follows the last that passed too soon. -/
def letPass (passed : List Mishap) (f : Mishap) : List Mishap :=
  if tooSoon passed f.1 then passed else passed ++ [f]

def admitted (failures : List Mishap) : List Mishap := failures.foldl letPass []

/-- Two times of which the second is not within the interval after the first. For finite times the
interval has passed. -/
def Spaced (last now : Number) : Prop :=
  (now - last).lt warningInterval = false ∧
    (last.isFinite = true → now.isFinite = true → warningInterval.le (now - last) = true)

/-- The warning of a failure, with the time of the failure. -/
def warned (settings : SinkSettings) (f : Mishap) : Number × Log.Entry :=
  (f.1, Sink.warning { settings := settings } f.2)

def Sink.History.warnings (h : Sink.History) : List (Number × Log.Entry) :=
  h.log.filter fun e => isWarning e.2

section Limiter

variable {failures : List Mishap} {f : Mishap} {last now : Number}

theorem spaced_iff : Spaced last now ↔ (now - last).lt warningInterval = false := by
  constructor
  · intro h
    exact h.1
  · intro h
    refine ⟨h, ?_⟩
    intro hlast hnow
    exact (Number.not_lt_iff (Number.isNaN_sub hnow hlast) (Number.isNaN_ofNat 60000)).mp h

theorem admitted_concat : admitted (failures ++ [f]) = letPass (admitted failures) f := by
  simp [admitted]

theorem spaced_admitted (failures : List Mishap) :
    ((admitted failures).map Prod.fst).IsChain Spaced := by
  induction failures using List.reverseRecOn with
  | nil => exact List.IsChain.nil
  | append_singleton before f ih =>
    rw [admitted_concat, letPass]
    split
    · exact ih
    · rename_i hlate
      rw [List.map_append]
      refine List.isChain_append.mpr ⟨ih, List.IsChain.singleton _, ?_⟩
      intro last hlast now hnow
      obtain rfl : now = f.1 := by simpa using hnow.symm
      obtain ⟨g, hg, rfl⟩ := Option.map_eq_some_iff.mp (List.getLast?_map ▸ hlast)
      simp only [tooSoon, hg, Option.any_some] at hlate
      exact spaced_iff.mpr (by simpa using hlate)

/-- What has passed is never taken back. -/
theorem prefix_foldl_letPass (failures passed : List Mishap) :
    passed <+: failures.foldl letPass passed := by
  induction failures generalizing passed with
  | nil => exact List.prefix_refl passed
  | cons f rest ih =>
    refine List.IsPrefix.trans ?_ (ih (letPass passed f))
    unfold letPass
    split
    · exact List.prefix_refl passed
    · exact List.prefix_append passed [f]

theorem head_admitted (f : Mishap) (rest : List Mishap) :
    (admitted (f :: rest)).head? = some f := by
  obtain ⟨others, hothers⟩ := prefix_foldl_letPass rest [f]
  have hfirst : admitted (f :: rest) = rest.foldl letPass [f] := rfl
  rw [hfirst, ← hothers]
  rfl

end Limiter

section Reports

variable {s ready : Sink} {net : Network} {now : Number} {settings : SinkSettings}
  {passed : List Mishap}

theorem isQuiet_eq (hlast : s.lastWarning = passed.getLast?.map Prod.fst) :
    s.isQuiet now = tooSoon passed now := by
  unfold Sink.isQuiet tooSoon
  rw [hlast]
  cases passed.getLast? <;> rfl

/-- A move is made without regard to warnings. -/
theorem Move.reported_eq {line : String} {sends : Bool} {actions : List SocketAction}
    (h : Move s net line sends actions ready) (now : Number) (cause : Option Failure) :
    (ready.reported now cause).logs = (s.reported now cause).logs ∧
      (ready.reported now cause).sink.lastWarning = (s.reported now cause).sink.lastWarning := by
  have hlast : ready.lastWarning = s.lastWarning := by cases h <;> rfl
  cases cause with
  | none => exact ⟨rfl, hlast⟩
  | some cause =>
    have hquiet : ready.isQuiet now = s.isQuiet now := by simp only [Sink.isQuiet, hlast]
    have hwarning : ready.warning cause = s.warning cause := by
      simp only [Sink.warning, h.settings_eq]
    simp only [Sink.reported, report_ok, hquiet, hwarning]
    split
    · exact ⟨rfl, hlast⟩
    · exact ⟨rfl, rfl⟩

theorem warnings_of_calm {o : Occasion} (hfailure : s.failure? o = none) :
    (s.handle o).logs.filter isWarning = [] ∧ (s.handle o).sink.lastWarning = s.lastWarning := by
  obtain ⟨ready, hmove, hreports⟩ := handle_move s o
  obtain ⟨hlogs, hlast⟩ := hmove.reported_eq o.now (s.failure? o)
  rw [hreports.warnings, hreports.sink, hlogs, hlast, hfailure]
  exact ⟨rfl, rfl⟩

/-- What a failure does to the warnings depends only on the time of the last one. -/
theorem warnings_of_failure {o : Occasion} {cause : Failure}
    (hfailure : s.failure? o = some cause)
    (hpassed : s.lastWarning = passed.getLast?.map Prod.fst) :
    (s.handle o).logs.filter isWarning =
        (if tooSoon passed o.now then [] else [s.warning cause]) ∧
      (s.handle o).sink.lastWarning =
        (letPass passed (o.now, cause)).getLast?.map Prod.fst := by
  obtain ⟨ready, hmove, hreports⟩ := handle_move s o
  obtain ⟨hlogs, hlast⟩ := hmove.reported_eq o.now (s.failure? o)
  rw [hreports.warnings, hreports.sink, hlogs, hlast, hfailure, Sink.reported, report_ok,
    isQuiet_eq hpassed, letPass]
  split
  · exact ⟨rfl, hpassed⟩
  · simp

end Reports

/-- What ties a sink to the failures that it met. -/
structure Limited (settings : SinkSettings) (h : Sink.History) : Prop where
  kept : h.sink.settings = settings
  last : h.sink.lastWarning = (admitted h.failures).getLast?.map Prod.fst
  warnings : h.warnings = (admitted h.failures).map (warned settings)

section Runs

variable {settings : SinkSettings}

theorem warnings_extend (h : Sink.History) (o : Occasion) :
    (h.extend o).warnings =
      h.warnings ++ ((h.sink.handle o).logs.filter isWarning).map fun entry => (o.now, entry) := by
  simp [Sink.History.warnings, Sink.History.extend, List.filter_map, Function.comp_def]

theorem Limited.extend {h : Sink.History} (hlimited : Limited settings h) (o : Occasion) :
    Limited settings (h.extend o) := by
  have hkept : (h.extend o).sink.settings = settings :=
    (Sink.History.settings_extend h o).trans hlimited.kept
  cases hfailure : h.sink.failure? o with
  | none =>
    obtain ⟨hnone, hlast⟩ := warnings_of_calm hfailure
    have hfailures : (h.extend o).failures = h.failures := by simp [Sink.History.extend, hfailure]
    refine ⟨hkept, ?_, ?_⟩
    · rw [hfailures, ← hlimited.last]
      exact hlast
    · simp [warnings_extend, hnone, hfailures, hlimited.warnings]
  | some cause =>
    obtain ⟨hsome, hlast⟩ := warnings_of_failure hfailure hlimited.last
    have hfailures :
        admitted (h.extend o).failures = letPass (admitted h.failures) (o.now, cause) := by
      simp [Sink.History.extend, hfailure, admitted_concat]
    refine ⟨hkept, ?_, ?_⟩
    · rw [hfailures]
      exact hlast
    · rw [warnings_extend, hsome, hfailures, letPass, hlimited.warnings]
      split
      · simp
      · simp [warned, Sink.warning, hlimited.kept]

theorem limited_run (settings : SinkSettings) (occasions : List Occasion) :
    Limited settings (Sink.History.run settings occasions) := by
  induction occasions using List.reverseRecOn with
  | nil => exact ⟨rfl, rfl, rfl⟩
  | append_singleton before o ih =>
    rw [Sink.History.run_concat]
    exact ih.extend o

end Runs

/-- Over every history a sink warns of exactly the failures that pass the limiter, each with its
time. Two warnings in a row are never less than sixty seconds apart; that they are at least that
far apart is said of finite readings, since a difference that is no number has no order. The first
failure is warned of, and a failure that is not follows the last warning within sixty seconds. -/
theorem warnings_limited (settings : SinkSettings) (occasions : List Occasion) (next : Occasion) :
    let h := Sink.History.run settings occasions
    let warnings := (h.sink.handle next).logs.filter isWarning
    h.warnings = (admitted h.failures).map (warned settings) ∧
      (h.warnings.map Prod.fst).IsChain (fun last now => (now - last).lt 60000 = false ∧
        (last.isFinite = true → now.isFinite = true → Number.le 60000 (now - last) = true)) ∧
      (∀ first rest, h.failures = first :: rest → h.warnings.head? = some (warned settings first)) ∧
      (h.sink.failure? next = none → warnings = []) ∧
      (∀ cause, h.sink.failure? next = some cause →
        warnings = [h.sink.warning cause] ∨
          warnings = [] ∧ ∃ last, (h.warnings.map Prod.fst).getLast? = some last ∧
            (next.now - last).lt 60000 = true) := by
  intro h warnings
  have hlimited : Limited settings h := limited_run settings occasions
  have htimes : h.warnings.map Prod.fst = (admitted h.failures).map Prod.fst := by
    simp [hlimited.warnings, warned]
  refine ⟨hlimited.warnings, ?_, ?_, ?_, ?_⟩
  · rw [htimes]
    exact spaced_admitted h.failures
  · intro first rest hfailures
    rw [hlimited.warnings, List.head?_map, hfailures, head_admitted]
    rfl
  · intro hnone
    exact (warnings_of_calm hnone).1
  · intro cause hcause
    have hwarns : warnings = _ := (warnings_of_failure hcause hlimited.last).1
    cases hsoon : tooSoon (admitted h.failures) next.now with
    | false =>
      left
      simpa [hsoon] using hwarns
    | true =>
      right
      refine ⟨by simpa [hsoon] using hwarns, ?_⟩
      obtain ⟨last, hlast, hlt⟩ := (Option.any_eq_true _ _).mp hsoon
      exact ⟨last.1, by rw [htimes, List.getLast?_map, hlast]; rfl, hlt⟩

/-- A socket that cannot be made, one that refuses a datagram a moment too soon, the error of a
datagram over another socket when the interval has just passed, and a late error. -/
def failing : List Occasion :=
  [{ event := .emission (.counter "hits" 1), network := { createThrows := true }, now := 0 },
    { event := .emission (.timing "took" 2), network := { sendThrows := true }, now := 59999 },
    { event := .close, network := {}, now := 59999 },
    { event := .emission (.counter "hits" 3), network := { sendError := some "lost" }
      now := 60000 },
    { event := .socketError "late", network := {}, now := 1 }]

theorem warnings_limited_of_four_failures :
    let h := Sink.History.run { enabled := true } failing
    let gone : Occasion := { event := .socketError "gone", network := {}, now := 120000 }
    h.failures.map Prod.fst = [0, 59999, 60000, 1] ∧
      h.warnings.map Prod.fst = [0, 60000] ∧
      (h.warnings.map Prod.fst).IsChain (fun last now => (now - last).lt 60000 = false ∧
        (last.isFinite = true → now.isFinite = true → Number.le 60000 (now - last) = true)) ∧
      (h.sink.handle gone).logs.filter isWarning = [h.sink.warning (.plain "gone")] := by
  intro h gone
  obtain ⟨-, hspaced, -, -, hwarns⟩ := warnings_limited { enabled := true } failing gone
  have htimes : h.warnings.map Prod.fst = [0, 60000] := by decide +kernel
  have hopened : h.sink.opened = 2 := by decide +kernel
  have hfailure : h.sink.failure? gone = some (.plain "gone") := by
    simp [Sink.failure?, gone, hopened]
  refine ⟨by decide +kernel, htimes, hspaced, (hwarns _ hfailure).resolve_right ?_⟩
  rintro ⟨-, last, hlast, hlt⟩
  rw [htimes] at hlast
  obtain rfl : (60000 : Number) = last := by simpa using hlast
  exact absurd hlt (by decide +kernel)

end Telemetry.Metric
