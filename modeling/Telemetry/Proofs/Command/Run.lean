import Telemetry.Command.Run
import Telemetry.Package.Logger
import Telemetry.Proofs.Shutdown.Run

/-! # What the code of a command tells

A command that ends by itself has code zero exactly if it wrote nothing to the error stream. Faulty
arguments and an unknown log level stop it before it touches anything. Only a shutdown hook whose
failure has no text keeps a command from ending by itself.
-/
namespace Telemetry.Command

open Shutdown (Occasion Registry Result outcomesOf)

section Levels

/-- A text that is no name of a level, in any case and without the blanks around it. -/
def IsUnknownLevel (levels : Log.Levels) (text : String) : Prop :=
  ∀ level ∈ levels.thresholds, level.name ≠ Text.lowerAscii (Text.trim text)

theorem read?_eq_none_iff (levels : Log.Levels) (text : String) :
    levels.read? text = none ↔ IsUnknownLevel levels text := by
  rw [Log.Levels.read?, List.find?_eq_none]
  exact ⟨fun h level hlevel => by simpa using h level hlevel,
    fun h level hlevel => by simpa using h level hlevel⟩

/-- Whether arguments are faulty or ask for a level that is unknown. -/
def Arguments.IsRejected (a : Arguments) (levels : Log.Levels) : Prop :=
  a.errors ≠ [] ∨ ∃ text, a.logLevel = some text ∧ IsUnknownLevel levels text

variable {a : Arguments} {journal : Log.Journal}

theorem applyLevel_of_unknown {text : String} (ha : a.logLevel = some text)
    (h : IsUnknownLevel journal.levels text) :
    a.applyLevel journal = .error (.plain (Log.Journal.unknownLevel journal.levels text)) := by
  rw [Arguments.applyLevel, ha]
  dsimp only
  rw [Log.Journal.setLevel, (read?_eq_none_iff journal.levels text).mpr h]

/-- A level that is known can be set. -/
theorem exists_applyLevel (h : ¬ a.IsRejected journal.levels) :
    ∃ later, a.applyLevel journal = .ok later := by
  cases hlevel : a.logLevel with
  | none => exact ⟨journal, by rw [Arguments.applyLevel, hlevel]⟩
  | some text =>
    rw [Arguments.applyLevel, hlevel]
    dsimp only
    rw [Log.Journal.setLevel]
    cases hread : journal.levels.read? text with
    | none =>
      exact absurd (.inr ⟨text, hlevel, (read?_eq_none_iff journal.levels text).mp hread⟩) h
    | some level =>
      dsimp only
      split <;> exact ⟨_, rfl⟩

end Levels

section Streams

theorem linesText_eq_empty_iff (lines : List String) : linesText lines = "" ↔ lines = [] := by
  refine ⟨fun h => ?_, fun h => by rw [h]; rfl⟩
  cases lines with
  | nil => rfl
  | cons line rest =>
    have hlength := congrArg String.length h
    simp [linesText] at hlength

/-- There is a line for each hook that failed. -/
theorem hookMessages_eq_nil_iff (results : List Result) :
    hookMessages results = [] ↔ results.any (·.failed) = false := by
  simp [hookMessages, Result.failed]

end Streams

variable {σ : Type}

/-- A command that ends by itself, with a code that tells whether there were errors. -/
structure Outcome.Ends (o : Outcome σ) : Prop where
  faultless : o.fault = none
  code : o.code = 0 ∨ o.code = 1
  silent : o.code = 0 ↔ o.stderr = ""

theorem Outcome.Ends.of_error {o : Outcome σ} {lines : List String} (hfault : o.fault = none)
    (hcode : o.code = 1) (hlines : lines ≠ []) (hstderr : o.stderr = linesText lines) : o.Ends := by
  refine ⟨hfault, .inr hcode, iff_of_false (by simp [hcode]) ?_⟩
  rw [hstderr, linesText_eq_empty_iff]
  exact hlines

/-- Whether a shutdown hook of the service meets a failure that has no text. -/
def HooksBreak (a : Arguments) (s : Surroundings σ) (journal : Log.Journal) : Prop :=
  ∃ later running, s.start (a.override s.settings) journal = (later, .ok running) ∧
    ∃ e ∈ outcomesOf { reason := "signal", signal := some s.signal } running.state
      running.hooks.reverse, e.2.isWordless = true

section Commands

variable (a : Arguments) (s : Surroundings σ) (journal : Log.Journal)

theorem serve_ends (h : ¬ HooksBreak a s journal) : (serve a s journal).Ends := by
  unfold serve
  dsimp only
  cases hstart : s.start (a.override s.settings) journal with
  | mk later started =>
    cases started with
    | error failure => exact .of_error rfl rfl (List.cons_ne_nil _ _) rfl
    | ok running =>
      have htold : (outcomesOf { reason := "signal", signal := some s.signal } running.state
          running.hooks.reverse).any (·.2.isWordless) = false := by
        rw [List.any_eq_false]
        intro e he hwordless
        exact h ⟨later, running, hstart, e, he, hwordless⟩
      have hfault : (running.hooks.run { reason := "signal", signal := some s.signal }
          running.state).fault = none := by
        rw [Registry.run, Registry.fault_runEach, htold]
        rfl
      dsimp only
      rw [Shutdown.Report.answer, hfault]
      dsimp only
      generalize (running.hooks.run _ _).results = results
      refine ⟨rfl, ?_, ?_⟩
      · dsimp only
        split <;> simp
      · dsimp only
        rw [linesText_eq_empty_iff, hookMessages_eq_nil_iff]
        cases results.any (·.failed) <;> simp

theorem serve_of_break (h : HooksBreak a s journal) :
    (serve a s journal).fault = some .wordless ∧ (serve a s journal).stderr = "" := by
  obtain ⟨later, running, hstart, e, he, hwordless⟩ := h
  have hany := List.any_eq_true (p := fun e => e.2.isWordless).mpr ⟨e, he, hwordless⟩
  have hfault : (running.hooks.run { reason := "signal", signal := some s.signal }
      running.state).fault = some .wordless := by
    rw [Registry.run, Registry.fault_runEach]
    exact if_pos hany
  unfold serve
  dsimp only
  rw [hstart]
  dsimp only
  rw [Shutdown.Report.answer, hfault]
  exact ⟨rfl, rfl⟩

theorem perform_ends (h : a.commandName = "serve" → ¬ HooksBreak a s journal) :
    (perform a s journal).Ends := by
  unfold perform
  dsimp only
  by_cases hserve : a.commandName = "serve"
  · rw [if_pos hserve]
    exact serve_ends a s journal (h hserve)
  · rw [if_neg hserve]
    split
    · exact ⟨rfl, .inl rfl, iff_of_true rfl rfl⟩
    · split
      · exact ⟨rfl, .inl rfl, iff_of_true rfl rfl⟩
      · exact .of_error rfl rfl (List.cons_ne_nil _ _) rfl

end Commands

section Runs

variable (argv : List String) (s : Surroundings σ) (journal : Log.Journal)

theorem run_of_accepted (h : ¬ (Arguments.parse argv).IsRejected journal.levels) :
    ∃ later, (Arguments.parse argv).applyLevel journal = .ok later ∧
      run argv s journal = perform (Arguments.parse argv) s later := by
  obtain ⟨later, hlater⟩ := exists_applyLevel h
  have herrors : (Arguments.parse argv).errors = [] := by
    by_contra hne
    exact h (.inl hne)
  refine ⟨later, hlater, ?_⟩
  unfold run
  dsimp only
  rw [herrors, hlater]
  rfl

/-- A command that is rejected touches nothing. -/
theorem run_of_rejected (h : (Arguments.parse argv).IsRejected journal.levels) :
    (run argv s journal).Ends ∧ (run argv s journal).code = 1 ∧
      (run argv s journal).stdout = "" ∧ (run argv s journal).effects = [] ∧
      (run argv s journal).journal = journal := by
  unfold run
  dsimp only
  cases herrors : (Arguments.parse argv).errors with
  | cons e rest => exact ⟨.of_error rfl rfl (by simp) rfl, rfl, rfl, rfl, rfl⟩
  | nil =>
    obtain hne | ⟨text, htext, hunknown⟩ := h
    · exact absurd herrors hne
    · rw [applyLevel_of_unknown htext hunknown]
      exact ⟨.of_error rfl rfl (List.cons_ne_nil _ _) rfl, rfl, rfl, rfl, rfl⟩

/-- Whether a command is accepted, serves, and has a shutdown hook that fails without a text. -/
def Breaks (argv : List String) (s : Surroundings σ) (journal : Log.Journal) : Prop :=
  let a := Arguments.parse argv
  ¬ a.IsRejected journal.levels ∧ a.commandName = "serve" ∧
    ∃ later, a.applyLevel journal = .ok later ∧ HooksBreak a s later

theorem run_ends (h : ¬ Breaks argv s journal) : (run argv s journal).Ends := by
  by_cases hrejected : (Arguments.parse argv).IsRejected journal.levels
  · exact (run_of_rejected argv s journal hrejected).1
  · obtain ⟨later, hlater, hrun⟩ := run_of_accepted argv s journal hrejected
    rw [hrun]
    exact perform_ends _ s later fun hserve hbreak => h ⟨hrejected, hserve, later, hlater, hbreak⟩

theorem run_of_breaks (h : Breaks argv s journal) :
    (run argv s journal).fault = some .wordless ∧ (run argv s journal).stderr = "" := by
  obtain ⟨haccepted, hserve, level, hlevel, hbreak⟩ := h
  obtain ⟨later, hlater, hrun⟩ := run_of_accepted argv s journal haccepted
  obtain rfl : level = later := Except.ok.inj (hlevel.symm.trans hlater)
  rw [hrun, perform, if_pos hserve]
  exact serve_of_break _ s level hbreak

end Runs

/-- Whatever the arguments are, whether the service starts and however its shutdown hooks fail, a
command ends with code zero exactly if it wrote nothing to the error stream, and with code one
otherwise. The one exception is a hook whose failure has no text: that is a fault of the command,
and nothing tells of it on the error stream. Faulty arguments and an unknown level stop a command
before it writes a result, loads settings, starts a service or touches the log. -/
theorem code_tells_errors (argv : List String) (s : Surroundings σ) (journal : Log.Journal) :
    let a := Arguments.parse argv
    let o := run argv s journal
    (¬ Breaks argv s journal →
      o.fault = none ∧ (o.code = 0 ↔ o.stderr = "") ∧ (o.stderr ≠ "" → o.code = 1)) ∧
    (Breaks argv s journal → o.fault = some .wordless ∧ o.stderr = "") ∧
    ((a.errors ≠ [] ∨ ∃ text, a.logLevel = some text ∧ IsUnknownLevel journal.levels text) →
      ¬ Breaks argv s journal ∧ o.code = 1 ∧ o.stderr ≠ "" ∧ o.stdout = "" ∧ o.effects = [] ∧
        o.journal = journal) := by
  intro a o
  refine ⟨fun h => ?_, run_of_breaks argv s journal, fun h => ?_⟩
  · have hends := run_ends argv s journal h
    exact ⟨hends.faultless, hends.silent,
      fun hne => hends.code.resolve_left fun hzero => hne (hends.silent.mp hzero)⟩
  · obtain ⟨hends, hcode, hstdout, heffects, hjournal⟩ := run_of_rejected argv s journal h
    have hstderr : o.stderr ≠ "" := by
      intro hempty
      have hzero : o.code = 0 := hends.silent.mpr hempty
      exact absurd (hcode.symm.trans hzero) Nat.one_ne_zero
    exact ⟨fun hbreaks => hbreaks.1 h, hcode, hstderr, hstdout, heffects, hjournal⟩

/-- A service that starts and has a single shutdown hook. -/
def singleHook (failure : Option Failure) : Surroundings Unit where
  settings := Settings.Runtime.resolve .absent
  start settings journal := (journal, .ok
    { port := .number settings.server.port
      hooks := Registry.register [] "queue" fun _ s => { state := s, failure := failure }
      state := () })
  signal := "SIGTERM"

/-- An empty log at the level `info`. -/
def plainLog : Log.Journal := { levels := Package.levels, threshold := .info }

theorem code_tells_errors_of_failed_hook :
    let served := run ["serve"] (singleHook (some (.plain "flush failed"))) plainLog
    let rejected := run ["serve", "--log-level", "loud"] (singleHook none) plainLog
    (served.stderr = "Shutdown hook queue failed: flush failed\n" ∧ served.code = 1) ∧
      rejected.code = 1 ∧ rejected.stdout = "" ∧ rejected.effects = [] := by
  intro served rejected
  have htold : ¬ Breaks ["serve"] (singleHook (some (.plain "flush failed")))
      plainLog := by
    rintro ⟨-, -, later, hlater, after, running, hstart, e, he, hwordless⟩
    cases hstart
    rw [List.mem_singleton.mp he] at hwordless
    cases hwordless
  have hstderr : served.stderr = "Shutdown hook queue failed: flush failed\n" := by decide +kernel
  have hcode := (code_tells_errors ["serve"] _ plainLog).1 htold
  have hlevel : (Arguments.parse ["serve", "--log-level", "loud"]).logLevel = some "loud" := by
    decide +kernel
  have hunknown : IsUnknownLevel Package.levels "loud" :=
    (read?_eq_none_iff _ "loud").mp (by decide +kernel)
  obtain ⟨-, hone, -, hstdout, heffects, -⟩ :=
    (code_tells_errors ["serve", "--log-level", "loud"] (singleHook none)
      plainLog).2.2 (.inr ⟨"loud", hlevel, hunknown⟩)
  exact ⟨⟨hstderr, hcode.2.2 (by rw [hstderr]; decide)⟩, hone, hstdout, heffects⟩

/-- A hook that throws a record with a member `toString` leaves the command without a code of its
own, and nothing is written to the error stream. -/
theorem wordless_hook_is_silent :
    let thrown := Failure.value (.record [("toString", .number 1)])
    let o := run ["serve"] (singleHook (some thrown)) plainLog
    o.fault.isSome = true ∧ o.stderr = "" ∧ ¬ (o.code = 0 ↔ o.stderr = "") := by
  decide +kernel

end Telemetry.Command
