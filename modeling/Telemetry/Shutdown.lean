import Telemetry.Log.Basic
import Telemetry.Table

/-! # Shutdown hooks

Hooks are registered by name. A name keeps its place when it is registered again, and the hooks
run in the reverse of that order, whether or not those before them failed. Every failure is noted
with its message, and a run breaks off at a failure that has none. A registration is withdrawn by
its name, so the withdrawal takes away whatever is then registered under it.
-/
namespace Telemetry.Shutdown

/-- Why the hooks run. -/
structure Occasion where
  reason : String
  signal : Option String := none

/-- What a hook leaves behind. -/
structure Outcome (σ : Type) where
  state : σ
  failure : Option Failure := none
  logs : List Log.Entry := []

/-- Whether there is nothing to note of a failure. -/
def Outcome.isWordless {σ : Type} (o : Outcome σ) : Bool := o.failure.any fun f => !f.hasMessage

/-- A step on the state that is shut down. -/
abbrev Hook (σ : Type) := Occasion → σ → Outcome σ

/-- A hook on the first part of a state. -/
def Hook.onFirst {σ τ : Type} (hook : Hook σ) : Hook (σ × τ) := fun occasion s =>
  let outcome := hook occasion s.1
  { state := (outcome.state, s.2), failure := outcome.failure, logs := outcome.logs }

/-- A hook on the second part of a state. -/
def Hook.onSecond {σ τ : Type} (hook : Hook τ) : Hook (σ × τ) := fun occasion s =>
  let outcome := hook occasion s.2
  { state := (s.1, outcome.state), failure := outcome.failure, logs := outcome.logs }

/-- The result of one hook. -/
structure Result where
  name : String
  failure : Option Failure := none

def Result.failed (r : Result) : Bool := r.failure.isSome

abbrev Registry (σ : Type) := Table String (Hook σ)

/-- The registry and the state after a run, with the results and the log in the order of the run,
and what broke the run off. -/
structure Report (σ : Type) where
  registry : Registry σ
  state : σ
  results : List Result := []
  logs : List Log.Entry := []
  fault : Option Failure := none

/-- What the caller of a run gets: the results, unless the run broke off. -/
def Report.answer {σ : Type} (r : Report σ) : Except Failure (List Result) :=
  match r.fault with
  | none => .ok r.results
  | some fault => .error fault

def failedEntry (name : String) (failure : Failure) : Log.Entry :=
  { source := .root, level := .warn, message := "Shutdown hook failed"
    fields := [("err", failure.datum), ("hook", .text name)] }

namespace Registry

variable {σ : Type}

def register (r : Registry σ) (name : String) (hook : Hook σ) : Registry σ :=
  r.alter name fun _ => hook

def unregister (r : Registry σ) (name : String) : Registry σ := r.erase name

/-- Runs hooks one after another, which were taken from a registry. -/
def runEach (occasion : Occasion) (r : Registry σ) (s : σ) : List (String × Hook σ) → Report σ
  | [] => { registry := r, state := s }
  | (name, hook) :: rest =>
    let outcome := hook occasion s
    if outcome.isWordless then
      { registry := r, state := outcome.state, logs := outcome.logs, fault := some .wordless }
    else
      let failure := outcome.failure.map Failure.asError
      let later := runEach occasion r outcome.state rest
      { registry := later.registry
        state := later.state
        results := { name := name, failure := failure } :: later.results
        logs := outcome.logs ++ (failure.map (failedEntry name)).toList ++ later.logs
        fault := later.fault }

/-- Runs all hooks, the last name first. -/
def run (r : Registry σ) (occasion : Occasion) (s : σ) : Report σ :=
  runEach occasion r s r.reverse

end Registry

/-- A change of the registry. Registrations are withdrawn by their number, counted from zero. -/
inductive Change (σ : Type) where
  | register (name : String) (hook : Hook σ)
  | withdraw (registration : Nat)
  | reset

/-- A registry with the names of all registrations so far. -/
structure History (σ : Type) where
  registry : Registry σ := []
  names : List String := []

def History.apply {σ : Type} (h : History σ) : Change σ → History σ
  | .register name hook =>
    { registry := h.registry.register name hook, names := h.names ++ [name] }
  | .withdraw registration =>
    match h.names[registration]? with
    | some name => { h with registry := h.registry.unregister name }
    | none => h
  | .reset => { h with registry := [] }

/-- The history that a list of changes leaves behind. -/
def History.after {σ : Type} (changes : List (Change σ)) : History σ :=
  changes.foldl History.apply {}

/-- Runs the hooks that are registered. -/
def History.run {σ : Type} (h : History σ) (occasion : Occasion) (s : σ) : History σ × Report σ :=
  let report := h.registry.run occasion s
  ({ h with registry := report.registry }, report)

end Telemetry.Shutdown
