import Telemetry.Proofs.Shutdown.Registry

/-! # A run of the registered hooks

A run invokes the hooks one after another, each on the state that the one before it left, and notes
whether it failed. It breaks off only where a failure has no message.
-/
namespace Telemetry.Shutdown

variable {σ : Type} (occasion : Occasion)

/-- What hooks leave behind, each invoked on the state that the one before it left. -/
def outcomesOf (s : σ) (hooks : List (String × Hook σ)) : List (String × Outcome σ) :=
  List.zipWith (fun entry state => (entry.1, entry.2 occasion state)) hooks
    (hooks.scanl (fun s entry => (entry.2 occasion s).state) s)

/-- The state after all hooks. -/
def stateAfter (s : σ) (hooks : List (String × Hook σ)) : σ :=
  hooks.foldl (fun s entry => (entry.2 occasion s).state) s

/-- What is noted of a hook. -/
def resultOf (e : String × Outcome σ) : Result :=
  { name := e.1, failure := e.2.failure.map Failure.asError }

/-- What a hook and its failure leave in the log. -/
def entriesOf (e : String × Outcome σ) : List Log.Entry :=
  e.2.logs ++ ((resultOf e).failure.map (failedEntry e.1)).toList

theorem failed_resultOf (e : String × Outcome σ) :
    (resultOf e).failed = e.2.failure.isSome := by
  rw [resultOf, Result.failed, Option.isSome_map]

section Outcomes

variable (s : σ) (name : String) (hook : Hook σ) (rest : List (String × Hook σ))

theorem outcomesOf_cons :
    outcomesOf occasion s ((name, hook) :: rest) =
      (name, hook occasion s) :: outcomesOf occasion (hook occasion s).state rest := by
  rw [outcomesOf, List.scanl_cons, List.zipWith_cons_cons]
  rfl

theorem map_fst_outcomesOf (hooks : List (String × Hook σ)) :
    (outcomesOf occasion s hooks).map (·.1) = hooks.map (·.1) := by
  induction hooks generalizing s with
  | nil => rfl
  | cons entry rest ih => rw [outcomesOf_cons, List.map_cons, List.map_cons, ih]

end Outcomes

namespace Registry

variable (r : Registry σ)

theorem runEach_cons_of_wordless {s : σ} {name : String} {hook : Hook σ}
    (rest : List (String × Hook σ)) (h : (hook occasion s).isWordless = true) :
    runEach occasion r s ((name, hook) :: rest) =
      { registry := r, state := (hook occasion s).state, logs := (hook occasion s).logs
        fault := some .wordless } := by
  rw [runEach]
  exact if_pos h

theorem runEach_cons_of_told {s : σ} {name : String} {hook : Hook σ}
    (rest : List (String × Hook σ)) (h : (hook occasion s).isWordless = false) :
    runEach occasion r s ((name, hook) :: rest) =
      let later := runEach occasion r (hook occasion s).state rest
      { registry := later.registry
        state := later.state
        results := resultOf (name, hook occasion s) :: later.results
        logs := entriesOf (name, hook occasion s) ++ later.logs
        fault := later.fault } := by
  rw [runEach]
  exact if_neg (Bool.eq_false_iff.mp h)

/-- Where every failure has a message, all hooks are invoked and noted. -/
theorem runEach_of_told (s : σ) (hooks : List (String × Hook σ))
    (h : ∀ e ∈ outcomesOf occasion s hooks, e.2.isWordless = false) :
    runEach occasion r s hooks =
      { registry := r
        state := stateAfter occasion s hooks
        results := (outcomesOf occasion s hooks).map resultOf
        logs := (outcomesOf occasion s hooks).flatMap entriesOf } := by
  induction hooks generalizing s with
  | nil => rfl
  | cons entry rest ih =>
    obtain ⟨name, hook⟩ := entry
    rw [outcomesOf_cons] at h ⊢
    rw [runEach_cons_of_told occasion r rest (h _ List.mem_cons_self),
      ih _ fun e he => h e (List.mem_cons_of_mem _ he)]
    rfl

/-- The first failure without a message ends the run. What was noted before it is in the log. -/
theorem runEach_of_wordless (s : σ) (hooks : List (String × Hook σ))
    {before behind : List (String × Outcome σ)} {e : String × Outcome σ}
    (hsplit : outcomesOf occasion s hooks = before ++ e :: behind)
    (hbefore : ∀ b ∈ before, b.2.isWordless = false) (he : e.2.isWordless = true) :
    runEach occasion r s hooks =
      { registry := r
        state := e.2.state
        results := before.map resultOf
        logs := before.flatMap entriesOf ++ e.2.logs
        fault := some .wordless } := by
  induction hooks generalizing s before with
  | nil => exact absurd hsplit.symm (List.append_ne_nil_of_right_ne_nil _ (List.cons_ne_nil _ _))
  | cons entry rest ih =>
    obtain ⟨name, hook⟩ := entry
    rw [outcomesOf_cons] at hsplit
    cases before with
    | nil =>
      obtain ⟨rfl, -⟩ := List.cons.inj hsplit
      exact runEach_cons_of_wordless occasion r rest he
    | cons b before =>
      obtain ⟨rfl, hrest⟩ := List.cons.inj hsplit
      rw [runEach_cons_of_told occasion r rest (hbefore _ List.mem_cons_self),
        ih _ hrest fun c hc => hbefore c (List.mem_cons_of_mem _ hc)]
      simp only [List.map_cons, List.flatMap_cons, List.append_assoc]

/-- No hook touches the registry that it was taken from. -/
theorem registry_runEach (s : σ) (hooks : List (String × Hook σ)) :
    (runEach occasion r s hooks).registry = r := by
  induction hooks generalizing s with
  | nil => rfl
  | cons entry rest ih =>
    obtain ⟨name, hook⟩ := entry
    cases h : (hook occasion s).isWordless with
    | true => rw [runEach_cons_of_wordless occasion r rest h]
    | false =>
      rw [runEach_cons_of_told occasion r rest h]
      exact ih _

/-- A run breaks off exactly if a failure has no message. -/
theorem fault_runEach (s : σ) (hooks : List (String × Hook σ)) :
    (runEach occasion r s hooks).fault =
      if (outcomesOf occasion s hooks).any (·.2.isWordless) then some .wordless else none := by
  induction hooks generalizing s with
  | nil => rfl
  | cons entry rest ih =>
    obtain ⟨name, hook⟩ := entry
    rw [outcomesOf_cons, List.any_cons]
    cases h : (hook occasion s).isWordless with
    | true =>
      rw [runEach_cons_of_wordless occasion r rest h]
      rfl
    | false =>
      rw [runEach_cons_of_told occasion r rest h, Bool.false_or]
      exact ih _

end Registry

/-- After any changes a run invokes the hooks that are registered, each once with its latest hook,
the last name that entered first. If every failure has a message, all of them are invoked and noted
in this order, a hook as failed where it failed. Otherwise the first failure without one breaks the
run off. The registry stays as it is. -/
theorem run_of_changes (changes : List (Change σ)) (s : σ) :
    let h := History.after changes
    let hooks := h.registry.reverse
    let outcomes := outcomesOf occasion s hooks
    let run := h.run occasion s
    ((hooks.map (·.1)).Nodup ∧
      (∀ name hook, (name, hook) ∈ hooks ↔
        ∃ held, held? changes name = some held ∧ held.hook = hook) ∧
      hooks.Pairwise fun a b => place changes b.1 < place changes a.1) ∧
    run.1 = h ∧
    ((∀ e ∈ outcomes, e.2.isWordless = false) →
      run.2.state = stateAfter occasion s hooks ∧
      ∃ results, run.2.answer = .ok results ∧ results.map (·.name) = hooks.map (·.1) ∧
        results.map (·.failed) = outcomes.map fun e => e.2.failure.isSome) ∧
    ∀ before e behind, outcomes = before ++ e :: behind →
      (∀ b ∈ before, b.2.isWordless = false) → e.2.isWordless = true →
      run.2.state = e.2.state ∧ run.2.answer = .error .wordless := by
  intro h hooks outcomes run
  have hk : Keeps changes h := keeps_after changes
  have hrun : run.2 = Registry.runEach occasion h.registry s hooks := rfl
  have hsame : run.1 = h := by
    have hregistry := Registry.registry_runEach occasion h.registry s hooks
    rw [← hrun] at hregistry
    exact congrArg (fun registry => { h with registry := registry }) hregistry
  have horder : h.registry.Pairwise fun a b => place changes a.1 < place changes b.1 := by
    have hkeys := hk.order
    rwa [Table.keys, List.pairwise_map] at hkeys
  refine ⟨⟨?_, fun name hook => ?_, List.pairwise_reverse.mpr horder⟩, hsame, fun htold => ?_,
    fun before e behind hsplit hbefore he => ?_⟩
  · rw [List.map_reverse]
    exact List.nodup_reverse.mpr hk.nodup
  · rw [List.mem_reverse]
    have hget := hk.get? name
    constructor
    · intro hmem
      have hfound := Table.get?_of_mem hk.nodup hmem
      exact Option.map_eq_some_iff.mp (hget.symm.trans hfound)
    · rintro ⟨held, hheld, rfl⟩
      rw [hheld] at hget
      exact Table.mem_of_get? hget
  · have hnames : (outcomes.map resultOf).map (·.name) = hooks.map (·.1) := by
      rw [List.map_map]
      exact map_fst_outcomesOf occasion s hooks
    have hfailed : (outcomes.map resultOf).map (·.failed) =
        outcomes.map fun e => e.2.failure.isSome := by
      rw [List.map_map]
      exact List.map_congr_left fun e _ => failed_resultOf e
    rw [hrun, Registry.runEach_of_told occasion h.registry s hooks htold]
    exact ⟨rfl, _, rfl, hnames, hfailed⟩
  · rw [hrun, Registry.runEach_of_wordless occasion h.registry s hooks hsplit hbefore he]
    exact ⟨rfl, rfl⟩

/-- A hook that notes its invocation and then fails if it is told to. -/
def notes (mark : String) (failure : Option Failure) : Hook (List String) :=
  fun _ marks => { state := marks ++ [mark], failure := failure }

/-- A name that was registered again keeps its place, and one that was withdrawn in between has gone
to the end. -/
theorem run_of_changes_after_withdrawal :
    let changes : List (Change (List String)) := [
      .register "cache" (notes "cache" none), .register "queue" (notes "queue" none),
      .register "http" (notes "http" (some (.value (.list [.null, .text "x"])))),
      .register "cache" (notes "cache again" none), .withdraw 1,
      .register "queue" (notes "queue again" (some (.plain "flush failed")))]
    let run := (History.after changes).run { reason := "test" } []
    run.2.state = ["queue again", "http", "cache again"] ∧
      ∃ results, run.2.answer = .ok results ∧
        results.map (·.name) = ["queue", "http", "cache"] ∧
        results.map (·.failed) = [true, true, false] := by
  intro changes run
  obtain ⟨-, -, htold, -⟩ := run_of_changes { reason := "test" } changes []
  exact htold (by decide +kernel)

/-- A thrown record with a member `toString` breaks the run off, and the hook behind it is never
invoked. -/
theorem wordless_failure_ends_run :
    let thrown := Datum.record [("toString", .number 1)]
    let changes : List (Change (List String)) := [
      .register "a" (notes "a" none), .register "b" (notes "b" (some (.value thrown)))]
    let h := History.after changes
    let run := h.run { reason := "signal", signal := some "SIGTERM" } []
    h.registry.reverse.map (·.1) = ["b", "a"] ∧ run.2.state = ["b"] ∧
      ∀ results, run.2.answer ≠ .ok results := by
  intro thrown changes h run
  refine ⟨by decide +kernel, by decide +kernel, fun results hok => ?_⟩
  cases hok

end Telemetry.Shutdown
