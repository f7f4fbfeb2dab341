import Telemetry.Proofs.Request.Profile
import Telemetry.Request.Scope

/-! # Profiles of scopes

A scope counts the calls that are made directly in it: those of a scope inside it go to the profile
of that scope, and those outside every scope to none. Scopes that wait may run between each other's
steps; each still ends up as if it had run alone.
-/
namespace Telemetry.Request

/-- The call that a step makes in its own scope. -/
def Work.calls : Work → List Call
  | .call c => [c]
  | _ => []

def direct (steps : List Work) : List Call := steps.flatMap Work.calls

/-- A scope with its context, which is missing outside every scope, and its steps. -/
structure Scope where
  context : Option Profile
  steps : List Work

mutual

def Work.scopes : Work → List Scope
  | .call _ => []
  | .look => []
  | .pause => []
  | .within profile steps => ⟨some profile, steps⟩ :: scopesIn steps

/-- The scopes inside some steps, at every depth. -/
def scopesIn : List Work → List Scope
  | [] => []
  | step :: rest => step.scopes ++ scopesIn rest

end

/-- The contexts that are active inside a step. -/
def Work.inner : Work → List (Option Profile)
  | .within profile steps => (runAll (some profile) steps).2
  | _ => []

/-- What has become of a context after some calls: a profile from its beginning tallies them. -/
def Counted (context : Option Profile) (cs : List Call) (active : Option Profile) : Prop :=
  (context = none → active = none) ∧
    ∀ p, context = some p → p.opening = p → ∃ q, active = some q ∧ q.opening = p ∧ Tallies cs q

section Steps

theorem run_fst (step : Work) (active : Option Profile) :
    (step.run active).1 = active.map fun p => step.calls.foldl Profile.add p := by
  cases step with
  | call c => rfl
  | look | pause | within profile steps => simp [Work.run, Work.calls]

theorem runAll_fst (active : Option Profile) (steps : List Work) :
    (runAll active steps).1 = active.map fun p => (direct steps).foldl Profile.add p := by
  induction steps generalizing active with
  | nil => simp [runAll, direct]
  | cons step rest ih =>
    rw [runAll, ih, run_fst, Option.map_map]
    simp [direct, Function.comp_def]

theorem runAll_append (active : Option Profile) (before after : List Work) :
    runAll active (before ++ after) =
      ((runAll (runAll active before).1 after).1,
        (runAll active before).2 ++ (runAll (runAll active before).1 after).2) := by
  induction before generalizing active with
  | nil => rfl
  | cons step rest ih => simp [runAll, ih]

theorem counted_map (context : Option Profile) (cs : List Call) :
    Counted context cs (context.map fun p => cs.foldl Profile.add p) := by
  constructor
  · rintro rfl
    rfl
  · rintro p rfl hopening
    exact ⟨_, rfl, (Profile.opening_foldl_add p cs).trans hopening, (tallies_foldl hopening cs).1⟩

theorem counted_runAll (context : Option Profile) (steps : List Work) :
    Counted context (direct steps) (runAll context steps).1 := by
  rw [runAll_fst]
  exact counted_map context (direct steps)

theorem run_snd (step : Work) (active : Option Profile) :
    (step.run active).2 = step.inner ++ [(step.run active).1] := by
  cases step <;> rfl

/-- During a step only what is inside it sees another context; after it the context of the scope is
active. -/
theorem runAll_snd (active : Option Profile) (before after : List Work) (step : Work) :
    (runAll active (before ++ step :: after)).2 =
      (runAll active before).2 ++ step.inner ++
        (runAll active (before ++ [step])).1 ::
          (runAll (runAll active (before ++ [step])).1 after).2 := by
  simp [runAll_append, runAll, run_snd]

end Steps

/-- A scope that has made some of its steps, with what its context has become. -/
structure Task where
  context : Option Profile
  done : List Work
  left : List Work
  active : Option Profile

def Scope.task (s : Scope) : Task :=
  { context := s.context, done := [], left := s.steps, active := s.context }

def Task.scope (t : Task) : Scope := ⟨t.context, t.done ++ t.left⟩

/-- The scope that a step opens. -/
def Work.opened : Work → List Scope
  | .within profile steps => [⟨some profile, steps⟩]
  | _ => []

/-- A task after its next step, with what the step opens. -/
def Task.turn (t : Task) : List Task :=
  match t.left with
  | [] => [t]
  | step :: rest =>
    { t with done := t.done ++ [step], left := rest, active := (step.run t.active).1 } ::
      step.opened.map Scope.task

/-- Gives the turn to one of the tasks. -/
def takeTurn : List Task → Nat → List Task
  | [], _ => []
  | t :: rest, 0 => t.turn ++ rest
  | t :: rest, i + 1 => t :: takeTurn rest i

/-- The tasks of a tree after some turns, of which none waits for another. -/
def interleave (steps : List Work) (schedule : List Nat) : List Task :=
  schedule.foldl takeTurn [Scope.task ⟨none, steps⟩]

section Turns

variable {t : Task} {pool : List Task}

/-- The scopes of a task that are under way or still to come. -/
def Task.scopes (t : Task) : List Scope := t.scope :: scopesIn t.left

theorem Task.scopes_turn (t : Task) : (t.turn.flatMap Task.scopes).Perm t.scopes := by
  unfold Task.turn
  cases hleft : t.left with
  | nil => simp
  | cons step rest =>
    have hopened : (step.opened.map Scope.task).flatMap Task.scopes = step.scopes := by
      cases step with
      | call c | look | pause => rfl
      | within profile inner =>
        simp [Work.opened, Work.scopes, Task.scopes, Scope.task, Task.scope]
    simp [hopened, Task.scopes, Task.scope, hleft, scopesIn, List.perm_append_comm]

theorem scopes_takeTurn (pool : List Task) (i : Nat) :
    ((takeTurn pool i).flatMap Task.scopes).Perm (pool.flatMap Task.scopes) := by
  induction pool generalizing i with
  | nil => exact List.Perm.refl _
  | cons t rest ih =>
    cases i with
    | zero => simpa [takeTurn] using t.scopes_turn.append_right _
    | succ i => simpa [takeTurn] using (ih i).append_left t.scopes

/-- No turn loses a scope or opens one twice. -/
theorem scopes_interleave (steps : List Work) (schedule : List Nat) :
    ((interleave steps schedule).flatMap Task.scopes).Perm (⟨none, steps⟩ :: scopesIn steps) := by
  induction schedule using List.reverseRecOn with
  | nil => simp [interleave, Task.scopes, Scope.task, Task.scope]
  | append_singleton before i ih =>
    have hturn := scopes_takeTurn (interleave steps before) i
    rw [interleave, List.foldl_concat]
    exact hturn.trans ih

theorem mem_takeTurn {i : Nat} (h : t ∈ takeTurn pool i) : t ∈ pool ∨ ∃ s ∈ pool, t ∈ s.turn := by
  induction pool generalizing i with
  | nil => cases h
  | cons s rest ih =>
    cases i with
    | zero =>
      rcases List.mem_append.mp h with h | h
      · exact .inr ⟨s, by simp, h⟩
      · exact .inl (List.mem_cons_of_mem s h)
    | succ i =>
      rcases List.mem_cons.mp h with rfl | h
      · exact .inl List.mem_cons_self
      · rcases ih h with h | ⟨r, hr, h⟩
        · exact .inl (List.mem_cons_of_mem s h)
        · exact .inr ⟨r, List.mem_cons_of_mem s hr, h⟩

/-- A task has become what its steps so far make of its context when they run alone. -/
def Task.Alone (t : Task) : Prop := t.active = (runAll t.context t.done).1

theorem alone_task (s : Scope) : s.task.Alone := rfl

theorem Task.Alone.turn (h : t.Alone) {s : Task} (hs : s ∈ t.turn) : s.Alone := by
  unfold Task.turn at hs
  cases hleft : t.left with
  | nil =>
    rw [hleft] at hs
    exact List.mem_singleton.mp hs ▸ h
  | cons step rest =>
    rw [hleft] at hs
    rcases List.mem_cons.mp hs with rfl | hs
    · have hactive : t.active = (runAll t.context t.done).1 := h
      simp only [Task.Alone, hactive, runAll_append]
      simp [runAll]
    · obtain ⟨scope, -, rfl⟩ := List.mem_map.mp hs
      exact alone_task scope

theorem alone_of_mem_interleave (steps : List Work) (schedule : List Nat) :
    ∀ t ∈ interleave steps schedule, t.Alone := by
  induction schedule using List.reverseRecOn with
  | nil =>
    intro t ht
    exact List.mem_singleton.mp ht ▸ alone_task _
  | append_singleton before i ih =>
    intro t ht
    rw [interleave, List.foldl_concat] at ht
    rcases mem_takeTurn ht with ht | ⟨s, hs, ht⟩
    · exact ih t ht
    · exact (ih s hs).turn ht

theorem scopes_of_finished (h : ∀ t ∈ pool, t.left = []) :
    pool.flatMap Task.scopes = pool.map Task.scope := by
  induction pool with
  | nil => rfl
  | cons t rest ih =>
    have ht : t.left = [] := h t List.mem_cons_self
    have hrest : ∀ s ∈ rest, s.left = [] := fun s hs => h s (List.mem_cons_of_mem t hs)
    simp [ih hrest, Task.scopes, ht, scopesIn]

end Turns

/-- In every scope of a tree each step leaves the context of that scope active, which tallies the
calls made directly in the scope so far. The same holds of every task at every moment when scopes
take turns in any order, and once no steps are left exactly the scopes of the tree have run. -/
theorem profiles_of_scopes (steps : List Work) (schedule : List Nat) :
    let pool := interleave steps schedule
    (∀ s ∈ ⟨none, steps⟩ :: scopesIn steps, Counted s.context (direct s.steps)
      (runAll s.context s.steps).1) ∧
      (∀ s ∈ ⟨none, steps⟩ :: scopesIn steps, ∀ before step after,
        s.steps = before ++ step :: after →
          let now := (runAll s.context (before ++ [step])).1
          Counted s.context (direct (before ++ [step])) now ∧
            (runAll s.context s.steps).2 =
              (runAll s.context before).2 ++ step.inner ++ now :: (runAll now after).2) ∧
      (∀ t ∈ pool, Counted t.context (direct t.done) t.active ∧
        t.active = (runAll t.context t.done).1) ∧
      ((∀ t ∈ pool, t.left = []) →
        (pool.map Task.scope).Perm (⟨none, steps⟩ :: scopesIn steps)) ∧
      (∀ c : Call, c.time =
        if c.elapsedMs.isFinite && Number.lt 0 c.elapsedMs then c.elapsedMs else 0) := by
  intro pool
  refine ⟨?_, ?_, ?_, ?_, Call.time_eq⟩
  · intro s _
    exact counted_runAll s.context s.steps
  · intro s _ before step after hsteps now
    refine ⟨counted_runAll s.context (before ++ [step]), ?_⟩
    rw [hsteps]
    exact runAll_snd s.context before after step
  · intro t ht
    have halone : t.active = (runAll t.context t.done).1 :=
      alone_of_mem_interleave steps schedule t ht
    refine ⟨?_, halone⟩
    rw [halone]
    exact counted_runAll t.context t.done
  · intro hfinished
    rw [← scopes_of_finished hfinished]
    exact scopes_interleave steps schedule

/-- A request whose calls surround those of another one that it starts, after a call outside. -/
def nested : List Work :=
  let outer : Profile := { requestId := "a", method := "GET", path := "/a", slowQueryMs := 100 }
  let inner : Profile := { requestId := "b", method := "GET", path := "/b", slowQueryMs := 0 }
  [.call { operation := "lost", elapsedMs := 1 },
    .within outer [.call { operation := "first", elapsedMs := 120, cached := true },
      .within inner [.pause, .call { operation := "own", elapsedMs := .nan }], .pause,
      .call { operation := "last", elapsedMs := 30, error := true }]]

theorem profiles_of_scopes_nested :
    let pool := interleave nested [0, 0, 1, 1, 2, 1, 2, 1]
    (∀ t ∈ pool, t.left = []) ∧
      pool.map (fun t =>
          t.active.map fun p => (p.calls, p.cacheHits, p.errors, p.totalMs, p.maxMs)) =
        [none, some (2, 1, 1, 150, 120), some (1, 0, 0, 0, 0)] ∧
      pool.map (fun t =>
          t.active.map fun p => p.slow.map fun c => (c.operation, c.elapsedMs, c.cached)) =
        [none, some [("first", 120, true)], some [("own", 0, false)]] ∧
      (pool.map Task.scope).Perm (⟨none, nested⟩ :: scopesIn nested) ∧
      (∀ t ∈ pool, Counted t.context (direct t.done) t.active) := by
  intro pool
  obtain ⟨-, -, hcounted, hscopes, -⟩ := profiles_of_scopes nested [0, 0, 1, 1, 2, 1, 2, 1]
  have hfinished : ∀ t ∈ pool, t.left = [] := by
    have hleft : pool.all (fun t => t.left.isEmpty) = true := by decide +kernel
    simpa using hleft
  refine ⟨hfinished, by decide +kernel, by decide +kernel, hscopes hfinished, ?_⟩
  intro t ht
  exact (hcounted t ht).1

end Telemetry.Request
