import Telemetry.Request.Profile

/-! # Scopes of profiles

Calls go to the profile of the innermost scope around them and are lost outside any scope. When
a scope ends, the one around it is active again as it was left.
-/
namespace Telemetry.Request

inductive Work where
  | call (c : Call)
  | look
  | pause
  | within (profile : Profile) (steps : List Work)
  deriving Inhabited

mutual

/-- The active profile after a piece of work, and the active profile after each step in it. -/
def Work.run (active : Option Profile) : Work → Option Profile × List (Option Profile)
  | .call c =>
    let active := active.map (·.add c)
    (active, [active])
  | .look => (active, [active])
  | .pause => (active, [active])
  | .within profile steps => (active, (runAll (some profile) steps).2 ++ [active])

def runAll (active : Option Profile) : List Work → Option Profile × List (Option Profile)
  | [] => (active, [])
  | step :: rest =>
    let first := step.run active
    let others := runAll first.1 rest
    (others.1, first.2 ++ others.2)

end

end Telemetry.Request
