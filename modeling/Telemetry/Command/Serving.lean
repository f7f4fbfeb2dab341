import Telemetry.Command.Run
import Telemetry.Service

/-! # Commands over a service

The surroundings in which the command line starts a service of its own, beside the hooks that
were registered before.
-/
namespace Telemetry.Command

open Shutdown (Registry)

/-- Starts a service over the given state. The setup may depend on the settings it starts with. -/
def startService {σ : Type} (setup : Settings.Runtime → Service.Setup) (hooks : Registry σ)
    (state : σ) (settings : Settings.Runtime) (journal : Log.Journal) :
    Log.Journal × Except Failure (Running (σ × Service)) :=
  let started := Service.start settings (setup settings) hooks journal
  (started.1, started.2.map fun (service, hooks) =>
    { port := service.port, hooks := hooks, state := (state, service) })

/-- Surroundings with a service. -/
def Surroundings.ofService {σ : Type} (settings : Settings.Runtime)
    (setup : Settings.Runtime → Service.Setup) (hooks : Registry σ) (state : σ)
    (signal : String) : Surroundings (σ × Service) :=
  { settings := settings, start := startService setup hooks state, signal := signal }

end Telemetry.Command
