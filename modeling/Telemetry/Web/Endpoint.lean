import Telemetry.Json.Writer
import Telemetry.Monitor.Exposition
import Telemetry.Monitor.Health
import Telemetry.Text.Case
import Telemetry.Web.Header

/-! # The endpoints of a monitor

The health endpoint and the exposition answer to `GET` and `HEAD` on their own paths; where both
have one path, the health endpoint answers. The exposition may ask for a token; a request without
it is told that there is nothing.
-/
namespace Telemetry.Web

def tokenHeader : String := "x-tvendor-metrics-token"

/-- Without a health path nothing reaches the health endpoint. -/
structure EndpointSettings where
  healthPath : Option String
  allowUnauthenticated : Bool
  authToken : String

inductive Endpoint where
  | health | exposition
  deriving DecidableEq

/-- A short response of an endpoint. -/
structure Reply where
  status : Int
  contentType : String
  body : String

namespace Endpoint

def isRead (method : String) : Bool := method == "GET" || method == "HEAD"

def path? (s : EndpointSettings) (m : Monitor) : Endpoint → Option String
  | .health => s.healthPath
  | .exposition => some m.settings.prometheusPath

/-- The token of an authorization header with the bearer scheme. -/
def bearerToken? (header : String) : Option String :=
  let cs := Text.trimChars header.toList
  if cs.take 7 |>.map Char.toLower |> (· == "bearer ".toList) then
    some (String.ofList (Text.trimChars (cs.drop 7)))
  else none

/-- Whether the headers carry the token, in the header for it or as a bearer. -/
def isAuthorized (s : EndpointSettings) (headers : Headers) : Bool :=
  let token := Text.trim s.authToken
  let offered := Text.trim ((headers.first? tokenHeader).getD "")
  !token.isEmpty &&
    (offered == token || bearerToken? ((headers.first? "authorization").getD "") == some token)

/-- `HEAD` asks for no body. -/
def bodyFor (method body : String) : String := if method == "HEAD" then "" else body

def notFound (method : String) : Reply :=
  { status := 404
    contentType := "text/plain; charset=utf-8"
    body := bodyFor method "Not found." }

/-- The answer of an endpoint; reading the wall clock may fail. -/
def answer (s : EndpointSettings) (m : Monitor) (wallClock : Metric.Reading) (method : String)
    (headers : Headers) : Endpoint → Except Failure Reply
  | .health => (m.health wallClock).map fun h =>
    { status := 200
      contentType := "application/json; charset=utf-8"
      body := bodyFor method (Json.write h.payload) }
  | .exposition =>
    if s.allowUnauthenticated || isAuthorized s headers then
      (m.render wallClock).map fun text =>
        { status := 200, contentType := Metric.contentType, body := bodyFor method text }
    else .ok (notFound method)

end Endpoint

open Endpoint (isRead)

/-- The path under which a request counts if an endpoint owns it. -/
def ownedPath? (s : EndpointSettings) (m : Monitor) (method path : String) : Option String :=
  if !isRead method then none
  else if some path = s.healthPath then some path
  else if m.settings.prometheusEnabled && path == m.settings.prometheusPath then
    some m.settings.prometheusPath
  else none

/-- The endpoints in the order in which they are asked. -/
def endpoints (m : Monitor) : List Endpoint :=
  .health :: if m.settings.prometheusEnabled then [.exposition] else []

/-- Asks the endpoints one after another. An endpoint takes a read of its own path, and the first
one that takes the request answers it. -/
def handle (s : EndpointSettings) (m : Monitor) (wallClock : Metric.Reading)
    (method path : String) (headers : Headers) : Except Failure (Option (Endpoint × Reply)) :=
  ask (endpoints m)
where
  ask : List Endpoint → Except Failure (Option (Endpoint × Reply))
    | [] => .ok none
    | endpoint :: rest =>
      if some path = endpoint.path? s m ∧ isRead method then
        (endpoint.answer s m wallClock method headers).map fun reply => some (endpoint, reply)
      else ask rest

end Telemetry.Web
