import Telemetry.Json.Reader
import Telemetry.Json.Writer
import Telemetry.Settings.Basic
import Telemetry.Web.Inline

/-! # Probing the health endpoint

A probe fetches the health of a service, prints the payload and ends with code zero exactly if
the status is 200 and the payload says `ok`.
-/
namespace Telemetry.Probe

inductive ArgumentError where
  | missingUrl
  | unknownOption (token : String)
  deriving DecidableEq

def ArgumentError.message : ArgumentError → String
  | missingUrl => "Missing value for --url"
  | unknownOption token => "Unknown option: " ++ token

structure Arguments where
  url : Option String := none
  pretty : Bool := false
  help : Bool := false
  errors : List ArgumentError := []

namespace Arguments

def addError (a : Arguments) (e : ArgumentError) : Arguments := { a with errors := a.errors ++ [e] }

/-- Takes an address, which must not be empty. -/
def setUrl (a : Arguments) (url : String) : Arguments :=
  if url.isEmpty then a.addError .missingUrl else { a with url := some url }

/-- The address in an argument that holds both the option and its value. -/
def joinedUrl? (token : String) : Option String :=
  let mark := "--url=".toList
  if mark.isPrefixOf token.toList then some (String.ofList (token.toList.drop mark.length))
  else none

/-- Takes an argument that stands for itself. -/
def takeWord (a : Arguments) (token : String) : Arguments :=
  if token.isEmpty then a
  else if token = "--pretty" ∨ token = "-p" then { a with pretty := true }
  else if token = "--help" ∨ token = "-h" then { a with help := true }
  else match joinedUrl? token with
    | some url => a.setUrl url
    | none => a.addError (.unknownOption token)

/-- Reads arguments from left to right. -/
def read (a : Arguments) : List String → Arguments
  | [] => a
  | "--url" :: [] => a.setUrl ""
  | "--url" :: url :: rest => (a.setUrl url).read rest
  | token :: rest => (a.takeWord token).read rest

def parse (argv : List String) : Arguments := Arguments.read {} argv

end Arguments

def usage : List String := [
  "vendorcat healthcheck helper",
  "",
  "Usage:",
  "  tsx scripts/healthcheck.ts [--url <url>] [--pretty]",
  "",
  "Options:",
  "  --url <url>    Probe this URL instead of the configured health endpoint",
  "  --pretty       Pretty-print JSON output with indentation",
  "  -h, --help     Show this help message",
  "",
  "Exit codes: 0 healthy, 1 degraded or unreachable"]

def usageText : String := String.join (usage.map (· ++ "\n"))

/-- The host under which a listener is reached from the same machine. -/
def reachableHost (host : String) : String :=
  if host = "0.0.0.0" ∨ host = "::" then "127.0.0.1" else host

def urlText (host port healthPath : String) : String :=
  "http://" ++ reachableHost host ++ ":" ++ port ++ healthPath

/-- The address of the health endpoint of a server. -/
def healthUrl (s : Settings.Server) : String := urlText s.host s.port.toText s.healthPath

/-- What a fetch brings. -/
structure Fetched where
  status : Number
  payload : Datum

/-- The end of a probe, with the address it fetched. -/
structure Outcome where
  code : Nat
  stdout : String := ""
  stderr : String := ""
  fetched : Option String := none

/-- What a fetch brings where no server can be reached. An address with content answers by itself.
Otherwise the fetch fails: the address is none, or it must not be used, or else nobody answers. -/
def fetchAlone (address : String) : Except Failure Fetched :=
  if !Web.Url.isAbsolute address.toList then
    .error (.plain ("Failed to parse URL from " ++ address))
  else if Web.Url.hasCredentials address.toList then
    .error (.plain
      ("Request cannot be constructed from a URL that includes credentials: " ++ address))
  else match Web.Inline.ofAddress? address.toList with
    | none => .error (.plain "fetch failed")
    | some content =>
      match Json.read? (String.ofList content) with
      | some payload => .ok { status := 200, payload := payload }
      | none => .error (.error "SyntaxError" "Unexpected end of JSON input")

/-- Whether an answer says that all is well. -/
def Fetched.isHealthy (f : Fetched) : Bool :=
  f.status.eq 200 && (f.payload.get "status").text? == some "ok"

/-- The outcome of fetching an address. -/
def report (pretty : Bool) (url : String) : Except Failure Fetched → Outcome
  | .error failure =>
    { code := 1
      stderr := "Health endpoint unreachable (" ++ url ++ "): " ++ failure.message ++ "\n"
      fetched := some url }
  | .ok answer =>
    { code := if answer.isHealthy then 0 else 1
      stdout := (if pretty then Json.writePretty answer.payload else Json.write answer.payload) ++
        "\n"
      fetched := some url }

/-- Probes the address from the arguments, or else the usual one. -/
def run (argv : List String) (usual : String) (fetch : String → Except Failure Fetched) :
    Outcome :=
  let a := Arguments.parse argv
  if !a.errors.isEmpty then
    { code := 1, stdout := usageText
      stderr := String.join (a.errors.map fun e => e.message ++ "\n") }
  else if a.help then { code := 0, stdout := usageText }
  else
    let url := a.url.getD usual
    report a.pretty url (fetch url)

end Telemetry.Probe
