import Telemetry.Failure
import Telemetry.Number.Numeral
import Telemetry.Number.Whole
import Telemetry.Text.Blank
import Telemetry.Text.Percent
import Telemetry.Text.Split
import Telemetry.Web.Header

/-! # Exchanges

An exchange is a response in the making. The first write or the end sends its head, which settles
the headers and whether there is a body; the status can be changed at any time. An exchange that
has ended takes no more text: what is said to it then is an error that nobody listens to, unless its
connection is closed by that time. Where a response ends is told by the server, or by a handler that
sets the headers for it, and then a client believes the handler.
-/
namespace Telemetry.Web

/-- What is settled once the head is sent: the status line, and whether there is a body. -/
structure Head where
  status : Int
  hasBody : Bool
  deriving DecidableEq

/-- The status is what a handler gave, read as a number when the head is sent. `headOnly` is the
wish of the client to have no body, and `faults` are the errors that nobody listened to. -/
structure Exchange where
  headOnly : Bool := false
  status : Datum := .ofNat 200
  headers : List (String × Datum) := []
  head : Option Head := none
  body : String := ""
  ended : Bool := false
  closed : Bool := false
  faults : List Failure := []

/-- A complete response as it is sent, with the last status that it was given. `framing` are the
headers by which a handler says itself where the body ends. -/
structure Response where
  status : Datum
  headers : List (String × Datum)
  body : String
  framing : List (String × Datum) := []

/-- What a client takes for a body: all that was announced, or what there is of it while the client
waits for the rest. A body in a frame of the handler's own making is left to the client. -/
inductive Receipt where
  | complete (octets : List Nat)
  | waiting (octets : List Nat)
  | framed
  deriving DecidableEq

namespace Response

def octets (r : Response) : List Nat := r.body.toList.flatMap Text.octets

/-- The number of octets that a header announces. -/
def announced? (value : Datum) : Option Nat :=
  let digits := Text.trimChars value.plain.toList
  if digits.isEmpty || !digits.all Char.isDigit then none
  else some (digits.foldl (fun n c => 10 * n + (c.toNat - 48)) 0)

def isChunked (coding : Datum) : Bool :=
  (Text.trimChars coding.plain.toList).map Char.toLower == "chunked".toList

/-- What a client that stays takes for the body. -/
def received (r : Response) : Receipt :=
  match r.framing.lookup "transfer-encoding", r.framing.lookup "content-length" with
  | none, none => .complete r.octets
  | none, some length =>
    match announced? length with
    | none => .framed
    | some n =>
      if n ≤ r.octets.length then .complete (r.octets.take n) else .waiting r.octets
  | some coding, none => if isChunked coding then .complete r.octets else .framed
  | some _, some _ => .framed

end Response

namespace Exchange

def headSent (e : Exchange) : Bool := e.head.isSome

def setStatus (e : Exchange) (status : Datum) : Exchange := { e with status := status }

def isTokenChar (c : Char) : Bool := c.isAlphanum || "^_`-!#$%&\x27*+.|~".toList.contains c

def isHeaderValueChar (c : Char) : Bool :=
  c == '\t' || (0x20 ≤ c.toNat && c.toNat ≤ 0x7E) || (0x80 ≤ c.toNat && c.toNat ≤ 0xFF)

/-- A value as it is shown in a message. -/
def shown : Datum → String
  | .number x => if x.isZero && x.isNegative then "-0" else x.toText
  | d => d.plain

def typeFault (message : String) : Failure := .error "TypeError" message

def isHeaderName : Datum → Bool
  | .text name => !name.isEmpty && name.toList.all isTokenChar
  | _ => false

/-- Replaces a header, or adds it at the end. -/
def putHeader (headers : List (String × Datum)) (name : String) (value : Datum) :
    List (String × Datum) :=
  if headers.any (·.1 == name) then
    headers.map fun h => if h.1 == name then (name, value) else h
  else headers ++ [(name, value)]

/-- Sets a header by a name in any case. Nothing can be set once the head is sent. A value is
kept as it is given, and its plain text has to be fit for a header. -/
def setHeader (e : Exchange) (name value : Datum) : Except Failure Exchange :=
  if e.headSent then
    .error (.plain "Cannot set headers after they are sent to the client")
  else if !isHeaderName name then
    .error (typeFault ("Header name must be a valid HTTP token [\"" ++ shown name ++ "\"]"))
  else if value.isAbsent then
    .error (typeFault ("Invalid value \"undefined\" for header \"" ++ name.plain ++ "\""))
  else if !value.plain.toList.all isHeaderValueChar then
    .error (typeFault ("Invalid character in header content [\"" ++ name.plain ++ "\"]"))
  else
    let key := String.ofList (name.plain.toList.map Char.toLower)
    .ok { e with headers := putHeader e.headers key value }

/-- The whole number of 32 bits that a status stands for. -/
def statusCode : Datum → Int
  | .number x => x.toInt32
  | .text s => (Number.ofText s).toInt32
  | .flag b => if b then 1 else 0
  | _ => 0

def invalidStatus (status : Datum) : Failure :=
  .error "RangeError" ("Invalid status code: " ++ shown status)

/-- Whether responses with a status have a body. -/
def statusHasBody (code : Int) : Bool := code != 204 && code != 304 && decide (200 ≤ code)

/-- Headers that say where a body ends and what follows it. -/
def boundaryHeaders : List String := ["content-length", "transfer-encoding", "trailer"]

/-- What was set of the headers by which a handler frames the body itself. -/
def framing (e : Exchange) : List (String × Datum) :=
  e.headers.filter fun h => boundaryHeaders.contains h.1

/-- Whether one of the words of a coding is the chunked one. -/
def namesChunked (coding : Datum) : Bool :=
  (Text.splitWhere (fun c => !(c.isAlphanum || c == '_'))
    (coding.plain.toList.map Char.toLower)).contains "chunked".toList

/-- Trailers need a body in chunks, which a handler may ask for and which is the server's choice
where no length is given. -/
def trailersFit (e : Exchange) (head : Head) : Bool :=
  (e.framing.lookup "trailer").isNone ||
    match e.framing.lookup "transfer-encoding" with
    | some coding => namesChunked coding && head.status != 204 && head.status != 304
    | none => head.hasBody && (e.framing.lookup "content-length").isNone

def invalidTrailer : Failure := .plain "Trailers are invalid with this transfer encoding"

/-- Sends the head unless that is done. The status has three digits. -/
def sendHead (e : Exchange) : Except Failure Exchange :=
  if e.headSent then .ok e
  else
    let code := statusCode e.status
    let head : Head := { status := code, hasBody := !e.headOnly && statusHasBody code }
    if code < 100 ∨ 999 < code then .error (invalidStatus e.status)
    else if !e.trailersFit head then .error invalidTrailer
    else .ok { e with status := .number (Number.ofInt code), head := some head }

/-- What a value is, for a message. -/
def described : Datum → String
  | .flag b => "type boolean (" ++ shown (.flag b) ++ ")"
  | .number x => "type number (" ++ shown (.number x) ++ ")"
  | .list _ => "an instance of Array"
  | .record _ => "an instance of Object"
  | d => d.plain

/-- Only a text can be written. -/
def unwritable : Datum → Failure
  | .null => typeFault "May not write null values to stream"
  | d => typeFault ("The \"chunk\" argument must be of type string or an instance of Buffer " ++
      "or Uint8Array. Received " ++ described d)

def writeAfterEnd : Failure := .plain "write after end"

/-- An error to which nobody listens. A closed connection has none. -/
def complain (e : Exchange) (fault : Failure) : Exchange :=
  if e.closed then e else { e with faults := e.faults ++ [fault] }

def writeText (e : Exchange) (text : String) : Except Failure Exchange :=
  if e.ended then .ok (e.complain writeAfterEnd)
  else e.sendHead.map fun e => { e with body := e.body ++ text }

def write (e : Exchange) : Datum → Except Failure Exchange
  | .text text => e.writeText text
  | chunk => .error (unwritable chunk)

/-- Ends an exchange, with a last text if there is one. To end once more is nothing without a
text. -/
def finish (e : Exchange) (text : Option String) : Except Failure Exchange :=
  if e.ended then .ok (if text.getD "" = "" then e else e.complain writeAfterEnd)
  else e.sendHead.map fun e => { e with body := e.body ++ text.getD "", ended := true }

/-- Ends an exchange with a value. A value that counts as false is none. -/
def finishWith (e : Exchange) : Datum → Except Failure Exchange
  | .text text => e.finish (some text)
  | chunk =>
    if !chunk.isTrue then e.finish none
    else if e.ended then .ok (e.complain writeAfterEnd)
    else .error (unwritable chunk)

def errorBody : String := "\x7b\"error\":\"Internal server error\"\x7d"

/-- Ends with the text of an error. Nobody is left to take a failure of this. -/
def finishWithError (e : Exchange) : Exchange :=
  match e.finish (some errorBody) with
  | .ok e => e
  | .error failure => e.complain failure

/-- Ends an exchange after a failure. Before the head is sent the response becomes an error of
its own; afterwards the error follows what was written. -/
def abort (e : Exchange) : Exchange :=
  if e.ended then e
  else if e.headSent then e.finishWithError
  else
    finishWithError
      { e with
        status := .ofNat 500
        headers := putHeader e.headers "content-type" (.text "application/json") }

def close (e : Exchange) : Exchange := { e with closed := true }

/-- Headers that belong to the connection and not to the response. -/
def framingHeaders : List String := ["content-length", "connection", "date"]

/-- The response of an exchange that has ended. A client that has gone gets no body. -/
def response? (e : Exchange) (gone : Bool) : Option Response :=
  match e.head with
  | none => none
  | some head =>
    if e.ended then
      some
        { status := e.status
          headers := e.headers.filter fun h => !framingHeaders.contains h.1
          body := if head.hasBody && !gone then e.body else ""
          framing := if head.hasBody then e.framing else [] }
    else none

end Exchange

end Telemetry.Web
