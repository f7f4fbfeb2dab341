import Telemetry.Proofs.Request.Identity
import Telemetry.Proofs.Web.Abort

/-! # One identity for each request

The identity that a request gets on its arrival is in its profile as long as it is served, in the
header of its response, and in the lines of the log about it. Only a handler can change the header,
and no action changes the profile's identity.
-/
namespace Telemetry.Web

namespace Exchange

variable {e next : Exchange} {name : String}

/-- The headers of a name. -/
def headersOf (name : String) (headers : List (String × Datum)) : List (String × Datum) :=
  headers.filter fun h => h.1 == name

theorem headersOf_putHeader {other : String} (h : other ≠ name) (headers : List (String × Datum))
    (value : Datum) : headersOf name (putHeader headers other value) = headersOf name headers :=
  filter_putHeader (p := fun key => key == name) (beq_eq_false_iff_ne.mpr h) headers value

theorem headersOf_abort (hname : "content-type" ≠ name) (e : Exchange) :
    headersOf name e.abort.headers = headersOf name e.headers := by
  obtain hsame | ⟨value, hput⟩ := e.headers_abort
  · rw [hsame]
  · rw [hput, headersOf_putHeader hname]

theorem headersOf_response? {response : Response} {gone : Bool}
    (h : e.response? gone = some response) (hname : name ∉ framingHeaders) :
    headersOf name response.headers = headersOf name e.headers := by
  unfold response? at h
  split at h
  · cases h
  · split at h
    · cases h
      unfold headersOf
      rw [List.filter_filter]
      refine List.filter_congr fun header _ => ?_
      by_cases hkey : header.1 = name
      · simp [hkey, hname]
      · simp [hkey]
    · cases h

/-- A safe identity can be set as a header. -/
theorem setHeader_identity {id : String} (hopen : e.head = none) (hid : Request.IsSafe id) :
    e.setHeader (.text "X-Request-ID") (.text id) =
      .ok { e with headers := putHeader e.headers "x-request-id" (.text id) } := by
  have hsent : e.headSent = false := by simp [headSent, hopen]
  have hheader : isHeaderName (.text "X-Request-ID") = true := by decide +kernel
  have hkey : headerKey (.text "X-Request-ID") = "x-request-id" := by decide +kernel
  have hgiven : (Datum.text id).isAbsent = false := rfl
  have hvalue : (Datum.text id).plain.toList.all isHeaderValueChar = true := by
    refine List.all_eq_true.mpr fun c hc => ?_
    obtain ⟨hlow, hhigh⟩ := Request.visible_of_isSafeChar (hid.chars c hc)
    have hbetween : 0x20 ≤ c.toNat ∧ c.toNat ≤ 0x7E := by omega
    simp [isHeaderValueChar, hbetween]
  rw [setHeader, if_neg (by simp [hsent]), if_neg (by simp [hheader]), if_neg (by simp [hgiven]),
    if_neg (by simp [hvalue]), ← hkey]
  rfl

end Exchange

namespace Visit

open Exchange (headersOf)

variable {id name : String} {own : List (String × Datum)} {params : Parameters} {v next : Visit}
variable {action : Action} {actions : List Action}

/-- What holds of a request all along: its profile names the identity, also the one that is kept
for the record, the header is the one of the beginning, and its own lines are the server's. -/
structure Carries (id name : String) (own : List (String × Datum)) (v : Visit) : Prop where
  profile : v.profile.requestId = id
  header : headersOf name v.exchange.headers = own
  logs : ∀ l ∈ v.logs, l.source = .http
  past : ∀ e, v.ending = some e → e.profile.requestId = id ∧ ∀ l ∈ e.logs, l.source = .http

theorem Carries.linger (hv : v.Carries id name own) : v.linger.Carries id name own := by
  obtain hopen | ⟨e, hover⟩ := Option.eq_none_or_eq_some v.ending
  · rw [linger_of_open hopen]
    refine ⟨hv.profile, hv.header, nofun, fun e he => ?_⟩
    cases he
    exact ⟨hv.profile, hv.logs⟩
  · rw [linger_of_over hover]
    exact hv

theorem foldl_add_requestId (cs : List Request.Call) (p : Request.Profile) :
    (cs.foldl Request.Profile.add p).requestId = p.requestId := by
  have hsame := congrArg Request.Profile.requestId (Request.Profile.opening_foldl_add p cs)
  exact hsame

theorem act_headers (h : v.act params action = .ok next) (hsets : action.header? ≠ some name) :
    headersOf name next.exchange.headers = headersOf name v.exchange.headers := by
  cases act_moves h with
  | said hsends hsaid htext => rw [hsaid.frame.1]
  | still hsends hexchange => rw [hexchange]
  | status haction hexchange => rw [hexchange, Exchange.setStatus]
  | header haction hexchange =>
    rw [hexchange]
    rw [haction] at hsets
    exact Exchange.headersOf_putHeader (fun hkey => hsets (congrArg some hkey)) _ _
  | closed haction hexchange => rw [hexchange, Exchange.close]

theorem Carries.act (hv : v.Carries id name own) (h : v.act params action = .ok next)
    (hsets : action.header? ≠ some name) : next.Carries id name own := by
  cases hlinger : action.isLinger with
  | false =>
    obtain ⟨hending, hlogs, hprofile⟩ := act_frame h hlinger
    refine ⟨?_, (act_headers h hsets).trans hv.header, hlogs ▸ hv.logs, hending ▸ hv.past⟩
    rw [hprofile, foldl_add_requestId, hv.profile]
  | true =>
    cases action with
    | linger =>
      cases h
      exact hv.linger
    | _ => cases hlinger

theorem Carries.abort (hv : v.Carries id name own) (hname : "content-type" ≠ name)
    (failure : Failure) : (v.abort failure).Carries id name own := by
  refine ⟨hv.profile, (Exchange.headersOf_abort hname _).trans hv.header, fun l hl => ?_, hv.past⟩
  rcases List.mem_append.mp hl with hl | hl
  · exact hv.logs l hl
  · rw [List.mem_singleton.mp hl]
    rfl

theorem Carries.reply (hv : v.Carries id name own) (hname : "content-type" ≠ name) (status : Int)
    (contentType body : String) : (v.reply status contentType body).Carries id name own := by
  unfold Visit.reply
  split
  · rename_i e hreply
    obtain ⟨middle, hset, hfinish⟩ := bind_eq_ok hreply
    have hput := Exchange.setHeader_headers hset
    refine ⟨hv.profile, ?_, hv.logs, hv.past⟩
    rw [(Exchange.says_finish hfinish).frame.1, hput]
    have hkey : Exchange.headerKey (.text "content-type") = "content-type" := by decide +kernel
    have hother := hkey ▸ hname
    exact (Exchange.headersOf_putHeader hother _ _).trans hv.header
  · exact hv.abort hname _

theorem Carries.final (hv : v.Carries id name own) :
    v.final.profile.requestId = id ∧ ∀ l ∈ v.final.logs, l.source = .http := by
  unfold Visit.final
  cases hending : v.ending with
  | none => exact ⟨hv.profile, hv.logs⟩
  | some e => exact hv.past e hending

/-- Actions that go through carry the identity along. -/
theorem Carries.foldlM (hv : v.Carries id name own)
    (hsets : ∀ action ∈ actions, action.header? ≠ some name)
    (h : actions.foldlM (Visit.act params) v = .ok next) : next.Carries id name own := by
  induction actions generalizing v with
  | nil =>
    cases h
    exact hv
  | cons action rest ih =>
    obtain ⟨middle, hact, hrest⟩ := bind_eq_ok h
    obtain ⟨hfirst, hothers⟩ := List.forall_mem_cons.mp hsets
    exact ih (hv.act hact hfirst) hothers hrest

theorem Carries.perform (hv : v.Carries id name own) (hname : "content-type" ≠ name)
    (hsets : ∀ action ∈ actions, action.header? ≠ some name) :
    (v.perform params actions).Carries id name own := by
  induction actions generalizing v with
  | nil => exact hv
  | cons action rest ih =>
    obtain ⟨hfirst, hothers⟩ := List.forall_mem_cons.mp hsets
    rw [Visit.perform]
    cases h : v.act params action with
    | ok next => exact ih (hv.act h hfirst) hothers
    | error failure => exact hv.abort hname failure

end Visit

/-- The identity that a request gets on its arrival. -/
def Incoming.identity (i : Incoming) : String :=
  Request.identity i.around.fresh (i.request.headers.first? "x-request-id")

namespace Server

open Exchange (headersOf)

variable (s : Server) (m : Monitor) (i : Incoming)
variable {id name : String} {own : List (String × Datum)}

/-- The header with the identity of a request, if there is to be one. -/
def identityHeaders : List (String × Datum) :=
  if s.requestIdHeaderEnabled then [("x-request-id", .text i.identity)] else []

theorem carries_enter : (s.enter i.around.fresh i.now i.request).Carries i.identity
    "x-request-id" (s.identityHeaders i) := by
  refine ⟨rfl, ?_, nofun, fun e he => ?_⟩
  · unfold enter identityHeaders
    dsimp only
    split
    · rfl
    · rfl
  · cases he

theorem carries_visit (hsets : ∀ action ∈ s.handler m i, action.header? ≠ some "x-request-id") :
    (s.visit m i).Carries i.identity "x-request-id" (s.identityHeaders i) := by
  have hname : "content-type" ≠ "x-request-id" := by decide
  have hv := s.carries_enter i
  unfold visit dispatch
  unfold handler at hsets
  generalize s.enter i.around.fresh i.now i.request = v at hv
  refine Visit.Carries.linger ?_
  dsimp only at hsets ⊢
  rcases accept_cases s m i.around.wallClock i.request (targetPath i.request.target) v with
    ⟨howned, ⟨failure, -, haccept⟩ | ⟨endpoint, reply, -, haccept⟩⟩ |
      ⟨howned, ⟨route, params, hroute, haccept⟩ | ⟨hroute, haccept⟩⟩
  · rw [haccept]
    exact hv.abort hname failure
  · rw [haccept]
    exact hv.reply hname _ _ _
  · rw [howned] at hsets
    dsimp only at hsets
    rw [hroute] at hsets
    rw [haccept]
    exact hv.perform hname hsets
  · rw [haccept]
    exact hv.reply hname _ _ _

/-- The profile that is recorded holds the calls that count. -/
theorem final_profile : (s.visit m i).final.profile =
    (s.calls m i).foldl Request.Profile.add (s.enter i.around.fresh i.now i.request).profile :=
  (Visit.profile_linger _).trans (s.dispatch_spec m i).2

/-- The slow calls that are kept of a request. -/
def slowCalls : List Request.Call :=
  ((s.calls m i).filter fun c => s.slowQueryMs.le c.time).take Request.maxSlowCalls

theorem final_slow : (s.visit m i).final.profile.slow =
    (s.slowCalls m i).map Request.Call.slowCall := by
  let entered := (s.enter i.around.fresh i.now i.request).profile
  obtain ⟨htallies, -⟩ := Request.tallies_foldl (p := entered) rfl (s.calls m i)
  have hlimit : ((s.calls m i).foldl Request.Profile.add entered).slowQueryMs = s.slowQueryMs :=
    congrArg Request.Profile.slowQueryMs (Request.Profile.opening_foldl_add entered (s.calls m i))
  rw [final_profile, htallies.slow, hlimit]
  rfl

theorem filter_perf_of_ne {lines : List Log.Entry} (h : ∀ l ∈ lines, l.source ≠ .perf) :
    (lines.filter fun l => l.source = .perf) = [] :=
  List.filter_eq_nil_iff.mpr fun l hl => by simpa using h l hl

theorem filter_perf_perfEntries (r : Request) (label : String) (elapsed : Number) (e : Ending) :
    ((perfEntries s r label elapsed e).filter fun l => l.source = .perf) =
      perfEntries s r label elapsed e := by
  refine List.filter_eq_self.mpr fun l hl => ?_
  unfold perfEntries at hl
  split at hl
  · rcases List.mem_cons.mp hl with rfl | hl
    · rfl
    · obtain ⟨call, -, rfl⟩ := List.mem_map.mp hl
      rfl
  · cases hl

/-- The lines about the performance of a request are made when it is recorded. -/
theorem perf_logs (hv : (s.visit m i).Carries id name own) : ∃ label elapsed,
    ((s.serve i.around m i.now i.request).logs.filter fun l => l.source = .perf) =
      perfEntries s i.request label elapsed (s.visit m i).final := by
  obtain ⟨label, elapsed, -, hlogs⟩ := s.serve_record m i
  have hfinal : ∀ l ∈ (s.visit m i).final.logs, l.source ≠ .perf := fun l hl => by
    simp [hv.final.2 l hl]
  have hlate : ∀ l ∈ (s.visit m i).logs, l.source ≠ .perf := fun l hl => by simp [hv.logs l hl]
  have hrecord : ∀ l ∈ (m.record (observation i.request label elapsed (s.visit m i).final)
      i.around.clock i.around.trials).logs, l.source ≠ .perf := fun l hl => by
    rcases Monitor.source_record _ _ _ _ l hl with h | h <;> simp [h]
  refine ⟨label, elapsed, ?_⟩
  rw [hlogs, List.filter_append, List.filter_append, List.filter_append, filter_perf_of_ne hfinal,
    filter_perf_of_ne hrecord, filter_perf_of_ne hlate, filter_perf_perfEntries, List.nil_append,
    List.nil_append, List.append_nil]

/-- Each line about the performance of a request names the identity in its profile. -/
theorem requestId_perfEntries (r : Request) (label : String) (elapsed : Number) (e : Ending) :
    (perfEntries s r label elapsed e).map (fun l => (l.message, l.fields.lookup "requestId")) =
      if s.perfLogEnabled then
        ("request_perf", some (.text e.profile.requestId)) ::
          e.profile.slow.map fun _ => ("request_slow_sql", some (.text e.profile.requestId))
      else [] := by
  unfold perfEntries
  split
  · rw [List.map_cons, List.map_map]
    rfl
  · rfl

end Server

/-- Every request gets one safe identity: the first value of its header, trimmed, if that is safe,
and otherwise twelve fresh hexadecimal digits. As long as its handler leaves the header alone, this
identity is in the profile at any point of the handler, in the only such header of the response if
there is to be one, which a safe identity always fits, and in all lines about the performance of the
request and of its slow calls. -/
theorem one_identity (s : Server) (m : Monitor) (i : Incoming) (octets : List Nat)
    (hcount : octets.length = 6) (hoctets : ∀ o ∈ octets, o < 256)
    (hfresh : i.around.fresh = Request.freshIdentity octets)
    (hhandler : ∀ action ∈ s.handler m i, action.header? ≠ some "x-request-id") :
    let header := i.request.headers.first? "x-request-id"
    let id := Request.identity i.around.fresh header
    let entered := s.enter i.around.fresh i.now i.request
    let own : List (String × Datum) :=
      if s.requestIdHeaderEnabled then [("x-request-id", .text id)] else []
    let outcome := s.serve i.around m i.now i.request
    (Request.IsSafe id ∧
      (∀ value, header = some value →
        (id = Text.trim value ↔ Request.IsSafe (Text.trim value))) ∧
      ((∀ value, header = some value → ¬ Request.IsSafe (Text.trim value)) →
        id = i.around.fresh) ∧
      i.around.fresh.toList.length = 12 ∧ ∀ c ∈ i.around.fresh.toList, c ∈ Request.hexDigits) ∧
    (∀ before, before <+: s.handler m i → ∀ params v,
      before.foldlM (Visit.act params) entered = .ok v →
      v.profile.requestId = id ∧ Exchange.headersOf "x-request-id" v.exchange.headers = own) ∧
    (s.requestIdHeaderEnabled = true →
      Exchange.setHeader { entered.exchange with headers := [] } (.text "X-Request-ID") (.text id) =
        .ok entered.exchange) ∧
    (∀ response, outcome.response = some response →
      Exchange.headersOf "x-request-id" response.headers = own) ∧
    (outcome.logs.filter fun l => l.source = .perf).map
        (fun l => (l.message, l.fields.lookup "requestId")) =
      if s.perfLogEnabled then
        ("request_perf", some (.text id)) ::
          (s.slowCalls m i).map fun _ => ("request_slow_sql", some (.text id))
      else [] := by
  intro header id entered own outcome
  have hfreshSafe : Request.IsSafe i.around.fresh := by
    rw [hfresh]
    exact Request.isSafe_freshIdentity (by rintro rfl; cases hcount) (by omega) hoctets
  have hsafe : Request.IsSafe id := Request.isSafe_identity hfreshSafe header
  have hvisit := s.carries_visit m i hhandler
  refine ⟨⟨hsafe, fun value hvalue => ?_, fun hloose => ?_, ?_, ?_⟩,
    fun before hbefore params v hacts => ?_, fun henabled => ?_, fun response hresponse => ?_, ?_⟩
  · rw [← Request.identity_eq_trim_iff hfreshSafe, ← hvalue]
  · cases hheader : header with
    | none => exact congrArg (Request.identity _) hheader
    | some value =>
      have hid : id = Request.identity i.around.fresh (some value) :=
        congrArg (Request.identity _) hheader
      rw [hid, Request.identity_some, if_neg (hloose value hheader)]
  · rw [hfresh, Request.length_freshIdentity, hcount]
  · rw [hfresh]
    exact Request.mem_hexDigits_of_mem_freshIdentity hoctets
  · have hv := (s.carries_enter i).foldlM (fun action h => hhandler action (hbefore.subset h)) hacts
    exact ⟨hv.profile, hv.header⟩
  · have hheaders : entered.exchange.headers = [("x-request-id", .text id)] := if_pos henabled
    rw [Exchange.setHeader_identity rfl hsafe]
    exact congrArg (fun headers => Except.ok { entered.exchange with headers := headers })
      hheaders.symm
  · rw [Exchange.headersOf_response? hresponse (by decide)]
    exact hvisit.header
  · obtain ⟨label, elapsed, hperf⟩ := s.perf_logs m i hvisit
    have hlines := s.requestId_perfEntries i.request label elapsed (s.visit m i).final
    rw [← hperf, hvisit.final.1, s.final_slow, List.map_map] at hlines
    exact hlines

/-- A server whose only route makes a slow call and a fast one, sets a header and fails. -/
def slowServer : Server where
  endpoints := { healthPath := some "/health", allowUnauthenticated := true, authToken := "" }
  perfLogEnabled := true
  requestIdHeaderEnabled := true
  slowQueryMs := Number.ofNat 100
  routes :=
    [{ method := "get", pattern := "/slow"
       actions :=
         [.call { operation := "scan", elapsedMs := Number.ofNat 250 },
          .call { operation := "find", elapsedMs := Number.ofNat 2 },
          .header (.text "X-Request") (.text "other"), .fail (.plain "no rows")] }]

/-- A request to the slow route that brings an identity. -/
def slowVisit (header : HeaderValue) : Incoming :=
  ⟨⟨.ok 5, .ok 5, .calm, Request.freshIdentity [10, 27, 44, 61, 78, 255]⟩, 5,
    { method := some "GET", target := some "/slow", headers := [("x-request-id", header)] }⟩

/-- The first of several values is kept without its blanks, and a value with a line break is
replaced. -/
theorem one_identity_of_failed_handler :
    let m := Monitor.start (Settings.Observability.resolve .absent) 0
    let lines := fun i => ((slowServer.serve i.around m i.now i.request).logs.filter
      fun l => l.source = .perf).map fun l => (l.message, l.fields.lookup "requestId")
    let kept := slowVisit (.many ["\t abc-123 ", "second"])
    let replaced := slowVisit (.one "abc\nX-Other: 1")
    lines kept = [("request_perf", some (.text "abc-123")),
        ("request_slow_sql", some (.text "abc-123"))] ∧
      lines replaced = [("request_perf", some (.text "0a1b2c3d4eff")),
        ("request_slow_sql", some (.text "0a1b2c3d4eff"))] ∧
      ∃ response, (slowServer.serve replaced.around m replaced.now replaced.request).response =
          some response ∧
        Exchange.headersOf "x-request-id" response.headers =
          [("x-request-id", .text "0a1b2c3d4eff")] := by
  intro m lines kept replaced
  have hoctets : ∀ o ∈ [10, 27, 44, 61, 78, 255], o < 256 := by decide
  have hleaves : ∀ i : Incoming,
      (slowServer.handler m i).all (fun action => action.header? != some "x-request-id") = true →
      ∀ action ∈ slowServer.handler m i, action.header? ≠ some "x-request-id" := by
    intro i h
    simpa using h
  have hslow : (slowServer.slowCalls m kept).length = 1 ∧
      (slowServer.slowCalls m replaced).length = 1 := by decide +kernel
  obtain ⟨-, -, -, -, hkept⟩ := one_identity slowServer m kept _ rfl hoctets rfl
    (hleaves kept (by decide +kernel))
  obtain ⟨-, -, -, hheader, hreplaced⟩ := one_identity slowServer m replaced _ rfl hoctets rfl
    (hleaves replaced (by decide +kernel))
  have hid : kept.identity = "abc-123" ∧ replaced.identity = "0a1b2c3d4eff" := by
    decide +kernel
  have hkeptLines : lines kept = ("request_perf", some (.text kept.identity)) ::
    (slowServer.slowCalls m kept).map
      fun _ => ("request_slow_sql", some (.text kept.identity)) := hkept
  have hreplacedLines : lines replaced = ("request_perf", some (.text replaced.identity)) ::
    (slowServer.slowCalls m replaced).map
      fun _ => ("request_slow_sql", some (.text replaced.identity)) := hreplaced
  rw [hid.1, List.map_const', hslow.1] at hkeptLines
  rw [hid.2, List.map_const', hslow.2] at hreplacedLines
  have hanswered : (slowServer.serve replaced.around m replaced.now
      replaced.request).response.isSome = true := by decide +kernel
  obtain ⟨response, hresponse⟩ := Option.isSome_iff_exists.mp hanswered
  have hown : Exchange.headersOf "x-request-id" response.headers =
    [("x-request-id", .text replaced.identity)] := hheader response hresponse
  rw [hid.2] at hown
  exact ⟨hkeptLines, hreplacedLines, response, hresponse, hown⟩

end Telemetry.Web
