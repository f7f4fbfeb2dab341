import Telemetry.Proofs.Web.Endpoints
import Telemetry.Proofs.Web.Progress

/-! # The path that counts names the endpoint that answers

Who owns a request is asked twice: once for the path under which the request counts, and once by the
endpoints, each with its own check. Both come to the same owner, so a request that an endpoint owns
counts under the path of the one whose answer its client gets.
-/
namespace Telemetry.Web
open Endpoint (isRead bodyFor)

section Owners

variable (s : EndpointSettings) (m : Monitor)

/-- The path that counts is that of the owner. -/
theorem ownedPath?_eq (method path : String) :
    ownedPath? s m method path = (owner? s m method path).bind (Endpoint.path? s m) := by
  rw [ownedPath?, owner?]
  by_cases hread : (!isRead method) = true
  · rw [if_pos hread, if_pos hread, Option.bind_none]
  · rw [if_neg hread, if_neg hread]
    by_cases hhealth : some path = s.healthPath
    · rw [if_pos hhealth, if_pos hhealth, Option.bind_some]
      exact hhealth
    · rw [if_neg hhealth, if_neg hhealth]
      split <;> rfl

variable {s m} {method path : String} {endpoint : Endpoint}

theorem isRead_of_owner (h : owner? s m method path = some endpoint) : isRead method = true := by
  rw [owner?] at h
  split at h
  · cases h
  · rename_i hread
    simpa using hread

theorem path?_of_owner (h : owner? s m method path = some endpoint) :
    ∃ label, endpoint.path? s m = some label := by
  cases endpoint with
  | health => exact ⟨path, (owner?_eq_health_iff (isRead_of_owner h)).mp h⟩
  | exposition => exact ⟨m.settings.prometheusPath, rfl⟩

/-- Where both endpoints have one path, the health endpoint owns it. -/
theorem owner?_of_shared (hshared : s.healthPath = some m.settings.prometheusPath)
    (h : owner? s m method path = some endpoint) : endpoint = .health := by
  cases endpoint with
  | health => rfl
  | exposition =>
    obtain ⟨hhealth, -, hpath⟩ := (owner?_eq_exposition_iff (isRead_of_owner h)).mp h
    exact absurd (hpath ▸ hshared) hhealth

end Owners

section Replies

/-- A reply that reaches the client as it is. -/
structure Reply.Sendable (method : String) (r : Reply) : Prop where
  status : r.status = 200 ∨ r.status = 404
  contentType : r.contentType.toList.all Exchange.isHeaderValueChar = true
  body : method = "HEAD" → r.body = ""

theorem bodyFor_head {method : String} (h : method = "HEAD") (body : String) :
    bodyFor method body = "" := by
  rw [bodyFor, if_pos (beq_iff_eq.mpr h)]

/-- With a working clock an endpoint has an answer for every request. -/
theorem exists_answer (s : EndpointSettings) (m : Monitor) (now : Number) (method : String)
    (headers : Headers) (endpoint : Endpoint) :
    ∃ reply, endpoint.answer s m (.ok now) method headers = .ok reply ∧
      reply.Sendable method := by
  have htypes : ∀ text ∈ ["application/json; charset=utf-8", Metric.contentType,
      "text/plain; charset=utf-8"], text.toList.all Exchange.isHeaderValueChar = true := by decide
  simp only [List.forall_mem_cons] at htypes
  obtain ⟨hjson, hexposed, hplain, -⟩ := htypes
  cases endpoint with
  | health => exact ⟨_, rfl, .inl rfl, hjson, fun h => bodyFor_head h _⟩
  | exposition =>
    obtain ⟨text, htext⟩ : ∃ text, m.render (.ok now) = .ok text := by
      unfold Monitor.render
      split <;> exact ⟨_, rfl⟩
    rw [Endpoint.answer, htext]
    split
    · exact ⟨_, rfl, .inl rfl, hexposed, fun h => bodyFor_head h _⟩
    · exact ⟨_, rfl, .inr rfl, hplain, fun h => bodyFor_head h _⟩

theorem statusCode_reply {status : Int} (h : status = 200 ∨ status = 404) :
    Exchange.statusCode (.number (Number.ofInt status)) = status := by
  rcases h with rfl | rfl <;> decide +kernel

/-- A reply to an exchange that has not begun is the response. -/
theorem Reply.Sendable.response {method : String} {r : Reply} (h : r.Sendable method) {v : Visit}
    (hhead : v.exchange.head = none) (hopen : v.exchange.ended = false)
    (hbody : v.exchange.body = "") (honly : v.exchange.headOnly = (method == "HEAD"))
    (hframing : v.exchange.framing = []) :
    let e := (v.reply r.status r.contentType r.body).exchange
    e.ended = true ∧ ∃ headers, e.response? false =
      some { status := .number (Number.ofInt r.status), headers := headers, body := r.body } := by
  have hrange : 100 ≤ r.status ∧ r.status ≤ 999 := by
    rcases h.status with hs | hs <;> rw [hs] <;> decide
  have hallowed : Exchange.statusHasBody r.status = true := by
    rcases h.status with hs | hs <;> rw [hs] <;> decide
  have hname : Exchange.isHeaderName (.text "content-type") = true := by decide
  have hkey : Exchange.headerKey (.text "content-type") = "content-type" := by decide +kernel
  let headers := Exchange.putHeader v.exchange.headers "content-type" (.text r.contentType)
  let named : Exchange :=
    { v.exchange with status := .number (Number.ofInt r.status), headers := headers }
  have hset : (v.exchange.setStatus (.number (Number.ofInt r.status))).setHeader
      (.text "content-type") (.text r.contentType) = .ok named := by
    rw [show named = { v.exchange with
        status := .number (Number.ofInt r.status)
        headers := Exchange.putHeader v.exchange.headers (Exchange.headerKey (.text "content-type"))
          (.text r.contentType) } by rw [hkey]]
    simp [Exchange.setHeader, Exchange.setStatus, Exchange.headSent, hhead, hname,
      Datum.isAbsent, Datum.plain, h.contentType, Exchange.headerKey]
  have hunframed : named.framing = [] :=
    (Exchange.filter_putHeader (by decide) _ _).trans hframing
  have hfinish := Exchange.finish_of_code (e := named) hhead hopen (statusCode_reply h.status)
    hrange (Exchange.trailersFit_of_unframed hunframed _) r.body
  have hshown : (if !v.exchange.headOnly && !false then v.exchange.body ++ r.body else "") =
      r.body := by
    rw [honly, hbody, String.empty_append]
    by_cases hmethod : method = "HEAD"
    · simp [hmethod, h.body hmethod]
    · simp [hmethod]
  intro e
  have he : e = { v.exchange with
      status := .number (Number.ofInt r.status)
      headers := headers
      head := some { status := r.status, hasBody := !v.exchange.headOnly }
      body := v.exchange.body ++ r.body
      ended := true } := by
    unfold e Visit.reply
    rw [hset, Except.bind, hfinish, hallowed, Bool.and_true]
  rw [he]
  refine ⟨rfl, headers.filter fun h => !Exchange.framingHeaders.contains h.1, ?_⟩
  have hnone : ∀ e : Exchange, e.headers = headers → e.framing = [] := by
    intro e hsame
    rw [Exchange.framing, hsame]
    exact hunframed
  rw [Exchange.response?_of_ended rfl rfl, hshown, hnone _ rfl, ite_self]

end Replies

namespace Server

variable (s : Server) (m : Monitor) (i : Incoming)

theorem headOnly_enter : (s.enter i.around.fresh i.now i.request).exchange.headOnly =
    (i.request.method.getD "" == "HEAD") := by
  cases hmethod : i.request.method with
  | none => simp [enter, hmethod]
  | some method => simp [enter, hmethod]

/-- A request that an endpoint answers counts under the path that is owned, and its client gets the
answer. -/
theorem serve_answered {endpoint : Endpoint} {reply : Reply} {label : String}
    (howned : ownedPath? s.endpoints m (i.request.method.getD "") (targetPath i.request.target) =
      some label)
    (hanswer : handle s.endpoints m i.around.wallClock (i.request.method.getD "")
      (targetPath i.request.target) i.request.headers = .ok (some (endpoint, reply)))
    (hsend : reply.Sendable (i.request.method.getD "")) :
    s.label m i.request = label ∧ ∃ headers,
      (s.serve i.around m i.now i.request).response =
        some { status := .number (Number.ofInt reply.status), headers := headers,
               body := reply.body } := by
  obtain ⟨hended, headers, hresponse⟩ := hsend.response
    (v := s.enter i.around.fresh i.now i.request) rfl rfl rfl (s.headOnly_enter i)
    (s.framing_enter _ _ _)
  have hvisit : s.visit m i = ((s.enter i.around.fresh i.now i.request).reply reply.status
      reply.contentType reply.body).linger := by
    unfold visit dispatch accept
    dsimp only
    rw [howned]
    dsimp only
    rw [hanswer]
    rfl
  refine ⟨?_, headers, ?_⟩
  · rw [Server.label, howned]
  · have hopen : ((s.enter i.around.fresh i.now i.request).reply reply.status reply.contentType
        reply.body).ending = none := Visit.ending_reply _ _ _ _
    have hhere : ((s.enter i.around.fresh i.now i.request).reply reply.status reply.contentType
        reply.body).gone = false := Visit.gone_reply _ _ _ _
    rw [serve_response, hvisit, Visit.linger_of_open hopen, hhere, hended]
    exact hresponse

end Server

/-- At a working clock a request has a path under which it counts as owned exactly if an endpoint
answers it, and then the path is that of the endpoint; where both have the same path, this is the
health endpoint. Any other request is left to the routes. So a request that an endpoint answers is
recorded under the path of the endpoint whose answer its client gets. -/
theorem label_names_answerer (s : Server) (m : Monitor) (now : Number) :
    let e := s.endpoints
    (∀ method path headers,
      (∀ label, ownedPath? e m method path = some label ↔ ∃ endpoint reply,
        handle e m (.ok now) method path headers = .ok (some (endpoint, reply)) ∧
        endpoint.answer e m (.ok now) method headers = .ok reply ∧
        endpoint.path? e m = some label) ∧
      (ownedPath? e m method path = none ↔
        handle e m (.ok now) method path headers = .ok none) ∧
      (e.healthPath = some m.settings.prometheusPath → ∀ endpoint reply,
        handle e m (.ok now) method path headers = .ok (some (endpoint, reply)) →
          endpoint = .health)) ∧
    ∀ i : Incoming, i.around.wallClock = .ok now → ∀ endpoint reply,
      handle e m (.ok now) (i.request.method.getD "") (targetPath i.request.target)
        i.request.headers = .ok (some (endpoint, reply)) →
      ∃ label c headers, endpoint.path? e m = some label ∧ s.arrive m i = m.call c ∧
        c.tally.path = Metric.pathLabel (.text label) ∧
        (s.serve i.around m i.now i.request).response =
          some { status := .number (Number.ofInt reply.status), headers := headers,
                 body := reply.body } := by
  intro e
  -- Both questions are questions for the owner, who has an answer and a path.
  have howner : ∀ method path headers,
      (owner? e m method path = none ∧ ownedPath? e m method path = none ∧
        handle e m (.ok now) method path headers = .ok none) ∨
      ∃ endpoint label reply, owner? e m method path = some endpoint ∧
        ownedPath? e m method path = some label ∧ endpoint.path? e m = some label ∧
        handle e m (.ok now) method path headers = .ok (some (endpoint, reply)) ∧
        endpoint.answer e m (.ok now) method headers = .ok reply ∧ reply.Sendable method := by
    intro method path headers
    rw [ownedPath?_eq, handle_eq]
    cases hown : owner? e m method path with
    | none => exact .inl ⟨rfl, rfl, rfl⟩
    | some endpoint =>
      obtain ⟨label, hlabel⟩ := path?_of_owner hown
      obtain ⟨reply, hreply, hsend⟩ := exists_answer e m now method headers endpoint
      refine .inr ⟨endpoint, label, reply, rfl, hlabel, hlabel, ?_, hreply, hsend⟩
      dsimp only
      rw [answered, hreply]
      rfl
  refine ⟨fun method path headers => ?_, fun i hclock endpoint reply hanswer => ?_⟩
  · rcases howner method path headers with ⟨-, howned, hhandle⟩ |
      ⟨endpoint, label, reply, hown, howned, hpath, hhandle, hanswer, -⟩
    · rw [howned, hhandle]
      exact ⟨by simp, by simp, by simp⟩
    · rw [howned, hhandle]
      refine ⟨fun other => ⟨?_, ?_⟩, by simp, ?_⟩
      · rintro ⟨⟩
        exact ⟨endpoint, reply, rfl, hanswer, hpath⟩
      · rintro ⟨_, _, ⟨⟩, -, hother⟩
        exact hpath.symm.trans hother
      · rintro hshared _ _ ⟨⟩
        exact owner?_of_shared hshared hown
  · rcases howner (i.request.method.getD "") (targetPath i.request.target) i.request.headers with
      ⟨-, -, hhandle⟩ | ⟨owner, label, given, -, howned, hpath, hhandle, -, hsend⟩
    · rw [hhandle] at hanswer
      cases hanswer
    · rw [hhandle] at hanswer
      cases hanswer
      rw [← hclock] at hhandle
      obtain ⟨hlabel, headers, hresponse⟩ := s.serve_answered m i howned hhandle hsend
      obtain ⟨c, hc, harrive⟩ := s.arrive_eq m i
      refine ⟨label, c, headers, hpath, harrive, ?_, hresponse⟩
      rw [← hlabel]
      exact hc.path

/-- A server whose endpoints have one path. -/
def sharedServer : Server where
  endpoints := { healthPath := some "/status", allowUnauthenticated := false, authToken := "" }
  perfLogEnabled := false
  requestIdHeaderEnabled := true
  slowQueryMs := Number.ofNat 100
  routes := [{ method := "get", pattern := "/status", actions := [.finish (.text "route")] }]

theorem label_names_answerer_of_shared_path :
    let settings := Settings.Observability.resolve
      (.record [("prometheusPath", .text "/status")])
    let m := Monitor.start settings 0
    let e := sharedServer.endpoints
    let i : Incoming := ⟨⟨.ok 5, .ok 7, .calm, "0a1b2c3d4e5f"⟩, 5,
      { method := some "GET", target := some "/status?full=1" }⟩
    (e.healthPath = some m.settings.prometheusPath ∧ i.around.wallClock = .ok 7) ∧
    ∃ reply c headers,
      handle e m (.ok 7) "GET" (targetPath i.request.target) [] = .ok (some (.health, reply)) ∧
      sharedServer.arrive m i = m.call c ∧
      c.tally.path = Metric.pathLabel (.text "/status") ∧
      (sharedServer.serve i.around m i.now i.request).response =
        some { status := .number (Number.ofInt reply.status), headers := headers,
               body := reply.body } := by
  intro settings m e i
  have hshared : e.healthPath = some m.settings.prometheusPath := by decide +kernel
  have howned : ownedPath? e m "GET" (targetPath i.request.target) = some "/status" := by
    decide +kernel
  obtain ⟨hrouter, hserved⟩ := label_names_answerer sharedServer m 7
  obtain ⟨hnames, -, hhealth⟩ := hrouter "GET" (targetPath i.request.target) []
  obtain ⟨endpoint, reply, hhandle, -, -⟩ := (hnames "/status").mp howned
  obtain rfl : endpoint = .health := hhealth hshared endpoint reply hhandle
  obtain ⟨label, c, headers, hlabel, harrive, hpath, hresponse⟩ :=
    hserved i rfl .health reply hhandle
  obtain rfl : "/status" = label := Option.some.inj hlabel
  exact ⟨⟨hshared, rfl⟩, reply, c, headers, hhandle, harrive, hpath, hresponse⟩

end Telemetry.Web
