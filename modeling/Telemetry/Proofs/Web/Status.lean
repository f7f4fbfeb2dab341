import Telemetry.Proofs.Web.Moves

/-! # The status that is recorded

The status line of a response is settled when its head is sent, but the status of an exchange can be
changed until the exchange is over, and the monitor is told that one. The two are the same unless a
handler gives a status after the head.
-/
namespace Telemetry.Web

namespace Exchange

/-- The status that a status line stands for. -/
def lineStatus (head : Head) : Datum := .number (Number.ofInt head.status)

/-- What a step other than a change of the status does: a head that was sent stays with the status,
and a head that is sent has the status of the exchange. Without a head nothing ends. -/
structure Keeps (e next : Exchange) : Prop where
  kept : ∀ head, e.head = some head → next.head = some head ∧ next.status = e.status
  sent : e.head = none → ∀ head, next.head = some head → next.status = lineStatus head
  unsent : next.head = none → next.ended = e.ended

variable {e next : Exchange}

theorem Keeps.of_eq (hhead : next.head = e.head) (hstatus : next.status = e.status)
    (hended : next.ended = e.ended) : Keeps e next := by
  refine ⟨fun head h => ⟨hhead.trans h, hstatus⟩, fun hnone head h => ?_, fun _ => hended⟩
  rw [hhead, hnone] at h
  cases h

theorem sendHead_sends (h : e.sendHead = .ok next) : Keeps e next ∧ next.headSent = true := by
  obtain ⟨hsent, rfl⟩ | ⟨hnone, head, -, rfl⟩ := sendHead_cases h
  · exact ⟨.of_eq rfl rfl rfl, hsent⟩
  · refine ⟨⟨fun _ hhead => absurd (hnone.symm.trans hhead) nofun, fun _ _ hhead => ?_, nofun⟩, rfl⟩
    cases hhead
    rfl

/-- What happens once the head is sent concerns the body and the end. -/
theorem Keeps.then {middle : Exchange} (h : Keeps e middle) (hsent : middle.headSent = true)
    (hhead : next.head = middle.head) (hstatus : next.status = middle.status) : Keeps e next := by
  refine ⟨fun head he => ?_, fun hnone head hnext => ?_, fun hnone => ?_⟩
  · obtain ⟨hkept, hsame⟩ := h.kept head he
    exact ⟨hhead.trans hkept, hstatus.trans hsame⟩
  · exact hstatus.trans (h.sent hnone head (hhead ▸ hnext))
  · rw [headSent, ← hhead, hnone] at hsent
    cases hsent

theorem complain_keeps (e : Exchange) (fault : Failure) : Keeps e (e.complain fault) := by
  unfold complain
  split <;> exact .of_eq rfl rfl rfl

variable {speaks ends : Bool} {text : String}

theorem Says.keeps (h : Says e next speaks ends text) : Keeps e next := by
  cases hended : e.ended with
  | true =>
    rw [h.late hended]
    split
    · exact complain_keeps e _
    · exact .of_eq rfl rfl rfl
  | false =>
    obtain ⟨middle, hsend, rfl⟩ := h.timely hended
    obtain ⟨hkeeps, hsent⟩ := sendHead_sends hsend
    exact hkeeps.then hsent rfl rfl

/-- A change before the head is sent is forgotten by what a status line settles. -/
theorem Keeps.of_unsent {middle : Exchange} (h : Keeps middle next) (hhead : e.head = none)
    (hmiddle : middle.head = none) (hended : middle.ended = e.ended) : Keeps e next := by
  refine ⟨fun _ he => absurd (hhead.symm.trans he) nofun, fun _ => h.sent hmiddle, fun hnone => ?_⟩
  rw [h.unsent hnone, hended]

theorem finishWithError_keeps (e : Exchange) : Keeps e e.finishWithError := by
  unfold finishWithError
  split
  · exact (says_finish ‹_›).keeps
  · exact complain_keeps e _

theorem abort_keeps (e : Exchange) : Keeps e e.abort := by
  unfold abort
  split
  · exact .of_eq rfl rfl rfl
  · cases hhead : e.head with
    | some head =>
      rw [headSent, hhead, Option.isSome_some, if_pos rfl]
      exact e.finishWithError_keeps
    | none =>
      rw [headSent, hhead, Option.isSome_none, if_neg Bool.false_ne_true]
      exact (finishWithError_keeps _).of_unsent hhead rfl rfl

theorem response?_of_ended {head : Head} (hhead : e.head = some head) (hended : e.ended = true)
    (gone : Bool) : e.response? gone = some
      { status := e.status
        headers := e.headers.filter fun h => !framingHeaders.contains h.1
        body := if head.hasBody && !gone then e.body else ""
        framing := if head.hasBody then e.framing else [] } := by
  unfold response?
  rw [hhead]
  exact if_pos hended

/-- The status of an exchange is that of its status line, unless another one was given late. -/
structure Settled (e : Exchange) (late : Option Datum) : Prop where
  unsent : e.head = none → e.ended = false ∧ late = none
  sent : ∀ head, e.head = some head → e.status = late.getD (lineStatus head)

theorem Settled.keeps {late : Option Datum} (h : Settled e late) (hkeeps : Keeps e next) :
    Settled next late := by
  constructor
  · intro hnone
    cases he : e.head with
    | none =>
      obtain ⟨hended, hlate⟩ := h.unsent he
      exact ⟨(hkeeps.unsent hnone).trans hended, hlate⟩
    | some head => exact absurd (hnone.symm.trans (hkeeps.kept head he).1) nofun
  · intro head hhead
    cases he : e.head with
    | none =>
      rw [(h.unsent he).2]
      exact hkeeps.sent he head hhead
    | some first =>
      obtain ⟨hfirst, hstatus⟩ := hkeeps.kept first he
      obtain rfl : first = head := Option.some.inj (hfirst.symm.trans hhead)
      rw [hstatus, h.sent first he]

theorem setStatus_settled {late : Option Datum} (h : Settled e late) (code : Datum) :
    Settled (e.setStatus code) (if e.headSent then some code else late) := by
  cases hhead : e.head with
  | none =>
    have hsent : e.headSent = false := by simp [headSent, hhead]
    rw [hsent, if_neg Bool.false_ne_true]
    exact ⟨h.unsent, fun head hsome => absurd (hhead.symm.trans hsome) (Option.some_ne_none _).symm⟩
  | some head =>
    have hsent : e.headSent = true := by simp [headSent, hhead]
    rw [hsent, if_pos rfl]
    exact ⟨fun hnone => absurd (hhead.symm.trans hnone) (Option.some_ne_none _), fun _ _ => rfl⟩

end Exchange

section Handlers

open Exchange (Keeps Settled lineStatus)

/-- The last status given after the head so far, with one more action. -/
def Visit.noted (v : Visit) (late : Option Datum) : Action → Option Datum
  | .status code => if v.exchange.headSent then some code else late
  | _ => late

/-- The last status that a handler gives after the head and before its exchange is over, up to an
action that fails. -/
def Visit.late (params : Parameters) (late : Option Datum) (v : Visit) :
    List Action → Option Datum
  | [] => late
  | action :: rest =>
    if action.isLinger then late
    else
      match v.act params action with
      | .ok next => next.late params (v.noted late action) rest
      | .error _ => late

def Action.isStatus : Action → Bool
  | .status _ => true
  | _ => false

namespace Visit

variable {params : Parameters} {v next : Visit} {late : Option Datum} {action : Action}

theorem bind_eq_ok {α β : Type} {x : Except Failure α} {f : α → Except Failure β} {r : β}
    (h : x.bind f = .ok r) : ∃ a, x = .ok a ∧ f a = .ok r := by
  cases x with
  | error failure => cases h
  | ok a => exact ⟨a, rfl, h⟩

theorem act_keeps (h : v.act params action = .ok next) (hstatus : action.isStatus = false) :
    Keeps v.exchange next.exchange := by
  cases act_moves h with
  | said hsends hsaid htext => exact hsaid.keeps
  | still hsends hexchange =>
    rw [hexchange]
    exact .of_eq rfl rfl rfl
  | status haction hexchange =>
    rw [haction] at hstatus
    cases hstatus
  | header haction hexchange =>
    rw [hexchange]
    exact .of_eq rfl rfl rfl
  | closed haction hexchange =>
    rw [hexchange]
    exact .of_eq rfl rfl rfl

theorem act_settled (h : v.act params action = .ok next) (hv : Settled v.exchange late) :
    Settled next.exchange (v.noted late action) := by
  cases hstatus : action.isStatus with
  | false =>
    have hnoted : v.noted late action = late := by
      cases action <;> first | rfl | cases hstatus
    rw [hnoted]
    exact hv.keeps (act_keeps h hstatus)
  | true =>
    cases action with
    | status code =>
      cases h
      exact Exchange.setStatus_settled hv code
    | _ => cases hstatus

theorem act_head {head : Head} (h : v.act params action = .ok next)
    (hhead : v.exchange.head = some head) : next.exchange.head = some head := by
  cases hstatus : action.isStatus with
  | false => exact ((act_keeps h hstatus).kept head hhead).1
  | true =>
    cases action with
    | status code =>
      cases h
      exact hhead
    | _ => cases hstatus

theorem act_gone (h : v.act params action = .ok next) (hgone : v.gone = true) :
    next.gone = true := by
  have hwith : ∀ e, v.withExchange e = .ok next → next.gone = true := by
    intro e he
    cases e with
    | error failure => cases he
    | ok exchange =>
      cases he
      exact hgone
  cases action with
  | call c =>
    cases h
    exact hgone
  | status code =>
    cases h
    exact hgone
  | header name value => exact hwith _ h
  | write chunk => exact hwith _ h
  | finish chunk => exact hwith _ h
  | parameters => exact hwith _ h
  | context => exact hwith _ h
  | advance ms =>
    cases h
    exact hgone
  | pause =>
    cases h
    exact hgone
  | fail failure => cases h
  | disconnect =>
    cases h
    simp [hgone]
  | linger =>
    cases h
    obtain hopen | ⟨e, hover⟩ := Option.eq_none_or_eq_some v.ending
    · rw [linger_of_open hopen]
      exact Bool.or_eq_true_iff.mpr (.inl hgone)
    · rw [linger_of_over hover]
      exact hgone

/-- A handler changes no head that was sent, and no client comes back. -/
theorem perform_frame (params : Parameters) (v : Visit) (actions : List Action) :
    (∀ head, v.exchange.head = some head →
      (v.perform params actions).exchange.head = some head) ∧
    (v.gone = true → (v.perform params actions).gone = true) := by
  induction actions generalizing v with
  | nil => exact ⟨fun _ h => h, id⟩
  | cons action rest ih =>
    rw [perform]
    cases h : v.act params action with
    | ok next =>
      obtain ⟨hhead, hgone⟩ := ih next
      exact ⟨fun head hv => hhead head (act_head h hv), fun hv => hgone (act_gone h hv)⟩
    | error failure =>
      exact ⟨fun head hv => ((Exchange.abort_keeps v.exchange).kept head hv).1, id⟩

/-- The status line of a response that a client got to its end. -/
def line? (v : Visit) : Option Head :=
  if v.exchange.ended && !v.gone then v.exchange.head else none

/-- What the visit knows of its exchange once that is over. -/
def final (v : Visit) : Ending := v.ending.getD v.present

theorem line?_eq_some {head : Head} (h : v.line? = some head) :
    v.exchange.ended = true ∧ v.gone = false ∧ v.exchange.head = some head := by
  unfold line? at h
  split at h
  · rename_i hboth
    simp only [Bool.and_eq_true, Bool.not_eq_true'] at hboth
    exact ⟨hboth.1, hboth.2, h⟩
  · cases h

theorem recordedStatus_eq {head : Head} (hv : Settled v.exchange late)
    (hhead : v.exchange.head = some head) : v.recordedStatus = late.getD (lineStatus head) := by
  rw [recordedStatus, if_pos (by rw [Exchange.headSent, hhead]; rfl), hv.sent head hhead]

/-- An exchange that is over is recorded with the status that it has then. -/
theorem status_linger {head : Head} (hopen : v.ending = none) (hv : Settled v.exchange late)
    (h : v.linger.line? = some head) :
    v.linger.final.status = late.getD (lineStatus head) := by
  obtain ⟨-, -, hhead⟩ := line?_eq_some h
  rw [linger_of_open hopen] at hhead ⊢
  exact recordedStatus_eq hv hhead

/-- A client that is still there when all is done got its response to the end by the time its
exchange was over, so nothing that follows matters. -/
theorem status_over {head : Head} (hopen : v.ending = none) (hv : Settled v.exchange late)
    (rest : List Action) (h : (v.linger.perform params rest).linger.line? = some head) :
    (v.linger.perform params rest).linger.final.status = late.getD (lineStatus head) := by
  have hover := linger_of_open hopen
  have hending : (v.linger.perform params rest).ending = some v.present :=
    perform_of_over (congrArg Visit.ending hover) rest
  have hdone : (v.linger.perform params rest).linger = v.linger.perform params rest :=
    linger_of_over hending
  obtain ⟨hkept, hleft⟩ := perform_frame params v.linger rest
  rw [hdone] at h ⊢
  obtain ⟨-, hgone, hhead⟩ := line?_eq_some h
  have hended : v.exchange.ended = true := by
    by_contra hne
    have hleaves : v.linger.gone = true := by
      rw [hover]
      simp [Bool.eq_false_iff.mpr hne]
    exact Bool.false_ne_true (hgone.symm.trans (hleft hleaves))
  cases hfirst : v.exchange.head with
  | none => exact absurd ((hv.unsent hfirst).1.symm.trans hended) Bool.false_ne_true
  | some first =>
    have hline := hkept first ((congrArg (·.exchange.head) hover).trans hfirst)
    obtain rfl : first = head := Option.some.inj (hline.symm.trans hhead)
    rw [final, hending]
    exact recordedStatus_eq hv hfirst

/-- A handler is recorded with the last status that it gives after the head, and without one with
that of the status line. -/
theorem status_perform {head : Head} (hopen : v.ending = none) (hv : Settled v.exchange late)
    (actions : List Action) (h : (v.perform params actions).linger.line? = some head) :
    (v.perform params actions).linger.final.status =
      (v.late params late actions).getD (lineStatus head) := by
  induction actions generalizing v late with
  | nil => exact status_linger hopen hv h
  | cons action rest ih =>
    rw [perform] at h ⊢
    rw [Visit.late]
    cases hlinger : action.isLinger with
    | true =>
      cases action with
      | linger =>
        -- The exchange is over here, and what the handler does afterwards is not recorded.
        rw [if_pos rfl]
        exact status_over hopen hv rest h
      | _ => cases hlinger
    | false =>
      rw [if_neg Bool.false_ne_true]
      cases hact : v.act params action with
      | ok next =>
        rw [hact] at h
        exact ih ((act_frame hact hlinger).1.trans hopen) (act_settled hact hv) h
      | error failure =>
        rw [hact] at h
        exact status_linger (v := v.abort failure) hopen
          (hv.keeps (Exchange.abort_keeps v.exchange)) h

theorem reply_settled (hv : Settled v.exchange none) (hhead : v.exchange.head = none)
    (status : Int) (contentType body : String) :
    Settled (v.reply status contentType body).exchange none := by
  have hset : Settled (v.exchange.setStatus (.number (Number.ofInt status))) none := by
    have h := Exchange.setStatus_settled hv (.number (Number.ofInt status))
    rwa [if_neg (by simp [Exchange.headSent, hhead])] at h
  unfold reply
  split
  · rename_i e hreply
    obtain ⟨named, hnamed, hfinish⟩ := bind_eq_ok hreply
    have hkept : Keeps (v.exchange.setStatus (.number (Number.ofInt status))) named := by
      rw [Exchange.setHeader_headers hnamed]
      exact .of_eq rfl rfl rfl
    exact (hset.keeps hkept).keeps (Exchange.says_finish hfinish).keeps
  · exact hv.keeps (Exchange.abort_keeps v.exchange)

theorem gone_reply (v : Visit) (status : Int) (contentType body : String) :
    (v.reply status contentType body).gone = v.gone := by
  unfold reply
  split <;> rfl

theorem ending_reply (v : Visit) (status : Int) (contentType body : String) :
    (v.reply status contentType body).ending = v.ending := by
  unfold reply
  split <;> rfl

end Visit

end Handlers

namespace Server

variable (s : Server) (m : Monitor) (i : Incoming)

/-- A request when its handler is through and its exchange is over. -/
def visit : Visit :=
  (dispatch s m i.around.wallClock i.request (targetPath i.request.target)
    (s.enter i.around.fresh i.now i.request)).1.linger

/-- The client gets the response of the exchange. -/
theorem serve_response : (s.serve i.around m i.now i.request).response =
    (s.visit m i).exchange.response? (s.visit m i).gone := rfl

/-- The last status that the handler of a request gives after the head and before its exchange is
over. The answers that the server gives on its own have none. -/
def lateStatus? : Option Datum :=
  let path := targetPath i.request.target
  match ownedPath? s.endpoints m (i.request.method.getD "") path with
  | some _ => none
  | none =>
    match findRoute? i.request.method path s.routes with
    | some (route, params) =>
      (s.enter i.around.fresh i.now i.request).late params none route.actions
    | none => none

/-- What the end of the exchange makes of the monitor and of the log. -/
theorem serve_record : ∃ label elapsed,
    let v := s.visit m i
    let step := m.record (observation i.request label elapsed v.final) i.around.clock i.around.trials
    s.arrive m i = step.monitor ∧
      (s.serve i.around m i.now i.request).logs =
        v.final.logs ++ (step.logs ++ perfEntries s i.request label elapsed v.final) ++ v.logs := by
  unfold arrive serve visit
  have hpath : (s.enter i.around.fresh i.now i.request).profile.path =
      targetPath i.request.target := rfl
  dsimp only
  rw [hpath]
  generalize dispatch s m i.around.wallClock i.request (targetPath i.request.target)
    (s.enter i.around.fresh i.now i.request) = handled
  obtain ⟨v, label⟩ := handled
  dsimp only
  rw [note, monitor_foldl_receive _ _ m (Visit.signals_ne_nil _),
    logs_foldl_receive _ _ m (Visit.signals_ne_nil _)]
  exact ⟨label, _, rfl, rfl⟩

/-- The monitor is told the status that counts at the end of the exchange. -/
theorem arrive_status : ∃ c, s.arrive m i = m.call c ∧
    c.observation.statusCode = (s.visit m i).final.status := by
  obtain ⟨label, elapsed, harrive, -⟩ := s.serve_record m i
  exact ⟨⟨observation i.request label elapsed (s.visit m i).final, i.around.clock, i.around.trials⟩,
    harrive, rfl⟩

/-- Whoever answers a request, it is recorded with the last status that was given after the head,
and without one with that of the status line. -/
theorem final_status {head : Head} (h : (s.visit m i).line? = some head) :
    (s.visit m i).final.status = (s.lateStatus? m i).getD (Exchange.lineStatus head) := by
  have hopen : (s.enter i.around.fresh i.now i.request).ending = none := rfl
  have hhead : (s.enter i.around.fresh i.now i.request).exchange.head = none := rfl
  have hv : Exchange.Settled (s.enter i.around.fresh i.now i.request).exchange none :=
    ⟨fun _ => ⟨rfl, rfl⟩, fun head hsome => absurd (hhead.symm.trans hsome) nofun⟩
  unfold visit dispatch at h ⊢
  unfold lateStatus?
  generalize s.enter i.around.fresh i.now i.request = v at hopen hhead hv h ⊢
  have hreplies : ∀ status contentType body,
      (v.reply status contentType body).linger.line? = some head →
      (v.reply status contentType body).linger.final.status = Exchange.lineStatus head :=
    fun status contentType body hline =>
      Visit.status_linger ((Visit.ending_reply v status contentType body).trans hopen)
        (Visit.reply_settled hv hhead status contentType body) hline
  dsimp only at h ⊢
  rcases accept_cases s m i.around.wallClock i.request (targetPath i.request.target) v with
    ⟨howned, ⟨failure, -, haccept⟩ | ⟨endpoint, reply, -, haccept⟩⟩ |
      ⟨howned, ⟨route, params, hroute, haccept⟩ | ⟨hroute, haccept⟩⟩
  · rw [haccept] at h ⊢
    rw [howned]
    exact Visit.status_linger (v := v.abort failure) hopen
      (hv.keeps (Exchange.abort_keeps v.exchange)) h
  · rw [haccept] at h ⊢
    rw [howned]
    exact hreplies _ _ _ h
  · rw [haccept] at h ⊢
    rw [howned]
    dsimp only
    rw [hroute]
    exact Visit.status_perform hopen hv route.actions h
  · rw [haccept] at h ⊢
    rw [howned]
    dsimp only
    rw [hroute]
    exact hreplies _ _ _ h

end Server

/-- A request whose client gets its response to the end is recorded with the last status that its
handler gave after the head was sent, and with the status of the response where there was none. The
class, the errors and the alerts then see the response that the client got. -/
theorem recorded_status (s : Server) (m : Monitor) (i : Incoming) {head : Head}
    (h : (s.visit m i).line? = some head) :
    ∃ c, s.arrive m i = m.call c ∧
      c.observation.statusCode = (s.lateStatus? m i).getD (Exchange.lineStatus head) ∧
      (s.lateStatus? m i = none →
        c.tally.statusClass = Metric.statusClass (Exchange.lineStatus head) ∧
        c.tally.isError = Metric.isServerError (Exchange.lineStatus head)) := by
  obtain ⟨c, hcall, hstatus⟩ := s.arrive_status m i
  rw [s.final_status m i h] at hstatus
  refine ⟨c, hcall, hstatus, fun hnone => ?_⟩
  rw [hnone, Option.getD_none] at hstatus
  rw [← hstatus]
  exact ⟨rfl, rfl⟩

/-- A server whose first route fails before its head is sent, and whose second one gives a status
after its head. -/
def streamingServer : Server where
  endpoints := { healthPath := some "/health", allowUnauthenticated := true, authToken := "" }
  perfLogEnabled := false
  requestIdHeaderEnabled := true
  slowQueryMs := Number.ofNat 100
  routes :=
    [{ method := "get", pattern := "/early"
       actions := [.status (.ofNat 204), .fail (.plain "no rows"), .status (.ofNat 200)] },
     { method := "get", pattern := "/late"
       actions := [.write (.text "a"), .status (.ofNat 503), .finish (.text "b")] }]

def streamingVisit (target : String) : Incoming :=
  ⟨⟨.ok 5, .ok 5, .calm, "0a1b2c3d4e5f"⟩, 5, { method := some "GET", target := some target }⟩

theorem recorded_status_of_early_failure :
    let m := Monitor.start (Settings.Observability.resolve .absent) 0
    let i := streamingVisit "/early"
    (streamingServer.visit m i).line? = some ⟨500, true⟩ ∧
      ∃ c, streamingServer.arrive m i = m.call c ∧ c.tally.statusClass = "5xx" ∧
        c.tally.isError = true := by
  intro m i
  have hline : (streamingServer.visit m i).line? = some ⟨500, true⟩ := by decide +kernel
  have hlate : streamingServer.lateStatus? m i = none :=
    Option.isNone_iff_eq_none.mp (by decide +kernel)
  obtain ⟨c, hcall, -, hclass⟩ := recorded_status streamingServer m i hline
  obtain ⟨hstatus, herror⟩ := hclass hlate
  exact ⟨hline, c, hcall, hstatus.trans (by decide +kernel), herror.trans (by decide +kernel)⟩

/-- The client gets a complete response with the status 200, and the request is counted as a server
error. -/
theorem late_status_counts_as_error :
    let m := Monitor.start (Settings.Observability.resolve .absent) 0
    let i := streamingVisit "/late"
    (streamingServer.visit m i).line? = some ⟨200, true⟩ ∧
      (streamingServer.visit m i).exchange.body = "ab" ∧
      (streamingServer.arrive m i).store.counter Monitor.requestsTotal ["GET", "/late", "2xx"] = 0 ∧
      (streamingServer.arrive m i).store.counter Monitor.requestsTotal ["GET", "/late", "5xx"] = 1 ∧
      (streamingServer.arrive m i).store.counter Monitor.requestErrorsTotal ["GET", "/late"] = 1 ∧
      (streamingServer.arrive m i).window.samples.map (·.isError) = [true] := by
  decide +kernel

end Telemetry.Web
