import Telemetry.Proofs.Monitor.Independence
import Telemetry.Proofs.Web.Progress

/-! # Handlers that fail

An action that fails ends its handler: what the handler did before is kept, as far as it can be, and
the exchange is ended with an error. What the client gets is decided by whether the actions before
the failure wrote or ended, and by how they framed the body. Of the failure itself only the
observation of the request remains.
-/
namespace Telemetry.Web

section Aborting

namespace Exchange

variable {e : Exchange} {head : Head}

theorem abort_of_ended (hended : e.ended = true) : e.abort = e := if_pos hended

theorem abort_of_sent (hhead : e.head = some head) (hopen : e.ended = false) :
    e.abort = { e with body := e.body ++ errorBody, ended := true } := by
  have hsent : e.headSent = true := by rw [headSent, hhead, Option.isSome_some]
  rw [abort, if_neg (by rw [hopen]; decide), if_pos hsent]
  rw [finishWithError, finish, if_neg (by rw [hopen]; decide), sendHead, if_pos hsent]
  rfl

theorem abort_of_unsent (hhead : e.head = none) (hopen : e.ended = false)
    (hfits : e.trailersFit ⟨500, !e.headOnly⟩ = true) :
    e.abort = { e with
      status := .ofNat 500
      headers := putHeader e.headers "content-type" (.text "application/json")
      head := some ⟨500, !e.headOnly⟩
      body := e.body ++ errorBody
      ended := true } := by
  let named : Exchange :=
    { e with
      status := .ofNat 500
      headers := putHeader e.headers "content-type" (.text "application/json") }
  have hcode : statusCode (.ofNat 500) = 500 := by decide +kernel
  have hbody : (!e.headOnly && statusHasBody 500) = !e.headOnly := Bool.and_true _
  have hframing : named.framing = e.framing := filter_putHeader (by decide) _ _
  have hfinish := finish_of_code (e := named) hhead hopen hcode (by decide)
    (by rw [hbody, trailersFit_congr hframing, hfits]) errorBody
  rw [abort, if_neg (by rw [hopen]; decide), if_neg (by rw [headSent, hhead]; decide)]
  rw [finishWithError, hfinish]
  dsimp only
  rw [hbody]
  rfl

theorem headers_finishWithError (e : Exchange) : e.finishWithError.headers = e.headers := by
  unfold finishWithError
  split
  · exact (says_finish ‹_›).frame.1
  · exact (complain_frame e _).1

/-- An error changes no header but its own type. -/
theorem headers_abort (e : Exchange) : e.abort.headers = e.headers ∨
    ∃ value, e.abort.headers = putHeader e.headers "content-type" value := by
  unfold abort
  split
  · exact .inl rfl
  · split
    · exact .inl e.headers_finishWithError
    · exact .inr ⟨_, headers_finishWithError _⟩

/-- Whether an error can be sent: either the head was, or the trailers that are announced fit. -/
def Answerable (e : Exchange) : Prop :=
  e.headSent = true ∨ e.trailersFit ⟨500, !e.headOnly⟩ = true

/-- The error ends the exchange, and leaves no error that nobody listens to. -/
theorem Answerable.abort (h : Answerable e) (hheads : e.ended = true → e.headSent = true) :
    e.abort.ended = true ∧ e.abort.headSent = true ∧ e.abort.faults = e.faults := by
  cases hended : e.ended with
  | true =>
    rw [abort_of_ended hended]
    exact ⟨hended, hheads hended, rfl⟩
  | false =>
    cases hhead : e.head with
    | some head =>
      rw [abort_of_sent hhead hended]
      exact ⟨rfl, by rw [headSent, hhead]; rfl, rfl⟩
    | none =>
      have hfits := h.resolve_left (by rw [headSent, hhead]; decide)
      rw [abort_of_unsent hhead hended hfits]
      exact ⟨rfl, rfl, rfl⟩

variable {actions : List Action}

theorem Made.unsent (h : Made actions e) (hsends : actions.any Action.sends = false) :
    e.head = none ∧ e.ended = false := by
  have hsent : e.headSent = false := h.sent.trans hsends
  refine ⟨Option.not_isSome_iff_eq_none.mp (Bool.eq_false_iff.mp hsent), ?_⟩
  by_contra hended
  have hlate := h.headSent_of_ended (by simpa using hended)
  exact Bool.false_ne_true (hsent.symm.trans hlate)

end Exchange

section Receipts

variable {e : Exchange} {gone : Bool} {r : Response}

end Receipts

variable {v : Visit}

/-- An exchange that is aborted while its client is there is over as it stands. -/
theorem Visit.linger_abort (hgone : v.gone = false) (failure : Failure) :
    (v.abort failure).linger.exchange.faults = v.exchange.abort.faults ∧
      (v.abort failure).linger.exchange.ended = v.exchange.abort.ended ∧
      (v.abort failure).linger.exchange.head = v.exchange.abort.head ∧
      (v.exchange.abort.ended = true → (v.abort failure).linger.gone = false ∧
        (v.abort failure).linger.exchange.response? false =
          v.exchange.abort.response? false) := by
  cases hending : v.ending with
  | none =>
    rw [linger_of_open (v := v.abort failure) hending]
    refine ⟨rfl, rfl, rfl, fun hended => ⟨?_, rfl⟩⟩
    change (v.gone || !v.exchange.abort.ended) = false
    rw [hgone, hended]
    rfl
  | some ending =>
    rw [linger_of_over (v := v.abort failure) hending]
    exact ⟨rfl, rfl, rfl, fun _ => ⟨hgone, rfl⟩⟩

end Aborting

namespace Visit

variable {params : Parameters} {v next : Visit} {failure : Failure} {action : Action}
variable {before rest : List Action}

/-- A handler whose action fails behind others that go through is aborted there. -/
theorem perform_of_failure (h : before.foldlM (act params) v = .ok next)
    (hfails : next.act params action = .error failure) :
    v.perform params (before ++ action :: rest) = next.abort failure := by
  induction before generalizing v with
  | nil =>
    cases h
    rw [List.nil_append, perform, hfails]
  | cons first before ih =>
    obtain ⟨middle, hact, hrest⟩ := bind_eq_ok h
    rw [List.cons_append, perform, hact]
    exact ih hrest

end Visit

namespace Server

variable (s : Server) (m : Monitor) (i : Incoming)

/-- The handler of a request fails behind some actions that went through, while its client is there
and waits for a body. -/
structure Fails (s : Server) (m : Monitor) (i : Incoming) (before : List Action) (v : Visit)
    (failure : Failure) : Prop where
  unowned : ownedPath? s.endpoints m (i.request.method.getD "")
    (targetPath i.request.target) = none
  handled : ∃ route params action rest,
    findRoute? i.request.method (targetPath i.request.target) s.routes = some (route, params) ∧
    route.actions = before ++ action :: rest ∧
    before.foldlM (Visit.act params) (s.enter i.around.fresh i.now i.request) = .ok v ∧
    v.act params action = .error failure
  present : v.gone = false
  bodied : i.request.method ≠ some "HEAD"

variable {s m i} {before : List Action} {v : Visit} {failure : Failure}

theorem Fails.visit_eq (h : Fails s m i before v failure) :
    s.visit m i = (v.abort failure).linger := by
  obtain ⟨route, params, action, rest, hroute, hactions, hbefore, hfails⟩ := h.handled
  unfold visit dispatch accept
  dsimp only
  rw [h.unowned]
  dsimp only
  rw [hroute]
  dsimp only
  rw [hactions, Visit.perform_of_failure hbefore hfails]

theorem Fails.made (h : Fails s m i before v failure) :
    Exchange.Made before v.exchange ∧ Exchange.Tame before v.exchange ∧ v.Quiet := by
  obtain ⟨route, params, action, rest, -, -, hbefore, -⟩ := h.handled
  have hfull : (s.enter i.around.fresh i.now i.request).exchange.headOnly = false :=
    beq_eq_false_iff_ne.mpr h.bodied
  have hstart : Exchange.Made [] (s.enter i.around.fresh i.now i.request).exchange :=
    ⟨rfl, rfl, fun _ => rfl, fun _ hnone => absurd hnone nofun, hfull⟩
  have htame : Exchange.Tame [] (s.enter i.around.fresh i.now i.request).exchange :=
    ⟨fun _ => s.framing_enter _ _ _, fun _ => rfl, fun _ => rfl, fun _ => nofun⟩
  exact Visit.made_of_actions hbefore hstart htame ⟨rfl, nofun⟩

theorem Fails.faults (h : Fails s m i before v failure) :
    (s.serve i.around m i.now i.request).faults = v.exchange.abort.faults := by
  obtain ⟨hfaults, -⟩ := Visit.linger_abort h.present failure
  rw [← h.visit_eq] at hfaults
  exact hfaults

end Server

end Telemetry.Web
