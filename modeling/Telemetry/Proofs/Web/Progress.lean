import Telemetry.Proofs.Web.Status

/-! # How far a handler has come

The actions of a handler that went through tell what its exchange is: whether the head is sent,
whether it has ended and what was written. A body has a frame of its own only if an action set a
header for that, and an error is left behind only if something was said after the end.
-/
namespace Telemetry.Web

section Actions

/-- The texts that actions write, one behind the other. -/
def written (actions : List Action) : String := String.join (actions.map Action.text)

theorem written_concat (actions : List Action) (action : Action) :
    written (actions ++ [action]) = written actions ++ action.text := by
  simp [written, String.join]

/-- The key of the header that an action sets. -/
def Action.header? : Action → Option String
  | .header name _ => some (Exchange.headerKey name)
  | _ => none

/-- Whether an action sets a header that says where the body ends or what follows it. -/
def Action.frames (action : Action) : Bool :=
  action.header?.any fun key => Exchange.boundaryHeaders.contains key

/-- Whether something is said behind an action that ends. -/
def speaksLate : List Action → Bool
  | [] => false
  | action :: rest => action.ends && rest.any Action.speaks || speaksLate rest

theorem speaksLate_concat (actions : List Action) (action : Action) :
    speaksLate (actions ++ [action]) =
      (speaksLate actions || actions.any Action.ends && action.speaks) := by
  induction actions with
  | nil => simp [speaksLate]
  | cons first rest ih =>
    simp only [List.cons_append, speaksLate, ih, List.any_append, List.any_cons, List.any_nil,
      Bool.or_false]
    cases first.ends <;> cases action.speaks <;> simp

end Actions

namespace Exchange

variable {actions : List Action} {action : Action} {e middle next : Exchange}
variable {speaks ends : Bool} {text : String}

section Texts

/-- What actions that went through have made of an exchange. -/
structure Made (actions : List Action) (e : Exchange) : Prop where
  sent : e.headSent = actions.any Action.sends
  ended : e.ended = actions.any Action.ends
  body : e.ended = false → e.body = written actions
  bodied : ∀ head, e.head = some head → head.hasBody = statusHasBody head.status
  full : e.headOnly = false

theorem Made.headSent_of_ended (h : Made actions e) (hended : e.ended = true) :
    e.headSent = true := by
  rw [h.ended, List.any_eq_true] at hended
  obtain ⟨action, hmem, hends⟩ := hended
  rw [h.sent]
  refine List.any_eq_true.mpr ⟨action, hmem, ?_⟩
  cases action <;> first | rfl | cases hends

theorem Made.concat (h : Made actions e) (hsent : next.headSent = (e.headSent || action.sends))
    (hended : next.ended = (e.ended || action.ends))
    (hbody : next.ended = false → next.body = e.body ++ action.text)
    (hbodied : ∀ head, next.head = some head → head.hasBody = statusHasBody head.status)
    (hfull : next.headOnly = false) : Made (actions ++ [action]) next := by
  refine ⟨?_, ?_, fun hopen => ?_, hbodied, hfull⟩
  · simpa [h.sent] using hsent
  · simpa [h.ended] using hended
  · rw [hended, Bool.or_eq_false_iff] at hopen
    rw [written_concat, ← h.body hopen.1]
    exact hbody (by rw [hended, hopen.1, hopen.2]; rfl)

/-- An action that neither writes nor ends leaves the head, the body and the end alone. -/
theorem Made.keep (h : Made actions e) (hhead : next.head = e.head) (hended : next.ended = e.ended)
    (hbody : next.body = e.body) (hfull : next.headOnly = e.headOnly)
    (hsends : action.sends = false) : Made (actions ++ [action]) next := by
  refine h.concat ?_ ?_ (fun _ => ?_) (fun head hsome => h.bodied head (hhead ▸ hsome)) ?_
  · rw [hsends, Bool.or_false, headSent, hhead, headSent]
  · rw [Action.ends_of_silent hsends, Bool.or_false, hended]
  · rw [Action.text_of_silent hsends, String.append_empty, hbody]
  · exact hfull.trans h.full

/-- What is said after the end changes nothing of the response. -/
theorem Made.of_ended (h : Made actions e) (hended : e.ended = true) :
    Made (actions ++ [action]) e := by
  refine h.concat ?_ ?_ (fun hopen => ?_) h.bodied h.full
  · rw [h.headSent_of_ended hended, Bool.true_or]
  · rw [hended, Bool.true_or]
  · exact absurd (hopen.symm.trans hended) Bool.false_ne_true

theorem Made.complain (h : Made actions e) (fault : Failure) : Made actions (e.complain fault) := by
  unfold Exchange.complain
  split
  · exact h
  · exact ⟨h.sent, h.ended, h.body, h.bodied, h.full⟩

theorem Made.sendHead (h : Made actions e) (hsend : e.sendHead = .ok middle) :
    middle.headSent = true ∧ middle.ended = e.ended ∧ middle.body = e.body ∧
      middle.headOnly = false ∧
      ∀ head, middle.head = some head → head.hasBody = statusHasBody head.status := by
  obtain ⟨hsent, rfl⟩ | ⟨-, head, hbody, rfl⟩ := sendHead_cases hsend
  · exact ⟨hsent, rfl, rfl, h.full, h.bodied⟩
  · refine ⟨rfl, rfl, rfl, h.full, fun other hother => ?_⟩
    cases hother
    rw [hbody, h.full, Bool.not_false, Bool.true_and]

theorem Made.says (h : Made actions e) (hsends : action.sends = true)
    (hsaid : Says e next speaks action.ends text)
    (htext : action.ends = false → text = action.text) :
    Made (actions ++ [action]) next := by
  cases hended : e.ended with
  | true =>
    rw [hsaid.late hended]
    split
    · exact (h.of_ended hended).complain _
    · exact h.of_ended hended
  | false =>
    obtain ⟨middle, hsend, rfl⟩ := hsaid.timely hended
    obtain ⟨hsent, -, hbody, hfull, hbodied⟩ := h.sendHead hsend
    refine h.concat ?_ ?_ (fun hopen => ?_) hbodied hfull
    · rw [hsends, Bool.or_true]
      exact hsent
    · rw [hended, Bool.false_or]
    · rw [← htext hopen, ← hbody]

end Texts

section Remains

theorem sendHead_frame (h : e.sendHead = .ok next) :
    next.headers = e.headers ∧ next.closed = e.closed ∧ next.faults = e.faults := by
  obtain ⟨-, rfl⟩ | ⟨-, head, -, rfl⟩ := sendHead_cases h <;> exact ⟨rfl, rfl, rfl⟩

theorem complain_frame (e : Exchange) (fault : Failure) :
    (e.complain fault).headers = e.headers ∧ (e.complain fault).closed = e.closed := by
  unfold complain
  split <;> exact ⟨rfl, rfl⟩

/-- What is said keeps the headers and the connection. -/
theorem Says.frame (h : Says e next speaks ends text) :
    next.headers = e.headers ∧ next.closed = e.closed := by
  cases hended : e.ended with
  | true =>
    rw [h.late hended]
    split
    · exact complain_frame e _
    · exact ⟨rfl, rfl⟩
  | false =>
    obtain ⟨middle, hsend, rfl⟩ := h.timely hended
    obtain ⟨hheaders, hclosed, -⟩ := sendHead_frame hsend
    exact ⟨hheaders, hclosed⟩

/-- What is said after the end is an error that nobody listens to, while the connection is open. -/
theorem Says.faults (h : Says e next speaks ends text) :
    next.faults =
      if e.ended && speaks && !e.closed then e.faults ++ [writeAfterEnd] else e.faults := by
  cases hended : e.ended with
  | true =>
    rw [h.late hended, complain]
    cases speaks <;> cases hclosed : e.closed <;> simp
  | false =>
    obtain ⟨middle, hsend, rfl⟩ := h.timely hended
    exact (sendHead_frame hsend).2.2

/-- A header that is put leaves those of other names as they are. -/
theorem filter_putHeader {p : String → Bool} {name : String} (h : p name = false)
    (headers : List (String × Datum)) (value : Datum) :
    (putHeader headers name value).filter (fun header => p header.1) =
      headers.filter fun header => p header.1 := by
  unfold putHeader
  split
  · -- a header that is replaced has the same name before and after
    rw [List.filter_map]
    have hsame : ∀ header : String × Datum,
        p (if header.1 == name then (name, value) else header).1 = p header.1 := by
      intro header
      split
      · rename_i hkey
        rw [beq_iff_eq.mp hkey]
      · rfl
    simp only [Function.comp_def, hsame]
    refine (List.map_congr_left fun header hmem => if_neg fun hkey => ?_).trans (List.map_id _)
    have hother := (List.mem_filter.mp hmem).2
    rw [beq_iff_eq.mp hkey, h] at hother
    cases hother
  · simp [h]

/-- What actions leave behind beside the response. There is no frame without a header for it, and
while the connection is open there are errors exactly if something was said too late. -/
structure Tame (actions : List Action) (e : Exchange) : Prop where
  unframed : actions.any Action.frames = false → e.framing = []
  attended : actions.any Action.isLinger = false → e.closed = false
  silent : speaksLate actions = false → e.faults = []
  loud : e.closed = false → speaksLate actions = true → e.faults ≠ []

theorem Tame.concat (h : Tame actions e)
    (hheaders : action.frames = false → next.framing = e.framing)
    (hclosed : next.closed = e.closed ∨ action.isLinger = true ∧ next.closed = true)
    (hfaults : next.faults =
      if actions.any Action.ends && action.speaks && !e.closed then e.faults ++ [writeAfterEnd]
      else e.faults) :
    Tame (actions ++ [action]) next := by
  refine ⟨fun hframes => ?_, fun hlinger => ?_, fun hlate => ?_, fun hopen hlate => ?_⟩
  · rw [List.any_append, Bool.or_eq_false_iff] at hframes
    rw [hheaders (by simpa using hframes.2), h.unframed hframes.1]
  · rw [List.any_append, Bool.or_eq_false_iff] at hlinger
    rcases hclosed with hsame | ⟨hwaits, -⟩
    · rw [hsame, h.attended hlinger.1]
    · simp [hwaits] at hlinger
  · rw [speaksLate_concat, Bool.or_eq_false_iff] at hlate
    rw [hfaults, hlate.2, h.silent hlate.1]
    rfl
  · have hstill : e.closed = false := by
      rcases hclosed with hsame | ⟨-, hnow⟩
      · rw [← hsame, hopen]
      · rw [hopen] at hnow
        cases hnow
    rw [speaksLate_concat, Bool.or_eq_true] at hlate
    rw [hfaults]
    rcases hlate with hbefore | hnow
    · split
      · simp
      · exact h.loud hstill hbefore
    · simp [hnow, hstill]

/-- An action that says nothing leaves no error. -/
theorem Tame.keep (h : Tame actions e)
    (hheaders : action.frames = false → next.framing = e.framing)
    (hclosed : next.closed = e.closed ∨ action.isLinger = true ∧ next.closed = true)
    (hfaults : next.faults = e.faults) (hsends : action.sends = false) :
    Tame (actions ++ [action]) next := by
  refine h.concat hheaders hclosed ?_
  rw [Action.speaks_of_silent hsends, Bool.and_false, Bool.false_and, hfaults]
  rfl

end Remains

end Exchange

namespace Visit

open Exchange (Made Tame)

variable {params : Parameters} {v next : Visit} {action : Action} {actions before : List Action}

theorem act_made (h : v.act params action = .ok next) (hv : Made actions v.exchange) :
    Made (actions ++ [action]) next.exchange := by
  cases act_moves h with
  | said hsends hsaid htext => exact hv.says hsends hsaid htext
  | still hsends hexchange =>
    rw [hexchange]
    exact hv.keep rfl rfl rfl rfl hsends
  | status haction hexchange =>
    rw [hexchange, haction]
    exact hv.keep rfl rfl rfl rfl rfl
  | header haction hexchange =>
    rw [hexchange, haction]
    exact hv.keep rfl rfl rfl rfl rfl
  | closed haction hexchange =>
    rw [hexchange, haction]
    exact hv.keep rfl rfl rfl rfl rfl

theorem act_tame (h : v.act params action = .ok next) (hmade : Made actions v.exchange)
    (hv : Tame actions v.exchange) : Tame (actions ++ [action]) next.exchange := by
  cases act_moves h with
  | said hsends hsaid htext =>
    obtain ⟨hheaders, hclosed⟩ := hsaid.frame
    refine hv.concat (fun _ => ?_) (.inl hclosed) ?_
    · rw [Exchange.framing, Exchange.framing, hheaders]
    · rw [← hmade.ended, hsaid.faults]
  | still hsends hexchange =>
    rw [hexchange]
    exact hv.keep (fun _ => rfl) (.inl rfl) rfl hsends
  | status haction hexchange =>
    rw [hexchange, haction]
    exact hv.keep (fun _ => rfl) (.inl rfl) rfl rfl
  | header haction hexchange =>
    rw [hexchange, haction]
    exact hv.keep (fun hframes => Exchange.filter_putHeader hframes _ _) (.inl rfl) rfl rfl
  | closed haction hexchange =>
    rw [hexchange, haction]
    exact hv.keep (fun _ => rfl) (.inr ⟨rfl, rfl⟩) rfl rfl

/-- Nothing has been logged so far. -/
structure Quiet (v : Visit) : Prop where
  present : v.logs = []
  past : ∀ e, v.ending = some e → e.logs = []

theorem act_quiet (h : v.act params action = .ok next) (hv : v.Quiet) : next.Quiet := by
  cases hlinger : action.isLinger with
  | false =>
    obtain ⟨hending, hlogs, -⟩ := act_frame h hlinger
    exact ⟨hlogs.trans hv.present, fun e he => hv.past e (hending ▸ he)⟩
  | true =>
    cases action with
    | linger =>
      cases h
      obtain hopen | ⟨ending, hover⟩ := Option.eq_none_or_eq_some v.ending
      · rw [linger_of_open hopen]
        refine ⟨rfl, fun e he => ?_⟩
        cases he
        exact hv.present
      · rw [linger_of_over hover]
        exact hv
    | _ => cases hlinger

/-- Actions that go through make an exchange of which all of them are known. -/
theorem made_of_actions (h : before.foldlM (act params) v = .ok next)
    (hv : Made actions v.exchange) (htame : Tame actions v.exchange) (hquiet : v.Quiet) :
    Made (actions ++ before) next.exchange ∧ Tame (actions ++ before) next.exchange ∧
      next.Quiet := by
  induction before generalizing actions v with
  | nil =>
    cases h
    rw [List.append_nil]
    exact ⟨hv, htame, hquiet⟩
  | cons action rest ih =>
    obtain ⟨middle, hact, hrest⟩ := bind_eq_ok h
    have hall := ih hrest (act_made hact hv) (act_tame hact hv htame) (act_quiet hact hquiet)
    rwa [List.append_assoc] at hall

end Visit

/-- A request arrives without a frame for the body of its response. -/
theorem Server.framing_enter (s : Server) (fresh : String) (now : Number) (r : Request) :
    (s.enter fresh now r).exchange.framing = [] := by
  unfold enter Exchange.framing
  dsimp only
  split <;> rfl

end Telemetry.Web
