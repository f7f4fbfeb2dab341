import Telemetry.Proofs.Web.Recording

/-! # What actions do to an exchange

An action either says something to the client, which sends the head and may come too late, or it
changes one thing: the status, a header, or that the connection is closed. Whatever is kept by all
of these is kept by a handler.
-/
namespace Telemetry.Web

section Actions

/-- Whether an action writes to the response or ends it, so that the head is sent. -/
def Action.sends : Action → Bool
  | .write _ => true
  | .finish _ => true
  | .parameters => true
  | .context => true
  | _ => false

def Action.ends : Action → Bool
  | .finish _ => true
  | .parameters => true
  | .context => true
  | _ => false

/-- Whether an action has something to say, be it too late. -/
def Action.speaks : Action → Bool
  | .write (.text _) => true
  | .finish chunk => chunk.isTrue
  | .parameters => true
  | .context => true
  | _ => false

/-- The text that an action writes without ending the response. -/
def Action.text : Action → String
  | .write (.text text) => text
  | _ => ""

theorem Action.ends_of_silent {action : Action} (h : action.sends = false) :
    action.ends = false := by
  cases action <;> first | rfl | cases h

theorem Action.text_of_silent {action : Action} (h : action.sends = false) :
    action.text = "" := by
  cases action <;> first | rfl | cases h

theorem Action.speaks_of_silent {action : Action} (h : action.sends = false) :
    action.speaks = false := by
  cases action <;> first | rfl | cases h

end Actions

namespace Exchange

/-- The key under which a header is kept. -/
def headerKey (name : Datum) : String := String.ofList (name.plain.toList.map Char.toLower)

variable {e next : Exchange}

theorem setHeader_headers {header value : Datum} (h : e.setHeader header value = .ok next) :
    next = { e with headers := putHeader e.headers (headerKey header) value } := by
  unfold setHeader at h
  split at h
  · cases h
  · split at h
    · cases h
    · split at h
      · cases h
      · split at h
        · cases h
        · exact (Except.ok.inj h).symm

/-- What comes of writing or ending. After the end it is an error if there was something to say,
else nothing; before, the head is sent and the text follows. -/
structure Says (e next : Exchange) (speaks ends : Bool) (text : String) : Prop where
  late : e.ended = true → next = if speaks then e.complain writeAfterEnd else e
  timely : e.ended = false → ∃ middle, e.sendHead = .ok middle ∧
    next = { middle with body := middle.body ++ text, ended := ends }

/-- A head is sent once, with the status of that time. -/
theorem sendHead_cases (h : e.sendHead = .ok next) :
    (e.headSent = true ∧ next = e) ∨ e.head = none ∧ ∃ head : Head,
      head.hasBody = (!e.headOnly && statusHasBody head.status) ∧
        next = { e with status := .number (Number.ofInt head.status), head := some head } := by
  unfold sendHead at h
  split at h
  · cases h
    exact .inl ⟨‹_›, rfl⟩
  · rename_i hunsent
    have hnone : e.head = none := Option.not_isSome_iff_eq_none.mp hunsent
    dsimp only at h
    split at h
    · cases h
    · split at h
      · cases h
      · cases h
        exact .inr ⟨hnone, ⟨statusCode e.status, _⟩, rfl, rfl⟩

theorem trailersFit_congr (h : e.framing = next.framing) (head : Head) :
    e.trailersFit head = next.trailersFit head := by
  unfold trailersFit
  rw [h]

/-- Where a handler frames nothing itself, no trailer is announced. -/
theorem trailersFit_of_unframed (h : e.framing = []) (head : Head) : e.trailersFit head = true := by
  unfold trailersFit
  rw [h]
  rfl

/-- A status of three digits is settled with the head where the trailers fit. -/
theorem sendHead_of_code (hhead : e.head = none) {code : Int} (hcode : statusCode e.status = code)
    (hrange : 100 ≤ code ∧ code ≤ 999)
    (hfits : e.trailersFit ⟨code, !e.headOnly && statusHasBody code⟩ = true) :
    e.sendHead = .ok { e with
      status := .number (Number.ofInt code)
      head := some ⟨code, !e.headOnly && statusHasBody code⟩ } := by
  have hunsent : e.headSent = false := by rw [headSent, hhead, Option.isSome_none]
  unfold sendHead
  rw [hunsent, if_neg Bool.false_ne_true, hcode]
  dsimp only
  rw [if_neg (by omega), hfits]
  rfl

/-- Ending an exchange sends its head, if that is not done. -/
theorem finish_of_code (hhead : e.head = none) (hopen : e.ended = false) {code : Int}
    (hcode : statusCode e.status = code) (hrange : 100 ≤ code ∧ code ≤ 999)
    (hfits : e.trailersFit ⟨code, !e.headOnly && statusHasBody code⟩ = true) (text : String) :
    e.finish (some text) = .ok { e with
      status := .number (Number.ofInt code)
      head := some ⟨code, !e.headOnly && statusHasBody code⟩
      body := e.body ++ text
      ended := true } := by
  unfold finish
  rw [hopen, if_neg Bool.false_ne_true, sendHead_of_code hhead hcode hrange hfits]
  rfl

variable {speaks ends : Bool} {text : String}

theorem says_writeText (h : e.writeText text = .ok next) : Says e next true false text := by
  unfold writeText at h
  split at h
  · rename_i hended
    cases h
    exact ⟨fun _ => rfl, fun hopen => absurd (hopen.symm.trans hended) nofun⟩
  · rename_i hopen
    refine ⟨fun hended => absurd hended hopen, fun hopen => ?_⟩
    cases hsend : e.sendHead with
    | error failure => simp [hsend, Except.map] at h
    | ok middle =>
      rw [hsend] at h
      cases h
      have hended : middle.ended = false := by
        obtain ⟨-, rfl⟩ | ⟨-, head, -, rfl⟩ := sendHead_cases hsend <;> exact hopen
      refine ⟨middle, rfl, ?_⟩
      rw [← hended]

theorem says_finish {last : Option String} (h : e.finish last = .ok next) :
    Says e next (last.getD "" != "") true (last.getD "") := by
  unfold finish at h
  split at h
  · rename_i hended
    refine ⟨fun _ => ?_, fun hopen => absurd (hopen.symm.trans hended) nofun⟩
    cases h
    by_cases hempty : last.getD "" = "" <;> simp [hempty]
  · rename_i hopen
    refine ⟨fun hended => absurd hended hopen, fun _ => ?_⟩
    cases hsend : e.sendHead with
    | error failure => simp [hsend, Except.map] at h
    | ok middle =>
      rw [hsend] at h
      cases h
      exact ⟨middle, rfl, rfl⟩

theorem says_text (htext : text ≠ "") (h : e.finish (some text) = .ok next) :
    Says e next true true text := by
  have htrue : ((some text).getD "" != "") = true := by simpa using htext
  exact htrue ▸ says_finish h

theorem says_write {chunk : Datum} (h : e.write chunk = .ok next) :
    ∃ text, chunk = .text text ∧ Says e next true false text := by
  unfold write at h
  split at h
  · exact ⟨_, rfl, says_writeText h⟩
  · cases h

theorem says_finishWith {chunk : Datum} (h : e.finishWith chunk = .ok next) :
    ∃ text, Says e next chunk.isTrue true text := by
  unfold finishWith at h
  split at h
  · rename_i text
    have htrue : (Datum.text text).isTrue = (text != "") := by
      rw [Bool.eq_iff_iff, Datum.isTrue, Bool.not_eq_true', ← Bool.not_eq_true, String.isEmpty_iff,
        bne_iff_ne]
    exact ⟨text, htrue ▸ says_finish h⟩
  · split at h
    · rename_i hfalse
      have hnone : chunk.isTrue = ((none : Option String).getD "" != "") := by simpa using hfalse
      exact ⟨_, hnone ▸ says_finish h⟩
    · rename_i htrue
      split at h
      · rename_i hended
        cases h
        have htrue : chunk.isTrue = true := by simpa using htrue
        refine ⟨"", fun _ => (if_pos htrue).symm, fun hopen => ?_⟩
        exact absurd (hopen.symm.trans hended) nofun
      · cases h

end Exchange

open Exchange (Says)

/-- What an action that went through has done to an exchange. -/
inductive Moves (action : Action) (e next : Exchange) : Prop where
  | said {text : String} (hsends : action.sends = true)
      (hsaid : Says e next action.speaks action.ends text)
      (htext : action.ends = false → text = action.text)
  | still (hsends : action.sends = false) (hexchange : next = e)
  | status {code : Datum} (haction : action = .status code) (hexchange : next = e.setStatus code)
  | header {name value : Datum} (haction : action = .header name value)
      (hexchange : next =
        { e with headers := Exchange.putHeader e.headers (Exchange.headerKey name) value })
  | closed (haction : action = .linger) (hexchange : next = e.close)

namespace Visit

variable {params : Parameters} {v next : Visit} {action : Action}

theorem exchange_withExchange {e : Except Failure Exchange} (h : v.withExchange e = .ok next) :
    e = .ok next.exchange := by
  cases e with
  | error failure => cases h
  | ok exchange =>
    cases h
    rfl

/-- The text of a list has its brackets. -/
theorem write_list_ne (items : List Datum) : Json.write (.list items) ≠ "" := by
  intro hempty
  have hchars := congrArg String.toList hempty
  rw [Json.write, Json.writeChars, Json.enclose, String.toList_ofList] at hchars
  split at hchars <;> cases hchars

theorem act_moves (h : v.act params action = .ok next) :
    Moves action v.exchange next.exchange := by
  cases action with
  | call c =>
    cases h
    exact .still rfl rfl
  | status code =>
    cases h
    exact .status rfl rfl
  | header name value => exact .header rfl (Exchange.setHeader_headers (exchange_withExchange h))
  | write chunk =>
    obtain ⟨text, rfl, hsaid⟩ := Exchange.says_write (exchange_withExchange h)
    exact .said rfl hsaid fun _ => rfl
  | finish chunk =>
    obtain ⟨text, hsaid⟩ := Exchange.says_finishWith (exchange_withExchange h)
    exact .said rfl hsaid nofun
  | parameters =>
    exact .said rfl (Exchange.says_text (write_list_ne _) (exchange_withExchange h)) nofun
  | context =>
    exact .said rfl (Exchange.says_text (write_list_ne _) (exchange_withExchange h)) nofun
  | advance ms =>
    cases h
    exact .still rfl rfl
  | pause =>
    cases h
    exact .still rfl rfl
  | fail failure => cases h
  | disconnect =>
    cases h
    exact .still rfl rfl
  | linger =>
    cases h
    obtain hopen | ⟨e, hover⟩ := Option.eq_none_or_eq_some v.ending
    · rw [linger_of_open hopen]
      exact .closed rfl rfl
    · rw [linger_of_over hover]
      exact .still rfl rfl

end Visit

end Telemetry.Web
