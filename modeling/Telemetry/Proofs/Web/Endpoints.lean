import Telemetry.Web.Endpoint

/-! # What the endpoints answer

A read of a path belongs to at most one endpoint, and that endpoint answers it. Without open access
the exposition shows itself only to requests that carry the token. Every other request gets one and
the same answer, which tells nothing of the monitor and nothing of what was offered.
-/
namespace Telemetry.Web
open Telemetry.Metric (Reading)
open Endpoint (isRead bodyFor isAuthorized bearerToken? notFound)

section Owners

variable (s : EndpointSettings) (m : Monitor)

/-- The endpoint that takes a request. The health endpoint comes first. -/
def owner? (method path : String) : Option Endpoint :=
  if !isRead method then none
  else if some path = s.healthPath then some .health
  else if m.settings.prometheusEnabled && path == m.settings.prometheusPath then some .exposition
  else none

/-- What an endpoint answers, together with its name. -/
def answered (wallClock : Reading) (method : String) (headers : Headers) (endpoint : Endpoint) :
    Except Failure (Option (Endpoint × Reply)) :=
  (endpoint.answer s m wallClock method headers).map fun reply => some (endpoint, reply)

/-- The endpoint that takes a request answers it, and no other one is asked. -/
theorem handle_eq (wallClock : Reading) (method path : String) (headers : Headers) :
    handle s m wallClock method path headers =
      match owner? s m method path with
      | some endpoint => answered s m wallClock method headers endpoint
      | none => .ok none := by
  rw [handle, endpoints, handle.ask, owner?]
  by_cases hread : isRead method = true
  · rw [if_neg (by simp [hread] : ¬(!isRead method) = true)]
    by_cases hhealth : some path = s.healthPath
    · rw [if_pos ⟨hhealth, hread⟩, if_pos hhealth]
      rfl
    · rw [if_neg fun h => hhealth h.1, if_neg hhealth]
      by_cases hon : m.settings.prometheusEnabled = true
      · rw [if_pos hon, handle.ask, handle.ask, hon, Bool.true_and]
        by_cases hpath : path = m.settings.prometheusPath
        · rw [if_pos ⟨congrArg some hpath, hread⟩, if_pos (beq_iff_eq.mpr hpath)]
          rfl
        · rw [if_neg fun h => hpath (Option.some.inj h.1), if_neg (by simpa using hpath)]
      · rw [if_neg hon, handle.ask, if_neg (by simp [hon])]
  · have hask : ∀ rest : List Endpoint,
        handle.ask s m wallClock method path headers rest = .ok none := by
      intro rest
      induction rest with
      | nil => rfl
      | cons endpoint rest ih => rw [handle.ask, if_neg fun h => hread h.2, ih]
    rw [if_neg fun h => hread h.2, hask, if_pos (by simp [hread])]

variable {s m}

theorem owner?_eq_health_iff {method path : String} (hread : isRead method = true) :
    owner? s m method path = some .health ↔ s.healthPath = some path := by
  rw [owner?, if_neg (by simp [hread])]
  constructor
  · intro h
    split at h
    · rename_i hpath
      exact hpath.symm
    · split at h <;> cases h
  · intro h
    rw [if_pos h.symm]

theorem owner?_eq_exposition_iff {method path : String} (hread : isRead method = true) :
    owner? s m method path = some .exposition ↔ s.healthPath ≠ some path ∧
      m.settings.prometheusEnabled = true ∧ path = m.settings.prometheusPath := by
  rw [owner?, if_neg (by simp [hread])]
  constructor
  · intro h
    split at h
    · cases h
    · rename_i hhealth
      split at h
      · rename_i howned
        rw [Bool.and_eq_true, beq_iff_eq] at howned
        exact ⟨fun he => hhealth he.symm, howned⟩
      · cases h
  · rintro ⟨hhealth, hon, hpath⟩
    rw [if_neg fun he => hhealth he.symm, if_pos (by simp [hon, hpath])]

end Owners

section Guard

/-- The first value of a header without the blanks around it; empty where none was sent. -/
def Headers.offered (headers : Headers) (name : String) : String :=
  Text.trim ((headers.first? name).getD "")

/-- The text begins with the bearer scheme in any case, and without blanks the rest is the token. -/
def IsBearer (text token : String) : Prop :=
  ∃ scheme rest, text.toList = scheme ++ rest ∧ scheme.map Char.toLower = "bearer ".toList ∧
    Text.trim (String.ofList rest) = token

/-- The headers carry the token that is asked for, in one of two ways; an empty token admits
nobody. -/
def Admits (s : EndpointSettings) (headers : Headers) : Prop :=
  Text.trim s.authToken ≠ "" ∧
    (headers.offered "x-tvendor-metrics-token" = Text.trim s.authToken ∨
      IsBearer (headers.offered "authorization") (Text.trim s.authToken))

theorem bearerToken?_eq_some_iff (header token : String) :
    bearerToken? header = some token ↔ IsBearer (Text.trim header) token := by
  have hscheme : "bearer ".toList.length = 7 := rfl
  unfold bearerToken? IsBearer
  rw [Text.toList_trim]
  dsimp only
  constructor
  · intro h
    split at h
    · rename_i hlower
      rw [beq_iff_eq, List.map_take] at hlower
      refine ⟨_, _, (List.take_append_drop 7 _).symm, ?_, ?_⟩
      · rw [List.map_take]
        exact hlower
      · rw [← Option.some.inj h, Text.trim, String.toList_ofList]
    · cases h
  · rintro ⟨scheme, rest, happend, hlower, hrest⟩
    have hlength : scheme.length = 7 := by
      rw [← List.length_map (f := Char.toLower), hlower, hscheme]
    have htake : (scheme ++ rest).take 7 = scheme := List.take_left' hlength
    have hdrop : (scheme ++ rest).drop 7 = rest := List.drop_left' hlength
    rw [happend, htake, hdrop, if_pos (beq_iff_eq.mpr hlower), ← hrest, Text.trim,
      String.toList_ofList]

theorem isAuthorized_iff (s : EndpointSettings) (headers : Headers) :
    isAuthorized s headers = true ↔ Admits s headers := by
  have hempty : (!(Text.trim s.authToken).isEmpty) = true ↔ Text.trim s.authToken ≠ "" := by
    rw [Bool.not_eq_true', ← Bool.not_eq_true, String.isEmpty_iff]
  rw [isAuthorized, Admits, Bool.and_eq_true, Bool.or_eq_true, hempty, beq_iff_eq, beq_iff_eq,
    bearerToken?_eq_some_iff]
  rfl

instance (s : EndpointSettings) (headers : Headers) : Decidable (Admits s headers) :=
  decidable_of_iff _ (isAuthorized_iff s headers)

/-- A response with a text, which `HEAD` does not get. -/
def shown (status : Int) (contentType method text : String) : Reply :=
  { status := status, contentType := contentType, body := if method = "HEAD" then "" else text }

theorem bodyFor_eq (method text : String) :
    bodyFor method text = if method = "HEAD" then "" else text := by
  simp only [bodyFor, beq_iff_eq]

theorem notFound_eq (method : String) :
    notFound method = shown 404 "text/plain; charset=utf-8" method "Not found." := by
  rw [notFound, bodyFor_eq]
  rfl

variable {s : EndpointSettings} {m : Monitor} {method : String}
  (hon : m.settings.prometheusEnabled = true) (hguarded : s.allowUnauthenticated = false)
  (hpath : s.healthPath ≠ some m.settings.prometheusPath) (hread : isRead method = true)
include hon hguarded hpath hread

/-- The exposition shows its text to those whom the token admits, and hides from all others. -/
theorem handle_guarded (wallClock : Reading) (headers : Headers) :
    handle s m wallClock method m.settings.prometheusPath headers =
      if Admits s headers then
        (m.render wallClock).map fun text =>
          some (.exposition, shown 200 "text/plain; version=0.0.4; charset=utf-8" method text)
      else .ok (some (.exposition, shown 404 "text/plain; charset=utf-8" method "Not found.")) := by
  rw [handle_eq, (owner?_eq_exposition_iff hread).mpr ⟨hpath, hon, rfl⟩]
  dsimp only
  rw [answered, Endpoint.answer, hguarded, Bool.false_or]
  by_cases h : Admits s headers
  · rw [if_pos ((isAuthorized_iff s headers).mpr h), if_pos h]
    simp only [bodyFor_eq]
    cases m.render wallClock <;> rfl
  · rw [if_neg fun hauthorized => h ((isAuthorized_iff s headers).mp hauthorized), if_neg h,
      notFound_eq]
    rfl

end Guard

theorem isRead_of_method {method : String} (h : method = "GET" ∨ method = "HEAD") :
    isRead method = true := by
  rcases h with rfl | rfl <;> rfl

/-- Where access is not open, a read of the path of the exposition is answered with status 200 and
the rendered text, of which `HEAD` gets only the head, exactly if the token is not empty and the
headers carry it. Every other read gets the same 404 with `Not found.`: the answer is equal in any
two states of the monitor, at any two readings of the clock and for any two sets of headers that are
turned away. -/
theorem exposition_guarded (s : EndpointSettings) (m : Monitor) (method : String)
    (headers : Headers) (hon : m.settings.prometheusEnabled = true)
    (hguarded : s.allowUnauthenticated = false)
    (hpath : s.healthPath ≠ some m.settings.prometheusPath)
    (hmethod : method = "GET" ∨ method = "HEAD") :
    let path := m.settings.prometheusPath
    let exposition := fun text : String =>
      Reply.mk 200 "text/plain; version=0.0.4; charset=utf-8" (if method = "HEAD" then "" else text)
    let refusal :=
      Reply.mk 404 "text/plain; charset=utf-8" (if method = "HEAD" then "" else "Not found.")
    (∀ wallClock, handle s m wallClock method path headers =
        (m.render wallClock).map (fun text => some (.exposition, exposition text)) ↔
      Admits s headers) ∧
    (∀ now, ∃ text reply, m.render (.ok now) = .ok text ∧
      handle s m (.ok now) method path headers = .ok (some (.exposition, reply)) ∧
      (reply.status = 200 ↔ Admits s headers) ∧ (reply = exposition text ↔ Admits s headers) ∧
      (reply = refusal ↔ ¬ Admits s headers)) ∧
    (¬ Admits s headers → ∀ wallClock,
      handle s m wallClock method path headers = .ok (some (.exposition, refusal)) ∧
      ∀ (n : Monitor) (others : Headers) (later : Reading), n.settings = m.settings →
        ¬ Admits s others →
        handle s n later method path others = handle s m wallClock method path headers) := by
  intro path exposition refusal
  have hread := isRead_of_method hmethod
  have hhandle := handle_guarded hon hguarded hpath hread
  have hstatus : ∀ text, refusal ≠ exposition text := by
    intro text h
    exact absurd (congrArg Reply.status h) (by simp [refusal, exposition])
  refine ⟨fun wallClock => ?_, fun now => ?_, fun hnot wallClock => ?_⟩
  · rw [hhandle]
    by_cases h : Admits s headers
    · rw [if_pos h]
      exact iff_of_true rfl h
    · rw [if_neg h]
      refine iff_of_false (fun heq => ?_) h
      cases hrender : m.render wallClock with
      | error failure =>
        rw [hrender] at heq
        cases heq
      | ok text =>
        rw [hrender] at heq
        cases heq
  · obtain ⟨text, htext⟩ : ∃ text, m.render (.ok now) = .ok text := ⟨_, if_pos hon⟩
    rw [hhandle]
    by_cases h : Admits s headers
    · rw [if_pos h, htext]
      exact ⟨text, exposition text, rfl, rfl, iff_of_true rfl h, iff_of_true rfl h,
        iff_of_false (hstatus text).symm (not_not_intro h)⟩
    · rw [if_neg h]
      exact ⟨text, refusal, htext, rfl, iff_of_false (by simp [refusal]) h,
        iff_of_false (hstatus text) h, iff_of_true rfl h⟩
  · refine ⟨(hhandle wallClock headers).trans (if_neg hnot), fun n others later hn hother => ?_⟩
    have hsame := handle_guarded (m := n) (hn ▸ hon) hguarded (hn ▸ hpath) hread later others
    rw [hn, if_neg hother] at hsame
    rw [hsame, hhandle, if_neg hnot]

/-- A bearer with an odd spelling is let in; another scheme or a part of the token is not. -/
theorem exposition_guarded_of_bearer :
    let s : EndpointSettings :=
      { healthPath := some "/api/health", allowUnauthenticated := false
        authToken := " test-secret " }
    let m := Monitor.start (Settings.Observability.resolve .absent) 0
    let admitted : Headers := [("authorization", .many [" bEaReR   test-secret", "none"])]
    let rejected : Headers :=
      [("authorization", .one "Basic test-secret"), (tokenHeader, .one "test")]
    (m.settings.prometheusEnabled = true ∧ s.allowUnauthenticated = false ∧
      s.healthPath ≠ some m.settings.prometheusPath) ∧
    (∃ text, m.render (.ok 0) = .ok text ∧
      handle s m (.ok 0) "GET" "/api/metrics" admitted =
        .ok (some (.exposition, ⟨200, "text/plain; version=0.0.4; charset=utf-8", text⟩))) ∧
    handle s m (.ok 0) "GET" "/api/metrics" rejected =
      .ok (some (.exposition, ⟨404, "text/plain; charset=utf-8", "Not found."⟩)) := by
  intro s m admitted rejected
  have hon : m.settings.prometheusEnabled = true := by decide +kernel
  have hguarded : s.allowUnauthenticated = false := rfl
  have hpath : s.healthPath ≠ some m.settings.prometheusPath := by decide +kernel
  have howned : m.settings.prometheusPath = "/api/metrics" := by decide +kernel
  have hadmits : Admits s admitted := by decide +kernel
  have hrejects : ¬ Admits s rejected := by decide +kernel
  obtain ⟨-, hshown, -⟩ := exposition_guarded s m "GET" admitted hon hguarded hpath (.inl rfl)
  obtain ⟨-, -, hhidden⟩ := exposition_guarded s m "GET" rejected hon hguarded hpath (.inl rfl)
  obtain ⟨text, reply, htext, hreply, -, hexposed, -⟩ := hshown 0
  rw [howned, hexposed.mpr hadmits] at hreply
  rw [howned] at hhidden
  exact ⟨⟨hon, hguarded, hpath⟩, ⟨text, htext, hreply⟩, (hhidden hrejects (.ok 0)).1⟩

end Telemetry.Web
