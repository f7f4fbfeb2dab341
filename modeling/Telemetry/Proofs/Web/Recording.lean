import Mathlib.Data.List.Forall2
import Telemetry.Proofs.Monitor.Accounting
import Telemetry.Proofs.Request.Profile
import Telemetry.Web.Server

/-! # One record for each request

However a request is routed and whatever its handler does, the monitor takes one observation of it.
The labels are those of the path that owns the request or of the first route that fits, and the
counts are those of the calls that were made before the exchange was over.
-/
namespace Telemetry.Web
open Telemetry.Metric (wholeCount)
open Telemetry.Number (exactLimit)

section Signals

variable (observe : Monitor → Monitor.Step) (perf : List Log.Entry)

theorem foldl_receive_of_recorded {r : Record} (h : r.recorded = true) (signals : List Signal) :
    signals.foldl (Record.receive observe perf) r = r := by
  induction signals with
  | nil => rfl
  | cons signal rest ih =>
    rw [List.foldl_cons, Record.receive, if_pos h]
    exact ih

/-- The first signal records, and no other one does. -/
theorem monitor_foldl_receive (m : Monitor) {signals : List Signal} (h : signals ≠ []) :
    (signals.foldl (Record.receive observe perf) { monitor := m }).monitor =
      (observe m).monitor := by
  cases signals with
  | nil => exact absurd rfl h
  | cons signal rest =>
    exact congrArg Record.monitor (foldl_receive_of_recorded observe perf rfl rest)

theorem logs_foldl_receive (m : Monitor) {signals : List Signal} (h : signals ≠ []) :
    (signals.foldl (Record.receive observe perf) { monitor := m }).logs =
      (observe m).logs ++ perf := by
  cases signals with
  | nil => exact absurd rfl h
  | cons signal rest =>
    exact congrArg Record.logs (foldl_receive_of_recorded observe perf rfl rest)

theorem Visit.signals_ne_nil (v : Visit) : v.signals ≠ [] := by
  unfold Visit.signals
  split <;> simp

variable {v : Visit}

theorem Visit.signalled_of_over {e : Ending} (h : v.ending = some e) : v.signalled = v := by
  rw [Visit.signalled, if_pos (by rw [h]; rfl)]

theorem Visit.signalled_of_open (h : v.ending = none) :
    v.signalled = { v with logs := [], ending := some v.present } := by
  rw [Visit.signalled, if_neg (by rw [h]; decide)]

theorem Visit.linger_of_over {e : Ending} (h : v.ending = some e) : v.linger = v := by
  rw [Visit.linger, if_pos (by rw [h]; rfl)]

/-- Waiting keeps what is known at the first signal, and closes the connection. -/
theorem Visit.linger_of_open (h : v.ending = none) :
    v.linger = { v with
      exchange := v.exchange.close, gone := v.gone || !v.exchange.ended, logs := []
      ending := some v.present } := by
  rw [Visit.linger, if_neg (by rw [h]; decide), Visit.signals]
  split
  · simp only [List.foldl_cons, List.foldl_nil, Visit.receive, Visit.signalled_of_open h]
    rw [Visit.signalled_of_over rfl]
  · simp only [List.foldl_cons, List.foldl_nil, Visit.receive, Visit.signalled_of_open h]

theorem Visit.ending_linger (v : Visit) : v.linger.ending = some (v.ending.getD v.present) := by
  cases h : v.ending with
  | none => rw [Visit.linger_of_open h, Option.getD_none]
  | some e => rw [Visit.linger_of_over h, h, Option.getD_some]

end Signals

section Handlers

def Action.calls : Action → List Request.Call
  | .call c => [c]
  | _ => []

/-- The calls that a handler makes before its exchange is over, up to an action that fails. -/
def Visit.made (params : Parameters) (v : Visit) : List Action → List Request.Call
  | [] => []
  | action :: rest =>
    if action.isLinger then []
    else
      match v.act params action with
      | .ok next => action.calls ++ next.made params rest
      | .error _ => []

/-- The profile that is recorded. -/
def Visit.counted (v : Visit) : Request.Profile := (v.ending.map (·.profile)).getD v.profile

variable {params : Parameters} {v next : Visit}

theorem Visit.counted_of_open (h : v.ending = none) : v.counted = v.profile := by
  rw [Visit.counted, h]
  rfl

theorem Visit.profile_linger (v : Visit) :
    (v.linger.ending.getD v.linger.present).profile = v.counted := by
  rw [Visit.ending_linger, Option.getD_some, Visit.counted]
  cases v.ending <;> rfl

theorem Visit.withExchange_frame {e : Except Failure Exchange} (h : v.withExchange e = .ok next) :
    next.ending = v.ending ∧ next.logs = v.logs ∧ next.profile = v.profile := by
  cases e with
  | error failure => cases h
  | ok exchange =>
    cases h
    exact ⟨rfl, rfl, rfl⟩

/-- Only waiting ends an exchange and touches the log, and only calls change the profile. -/
theorem Visit.act_frame {action : Action} (h : v.act params action = .ok next)
    (hlinger : action.isLinger = false) :
    next.ending = v.ending ∧ next.logs = v.logs ∧
      next.profile = action.calls.foldl Request.Profile.add v.profile := by
  cases action with
  | call c =>
    cases h
    exact ⟨rfl, rfl, rfl⟩
  | status code =>
    cases h
    exact ⟨rfl, rfl, rfl⟩
  | header name value => exact Visit.withExchange_frame h
  | write chunk => exact Visit.withExchange_frame h
  | finish chunk => exact Visit.withExchange_frame h
  | parameters => exact Visit.withExchange_frame h
  | context => exact Visit.withExchange_frame h
  | advance ms =>
    cases h
    exact ⟨rfl, rfl, rfl⟩
  | pause =>
    cases h
    exact ⟨rfl, rfl, rfl⟩
  | fail failure => cases h
  | disconnect =>
    cases h
    exact ⟨rfl, rfl, rfl⟩
  | linger => cases hlinger

theorem Visit.act_of_over {action : Action} (h : v.act params action = .ok next) {e : Ending}
    (hover : v.ending = some e) : next.ending = some e := by
  cases hlinger : action.isLinger with
  | false => rw [(Visit.act_frame h hlinger).1, hover]
  | true =>
    cases action with
    | linger =>
      obtain rfl : v.linger = next := Except.ok.inj h
      rw [Visit.linger_of_over hover, hover]
    | _ => cases hlinger

/-- What is known of an exchange that is over does not change any more. -/
theorem Visit.perform_of_over {e : Ending} (hover : v.ending = some e) (actions : List Action) :
    (v.perform params actions).ending = some e := by
  induction actions generalizing v with
  | nil => exact hover
  | cons action rest ih =>
    rw [Visit.perform]
    cases h : v.act params action with
    | ok next => exact ih (Visit.act_of_over h hover)
    | error failure => exact hover

theorem Visit.counted_perform (hopen : v.ending = none) (actions : List Action) :
    (v.perform params actions).counted =
      (v.made params actions).foldl Request.Profile.add v.profile := by
  induction actions generalizing v with
  | nil => exact Visit.counted_of_open hopen
  | cons action rest ih =>
    rw [Visit.perform, Visit.made]
    -- the induction goes on only while the exchange is open; behind that the ending stays
    cases hlinger : action.isLinger with
    | true =>
      cases action with
      | linger =>
        have hover : v.linger.ending = some v.present := by
          rw [Visit.ending_linger, hopen, Option.getD_none]
        rw [if_pos rfl, Visit.counted]
        dsimp only [Visit.act]
        rw [Visit.perform_of_over hover rest]
        rfl
      | _ => cases hlinger
    | false =>
      rw [if_neg Bool.false_ne_true]
      cases h : v.act params action with
      | ok next =>
        obtain ⟨hending, -, hprofile⟩ := Visit.act_frame h hlinger
        dsimp only
        rw [ih (hending.trans hopen), hprofile, List.foldl_append]
      | error failure => exact Visit.counted_of_open hopen

theorem Visit.reply_frame (v : Visit) (status : Int) (contentType body : String) :
    (v.reply status contentType body).ending = v.ending ∧
      (v.reply status contentType body).profile = v.profile := by
  unfold Visit.reply
  split <;> exact ⟨rfl, rfl⟩

end Handlers

section Routing

/-- Whether a route takes a request: its method in upper case and its pattern fit. -/
def fits (method : Option String) (path : String) (route : Route) : Bool :=
  some (Text.upper route.method) = method && (matchPattern route.pattern path).isSome

theorem findRoute?_eq (method : Option String) (path : String) (routes : List Route) :
    findRoute? method path routes = (routes.find? (fits method path)).bind fun route =>
      (matchPattern route.pattern path).map fun params => (route, params) := by
  induction routes with
  | nil => rfl
  | cons route rest ih =>
    rw [findRoute?, List.find?_cons]
    by_cases hmethod : some (Text.upper route.method) = method
    · rw [if_pos hmethod]
      cases hmatch : matchPattern route.pattern path with
      | none =>
        have hfits : fits method path route = false := by simp [fits, hmatch]
        rw [hfits]
        exact ih
      | some params =>
        have hfits : fits method path route = true := by simp [fits, hmethod, hmatch]
        rw [hfits]
        dsimp only
        rw [Option.bind_some, hmatch, Option.map_some]
    · have hfits : fits method path route = false := by simp [fits, hmethod]
      rw [if_neg hmethod, hfits]
      exact ih

theorem find?_of_findRoute? {method : Option String} {path : String} {routes : List Route}
    {route : Route} {params : Parameters}
    (h : findRoute? method path routes = some (route, params)) :
    routes.find? (fits method path) = some route := by
  rw [findRoute?_eq] at h
  obtain ⟨found, hfound, hmatch⟩ := Option.bind_eq_some_iff.mp h
  obtain ⟨taken, -, hpair⟩ := Option.map_eq_some_iff.mp hmatch
  rw [hfound, (Prod.mk.inj hpair).1]

theorem find?_of_findRoute?_none {method : Option String} {path : String} {routes : List Route}
    (h : findRoute? method path routes = none) : routes.find? (fits method path) = none := by
  cases hfind : routes.find? (fits method path) with
  | none => rfl
  | some route =>
    have hfits := List.find?_some hfind
    rw [fits, Bool.and_eq_true] at hfits
    obtain ⟨params, hparams⟩ := Option.isSome_iff_exists.mp hfits.2
    rw [findRoute?_eq, hfind, Option.bind_some, hparams, Option.map_some] at h
    cases h

variable {s : EndpointSettings} {m : Monitor} {method path own : String}

theorem eq_path_of_owned (h : ownedPath? s m method path = some own) : own = path := by
  unfold ownedPath? at h
  split at h
  · cases h
  · split at h
    · exact (Option.some.inj h).symm
    · split at h
      · rename_i hpath
        rw [Bool.and_eq_true, beq_iff_eq] at hpath
        rw [← Option.some.inj h, hpath.2]
      · cases h

/-- An endpoint that owns a request answers it, or fails. -/
theorem handle_of_owned (h : ownedPath? s m method path = some own) (wallClock : Metric.Reading)
    (headers : Headers) : handle s m wallClock method path headers ≠ .ok none := by
  have hanswer : ∀ endpoint : Endpoint, (endpoint.answer s m wallClock method headers).map
      (fun reply => some (endpoint, reply)) ≠ .ok none := by
    intro endpoint
    cases endpoint.answer s m wallClock method headers <;> simp [Except.map]
  unfold ownedPath? at h
  split at h
  · cases h
  · rename_i hread
    have hread : Endpoint.isRead method = true := by simpa using hread
    rw [handle, endpoints, handle.ask]
    split at h
    · rename_i hpath
      rw [if_pos ⟨hpath, hread⟩]
      exact hanswer .health
    · rename_i hpath
      rw [if_neg fun hboth => hpath hboth.1]
      split at h
      · rename_i hexposition
        rw [Bool.and_eq_true, beq_iff_eq] at hexposition
        rw [if_pos hexposition.1, handle.ask, if_pos ⟨congrArg some hexposition.2, hread⟩]
        exact hanswer .exposition
      · cases h

/-- Who serves a request: the endpoint that owns its path, which may fail, the first route that
fits, or nobody. -/
theorem accept_cases (s : Server) (m : Monitor) (wallClock : Metric.Reading) (r : Request)
    (path : String) (v : Visit) :
    (ownedPath? s.endpoints m (r.method.getD "") path = some path ∧
      ((∃ failure,
          handle s.endpoints m wallClock (r.method.getD "") path r.headers = .error failure ∧
          accept s m wallClock r path v = { visit := v.abort failure, label := path }) ∨
        ∃ endpoint reply, handle s.endpoints m wallClock (r.method.getD "") path r.headers =
            .ok (some (endpoint, reply)) ∧
          accept s m wallClock r path v =
            { visit := v.reply reply.status reply.contentType reply.body, label := path })) ∨
    (ownedPath? s.endpoints m (r.method.getD "") path = none ∧
      ((∃ route params, findRoute? r.method path s.routes = some (route, params) ∧
          accept s m wallClock r path v =
            { visit := v, label := route.pattern, params := params, actions := route.actions }) ∨
        (findRoute? r.method path s.routes = none ∧
          accept s m wallClock r path v =
            { visit := v.reply 404 "application/json" notFoundBody, label := path }))) := by
  unfold accept
  dsimp only
  cases howned : ownedPath? s.endpoints m (r.method.getD "") path with
  | some own =>
    obtain rfl := eq_path_of_owned howned
    have hanswered := handle_of_owned howned wallClock r.headers
    dsimp only
    cases hreply : handle s.endpoints m wallClock (r.method.getD "") own r.headers with
    | error failure => exact .inl ⟨rfl, .inl ⟨failure, rfl, rfl⟩⟩
    | ok reply =>
      cases reply with
      | none => exact absurd hreply hanswered
      | some answer => exact .inl ⟨rfl, .inr ⟨answer.1, answer.2, rfl, rfl⟩⟩
  | none =>
    refine .inr ⟨rfl, ?_⟩
    dsimp only
    cases hroute : findRoute? r.method path s.routes with
    | none => exact .inr ⟨rfl, rfl⟩
    | some found => exact .inl ⟨found.1, found.2, rfl, rfl⟩

end Routing

/-- A request whose exchange is over, with the calls that its handler made before that. -/
structure Served where
  incoming : Incoming
  calls : List Request.Call

/-- The database counters, with what the calls of a request add to each. -/
def databaseCounters : List (String × (List Request.Call → Nat)) :=
  [(Monitor.databaseCallsTotal, List.length), (Monitor.cacheHitsTotal, List.countP (·.cached)),
    (Monitor.databaseErrorsTotal, List.countP (·.error))]

namespace Server

/-- The path under which a request counts: that of the endpoint that owns it, else the pattern of
the first route that fits, else its own. -/
def label (s : Server) (m : Monitor) (r : Request) : String :=
  let path := targetPath r.target
  match ownedPath? s.endpoints m (r.method.getD "") path with
  | some own => own
  | none => ((s.routes.find? (fits r.method path)).map Route.pattern).getD path

/-- The calls that the handler of a request makes before its exchange is over. -/
def calls (s : Server) (m : Monitor) (i : Incoming) : List Request.Call :=
  let path := targetPath i.request.target
  match ownedPath? s.endpoints m (i.request.method.getD "") path with
  | some _ => []
  | none =>
    match findRoute? i.request.method path s.routes with
    | some (route, params) =>
      (s.enter i.around.fresh i.now i.request).made params route.actions
    | none => []

/-- What the handler of a request does. A request that an endpoint owns or that no route fits has
no handler. -/
def handler (s : Server) (m : Monitor) (i : Incoming) : List Action :=
  let path := targetPath i.request.target
  match ownedPath? s.endpoints m (i.request.method.getD "") path with
  | some _ => []
  | none =>
    match findRoute? i.request.method path s.routes with
    | some (route, _) => route.actions
    | none => []

variable (s : Server) (m : Monitor) (i : Incoming)

/-- A request is let in with its label and its handler, and with an open exchange. -/
theorem accept_spec :
    let entered := s.enter i.around.fresh i.now i.request
    let a := accept s m i.around.wallClock i.request (targetPath i.request.target) entered
    a.label = s.label m i.request ∧ a.actions = s.handler m i ∧
      a.visit.ending = none ∧ a.visit.profile = entered.profile ∧
      a.visit.made a.params a.actions = s.calls m i := by
  intro entered a
  have hopen : entered.ending = none := rfl
  have hnone : ∀ (v : Visit) (params : Parameters), v.made params [] = [] := fun _ _ => rfl
  unfold a label handler calls
  dsimp only
  rcases accept_cases s m i.around.wallClock i.request (targetPath i.request.target) entered with
    ⟨howned, ⟨failure, -, haccept⟩ | ⟨endpoint, reply, -, haccept⟩⟩ |
      ⟨howned, ⟨route, params, hroute, haccept⟩ | ⟨hroute, haccept⟩⟩
  · rw [haccept, howned]
    exact ⟨rfl, rfl, hopen, rfl, hnone _ _⟩
  · rw [haccept, howned]
    obtain ⟨hending, hprofile⟩ := entered.reply_frame reply.status reply.contentType reply.body
    exact ⟨rfl, rfl, hending.trans hopen, hprofile, hnone _ _⟩
  · rw [haccept, howned]
    dsimp only
    rw [hroute, find?_of_findRoute? hroute]
    exact ⟨rfl, rfl, hopen, rfl, rfl⟩
  · rw [haccept, howned]
    dsimp only
    rw [hroute, find?_of_findRoute?_none hroute]
    obtain ⟨hending, hprofile⟩ := entered.reply_frame 404 "application/json" notFoundBody
    exact ⟨rfl, rfl, hending.trans hopen, hprofile, hnone _ _⟩

theorem dispatch_spec :
    let entered := s.enter i.around.fresh i.now i.request
    let handled := dispatch s m i.around.wallClock i.request (targetPath i.request.target) entered
    handled.2 = s.label m i.request ∧
      handled.1.counted = (s.calls m i).foldl Request.Profile.add entered.profile := by
  intro entered handled
  obtain ⟨hlabel, -, hopen, hprofile, hmade⟩ := s.accept_spec m i
  refine ⟨hlabel, (Visit.counted_perform hopen _).trans ?_⟩
  rw [hmade, hprofile]

/-- An observation of a request: its labels, and the counts of its calls. -/
structure Reports (s : Server) (m : Monitor) (p : Served) (c : Monitor.Call) : Prop where
  method : c.tally.method = Metric.methodLabel (.text (p.incoming.request.method.getD ""))
  path : c.tally.path = Metric.pathLabel (.text (s.label m p.incoming.request))
  databaseCalls : c.observation.databaseCalls = .ofNat p.calls.length
  cacheHits : c.observation.cacheHits = .ofNat (p.calls.countP (·.cached))
  databaseErrors : c.observation.databaseErrors = .ofNat (p.calls.countP (·.error))

/-- What is told of a request whose profile took the calls. -/
theorem reports_of_profile (cs : List Request.Call) {e : Ending}
    (hprofile : e.profile =
      cs.foldl Request.Profile.add (s.enter i.around.fresh i.now i.request).profile)
    (elapsed : Number) :
    Reports s m ⟨i, cs⟩ ⟨observation i.request (s.label m i.request) elapsed e, i.around.clock,
      i.around.trials⟩ := by
  obtain ⟨hcalls, hhits, herrors⟩ :=
    Request.Profile.foldl_add (s.enter i.around.fresh i.now i.request).profile cs
  rw [← hprofile] at hcalls hhits herrors
  have hzero : ∀ n : Nat, 0 + n = n := Nat.zero_add
  exact ⟨rfl, rfl, congrArg Datum.ofNat (hcalls.trans (hzero _)),
    congrArg Datum.ofNat (hhits.trans (hzero _)), congrArg Datum.ofNat (herrors.trans (hzero _))⟩

/-- A request with the calls that its handler makes when nothing comes between. -/
def served : Served := ⟨i, s.calls m i⟩

def arrive (s : Server) (m : Monitor) (i : Incoming) : Monitor :=
  (s.serve i.around m i.now i.request).monitor

/-- Serves requests one after another. -/
def run (s : Server) (m : Monitor) (visits : List Incoming) : Monitor := visits.foldl s.arrive m

/-- Serving a request is one call of the monitor. -/
theorem arrive_eq : ∃ c, Reports s m (s.served m i) c ∧ s.arrive m i = m.call c := by
  obtain ⟨hlabel, hcounted⟩ := dispatch_spec s m i
  unfold arrive serve
  have hpath : (s.enter i.around.fresh i.now i.request).profile.path =
      targetPath i.request.target := rfl
  dsimp only
  rw [hpath]
  generalize dispatch s m i.around.wallClock i.request (targetPath i.request.target)
    (s.enter i.around.fresh i.now i.request) = handled at hlabel hcounted
  obtain ⟨v, label⟩ := handled
  dsimp only at hlabel hcounted ⊢
  rw [note, monitor_foldl_receive _ _ m (Visit.signals_ne_nil _), hlabel]
  rw [← Visit.profile_linger] at hcounted
  exact ⟨_, s.reports_of_profile m i (s.calls m i) hcounted _, rfl⟩

theorem label_congr {first second : Monitor} (h : first.settings = second.settings)
    (r : Request) : s.label first r = s.label second r := by
  simp only [label, ownedPath?, h]

theorem handler_congr {first second : Monitor} (h : first.settings = second.settings)
    (i : Incoming) : s.handler first i = s.handler second i := by
  simp only [handler, ownedPath?, h]

variable {s i} {p : Served}

theorem Reports.congr {first second : Monitor} (h : first.settings = second.settings)
    {c : Monitor.Call} (hc : Reports s first p c) : Reports s second p c := by
  obtain ⟨hmethod, hpath, hcalls, hhits, herrors⟩ := hc
  rw [label_congr s h] at hpath
  exact ⟨hmethod, hpath, hcalls, hhits, herrors⟩

variable (s)

/-- The method and the path under which a request counts. -/
def key (s : Server) (m : Monitor) (i : Incoming) : Metric.LabelKey :=
  [Metric.methodLabel (.text (i.request.method.getD "")),
    Metric.pathLabel (.text (s.label m i.request))]

variable {s m}

theorem Reports.key {c : Monitor.Call} (hc : Reports s m p c) :
    c.tally.key = s.key m p.incoming := by
  rw [Monitor.Tally.key, hc.method, hc.path]
  rfl

/-- The requests that count under a method and a path. -/
def under (s : Server) (m : Monitor) (method path : String) (all : List Served) : List Served :=
  all.filter fun p => s.key m p.incoming = [method, path]

/-- What the counters hold of the requests that are over: their number, in total and under each
method and path, and the counts of their calls. -/
structure Totals (s : Server) (m : Monitor) (all : List Served) (store : Metric.Store) : Prop where
  requests : all.length < exactLimit →
    Monitor.requestsUnder store (fun _ => true) = Number.ofNat all.length
  routed : all.length < exactLimit → ∀ method path,
    Monitor.requestsOn store method path (fun _ => true) =
      Number.ofNat (s.under m method path all).length
  database : (all.map fun p => p.calls.length).sum < exactLimit → ∀ method path,
    ∀ e ∈ databaseCounters, store.counter e.1 [method, path] =
      Number.ofNat ((s.under m method path all).map fun p => e.2 p.calls).sum

variable {all : List Served} {recorded : List Monitor.Call}

/-- The order of the requests does not matter for their totals. -/
theorem Totals.perm {other : List Served} {store : Metric.Store} (h : Totals s m all store)
    (hperm : all.Perm other) : Totals s m other store := by
  have hunder : ∀ method path, (s.under m method path all).Perm (s.under m method path other) :=
    fun method path => hperm.filter _
  refine ⟨fun hlen => ?_, fun hlen method path => ?_, fun hsmall method path e he => ?_⟩
  · rw [← hperm.length_eq] at hlen ⊢
    exact h.requests hlen
  · rw [← hperm.length_eq] at hlen
    rw [h.routed hlen, (hunder method path).length_eq]
  · rw [← (hperm.map _).sum_eq] at hsmall
    rw [h.database hsmall method path e he, ((hunder method path).map _).sum_eq]

end Server

end Telemetry.Web
