import Telemetry.Proofs.Web.Recording
import Telemetry.Web.Traffic

/-! # Records of overlapping requests

Whatever handlers do and in whatever order the signals come, a request is recorded at its first
signal and not again, with the calls that its handler made up to then. One without a signal is not
recorded.
-/
namespace Telemetry.Web

variable {s : Server} {m : Monitor} {guarded : Bool}

section Visits

variable {v : Visit}

theorem Visit.ending_signalled (v : Visit) :
    v.signalled.ending = some (v.ending.getD v.present) := by
  cases h : v.ending with
  | none => rw [Visit.signalled_of_open h, Option.getD_none]
  | some e => rw [Visit.signalled_of_over h, h, Option.getD_some]

theorem Visit.ending_receive (v : Visit) (signal : Signal) :
    (v.receive signal).ending = some (v.ending.getD v.present) := by
  cases signal <;> exact v.ending_signalled

/-- A signal keeps the profile that is recorded. -/
theorem Visit.profile_receive (v : Visit) (signal : Signal) :
    ((v.receive signal).ending.getD (v.receive signal).present).profile = v.counted := by
  rw [Visit.ending_receive, Option.getD_some, Visit.counted]
  cases v.ending <;> rfl

theorem Visit.counted_receive (v : Visit) (signal : Signal) :
    (v.receive signal).counted = v.counted := by
  rw [← v.profile_receive signal, Visit.ending_receive, Visit.counted, Visit.ending_receive]
  rfl

end Visits

namespace Underway

variable {u : Underway}

/-- The calls that a handler made before its exchange was over. -/
def calls (u : Underway) : List Request.Call := u.before.flatMap Action.calls

/-- What is true of a request on its way: its label, the profile that is recorded of it, and the
part of its handler that counts. -/
structure Tracked (s : Server) (m : Monitor) (u : Underway) : Prop where
  label : u.label = s.label m u.incoming.request
  counted : u.visit.counted = u.calls.foldl Request.Profile.add
    (s.enter u.incoming.around.fresh u.incoming.now u.incoming.request).profile
  handler : ∃ rest, s.handler m u.incoming = u.before ++ rest ∧
    (u.isOver = false → u.todo = rest ∨ u.todo = [])

theorem isOver_eq_false : u.isOver = false ↔ u.visit.ending = none := by
  rw [isOver, Option.isSome_eq_false_iff, Option.isNone_iff_eq_none]

/-- What the next action of a handler can be: none, as it is done or waits, one that is performed,
or one that fails. -/
theorem act_cases (u : Underway) :
    (u.act = u ∧ (u.todo = [] ∨ u.isOver = false ∧ ∃ rest, u.todo = .linger :: rest)) ∨
    (∃ action rest next, u.todo = action :: rest ∧ (u.isOver = false → action.isLinger = false) ∧
      u.visit.act u.params action = .ok next ∧
      u.act = { u with
        visit := next, todo := rest
        before := if u.isOver then u.before else u.before ++ [action] }) ∨
    ∃ action rest failure, u.todo = action :: rest ∧
      u.visit.act u.params action = .error failure ∧
      u.act = { u with visit := u.visit.abort failure, todo := [] } := by
  cases htodo : u.todo with
  | nil =>
    refine .inl ⟨?_, .inl rfl⟩
    rw [Underway.act, htodo]
  | cons action rest =>
    rw [Underway.act, htodo]
    dsimp only
    by_cases hwaits : (action.isLinger && !u.isOver) = true
    · rw [if_pos hwaits]
      obtain ⟨hlinger, hopen⟩ := Bool.and_eq_true_iff.mp hwaits
      cases action with
      | linger => exact .inl ⟨rfl, .inr ⟨by simpa using hopen, rest, rfl⟩⟩
      | _ => cases hlinger
    · rw [if_neg hwaits]
      cases hact : u.visit.act u.params action with
      | ok next =>
        refine .inr (.inl ⟨action, rest, next, rfl, fun hopen => ?_, hact, rfl⟩)
        simpa [hopen] using hwaits
      | error failure => exact .inr (.inr ⟨action, rest, failure, rfl, hact, rfl⟩)

/-- An action neither ends nor reopens an exchange: only signals end it. -/
theorem isOver_act (u : Underway) : u.act.isOver = u.isOver := by
  rcases u.act_cases with ⟨hact, -⟩ | ⟨action, rest, next, -, hlinger, hnext, hact⟩ |
    ⟨action, rest, failure, -, -, hact⟩
  · rw [hact]
  · rw [hact]
    cases hover : u.isOver with
    | true =>
      obtain ⟨e, he⟩ := Option.isSome_iff_exists.mp hover
      exact Option.isSome_iff_exists.mpr ⟨e, Visit.act_of_over hnext he⟩
    | false =>
      exact isOver_eq_false.mpr
        ((Visit.act_frame hnext (hlinger hover)).1.trans (isOver_eq_false.mp hover))
  · rw [hact]
    rfl

theorem act_frame (u : Underway) :
    u.act.incoming = u.incoming ∧ u.act.label = u.label ∧ u.act.params = u.params := by
  rcases u.act_cases with ⟨hact, -⟩ | ⟨_, _, _, -, -, -, hact⟩ | ⟨_, _, _, -, -, hact⟩
  all_goals
    rw [hact]
    exact ⟨rfl, rfl, rfl⟩

/-- What a handler does after its exchange is over does not count. -/
theorem calls_act_of_over (h : u.isOver = true) : u.act.calls = u.calls := by
  rcases u.act_cases with ⟨hact, -⟩ | ⟨_, _, _, -, -, -, hact⟩ | ⟨_, _, _, -, -, hact⟩
  · rw [hact]
  · rw [hact, h]
    rfl
  · rw [hact]
    rfl

theorem Tracked.act (h : Tracked s m u) : Tracked s m u.act := by
  obtain ⟨hlabel, hcounted, rest, hhandler, htodo⟩ := h
  rcases u.act_cases with ⟨hact, -⟩ | ⟨action, todo, next, hactions, hlinger, hnext, hact⟩ |
    ⟨action, todo, failure, -, -, hact⟩
  · rw [hact]
    exact ⟨hlabel, hcounted, rest, hhandler, htodo⟩
  · rw [hact]
    cases hover : u.isOver with
    | true =>
      obtain ⟨e, he⟩ := Option.isSome_iff_exists.mp hover
      have hending := Visit.act_of_over hnext he
      refine ⟨hlabel, ?_, rest, hhandler, fun hopen => ?_⟩
      · refine Eq.trans ?_ hcounted
        rw [Visit.counted, Visit.counted, hending, he]
        rfl
      · have hnow := isOver_eq_false.mp hopen
        rw [hending] at hnow
        cases hnow
    | false =>
      obtain ⟨hending, -, hprofile⟩ := Visit.act_frame hnext (hlinger hover)
      have hopen := isOver_eq_false.mp hover
      rw [Visit.counted_of_open hopen] at hcounted
      rw [hactions] at htodo
      obtain hrest | hdone := htodo hover
      · refine ⟨hlabel, ?_, todo, ?_, fun _ => .inl rfl⟩
        · rw [Visit.counted_of_open (hending.trans hopen), hprofile, hcounted]
          simp [calls, List.foldl_append]
        · simpa [← hrest] using hhandler
      · cases hdone
  · rw [hact]
    exact ⟨hlabel, hcounted, rest, hhandler, fun _ => .inr rfl⟩

theorem isOver_signal (u : Underway) (signal : Signal) (now : Number) :
    (u.signal signal now).isOver = true := by
  rw [isOver, Underway.signal, Visit.ending_receive]
  rfl

theorem Tracked.signal (h : Tracked s m u) (signal : Signal) (now : Number) :
    Tracked s m (u.signal signal now) := by
  obtain ⟨hlabel, hcounted, rest, hhandler, -⟩ := h
  refine ⟨hlabel, (Visit.counted_receive _ signal).trans hcounted, rest, hhandler, fun hopen => ?_⟩
  rw [isOver_signal] at hopen
  cases hopen

/-- What the monitor is told of a request once it got a signal. -/
def report (u next : Underway) : Monitor.Call :=
  let ending := next.visit.ending.getD next.visit.present
  ⟨observation u.incoming.request u.label (ending.now - u.incoming.now) ending,
    u.incoming.around.clock, u.incoming.around.trials⟩

theorem Tracked.reports (h : Tracked s m u) (signal : Signal) (now : Number) :
    Server.Reports s m ⟨u.incoming, u.calls⟩ (u.report (u.signal signal now)) := by
  unfold report
  rw [h.label]
  exact s.reports_of_profile m u.incoming u.calls
    ((Visit.profile_receive { u.visit with now := now } signal).trans h.counted) _

/-- A request counts when it is over, with the calls that were made before. -/
def served (u : Underway) : List Served := if u.isOver then [⟨u.incoming, u.calls⟩] else []

theorem served_of_over (h : u.isOver = true) : u.served = [⟨u.incoming, u.calls⟩] := if_pos h

theorem served_of_open (h : u.isOver = false) : u.served = [] := if_neg (by simp [h])

theorem served_act (u : Underway) : u.act.served = u.served := by
  cases h : u.isOver with
  | true =>
    rw [served_of_over h, served_of_over (u.isOver_act.trans h), u.act_frame.1,
      calls_act_of_over h]
  | false => rw [served_of_open h, served_of_open (u.isOver_act.trans h)]

theorem served_signal (u : Underway) (signal : Signal) (now : Number) :
    (u.signal signal now).served = [⟨u.incoming, u.calls⟩] :=
  served_of_over (u.isOver_signal signal now)

end Underway

namespace Traffic

variable {t : Traffic} {u : Underway} {k : Nat}

/-- The requests that are over, with the calls that count. -/
def served (t : Traffic) : List Served := t.underway.flatMap Underway.served

/-- A request that arrives is under way with its handler before it. -/
theorem arrive_spec (hsettings : t.monitor.settings = m.settings) (i : Incoming) :
    ∃ u, t.arrive s i = { t with underway := t.underway ++ [u] } ∧ u.incoming = i ∧
      u.isOver = false ∧ Underway.Tracked s m u := by
  obtain ⟨hlabel, hactions, hopen, hprofile, -⟩ := s.accept_spec t.monitor i
  refine ⟨_, rfl, rfl, Underway.isOver_eq_false.mpr hopen, ?_, ?_, s.handler m i, rfl,
    fun _ => .inl ?_⟩
  · exact hlabel.trans (s.label_congr hsettings i.request)
  · exact (Visit.counted_of_open hopen).trans hprofile
  · exact hactions.trans (s.handler_congr hsettings i)

/-- A signal that is not the first one changes nothing but its exchange. -/
theorem signal_of_over (hget : t.underway[k]? = some u) (hover : u.isOver = true)
    (signal : Signal) (now : Number) :
    t.signal s k signal now = { t with underway := t.underway.set k (u.signal signal now) } := by
  rw [Traffic.signal, hget]
  dsimp only
  rw [Server.note, Record.receive, if_pos hover]
  simp

/-- The first signal of a request is one call of the monitor. -/
theorem signal_of_open (hget : t.underway[k]? = some u) (hopen : u.isOver = false)
    (signal : Signal) (now : Number) :
    ∃ logs sent, t.signal s k signal now =
      { t with
        monitor := t.monitor.call (u.report (u.signal signal now))
        underway := t.underway.set k (u.signal signal now)
        logs := logs, sent := sent } := by
  rw [Traffic.signal, hget]
  dsimp only
  rw [Server.note, Record.receive, if_neg (by simp [hopen])]
  exact ⟨_, _, rfl⟩

/-- What is true of all that arrived: each request is tracked, and the monitor took one call for
each of those that are over. -/
structure Recorded (s : Server) (m : Monitor) (t : Traffic) : Prop where
  tracked : ∀ u ∈ t.underway, Underway.Tracked s m u
  calls : ∃ order recorded, order.Perm t.served ∧
    List.Forall₂ (Server.Reports s m) order recorded ∧ t.monitor = m.run recorded

theorem Recorded.settings (h : Recorded s m t) : t.monitor.settings = m.settings := by
  obtain ⟨-, -, recorded, -, -, hmonitor⟩ := h
  rw [hmonitor, Monitor.run_settings]

theorem Recorded.arrive (h : Recorded s m t) (i : Incoming) : Recorded s m (t.arrive s i) := by
  obtain ⟨u, harrive, -, hopen, hu⟩ := arrive_spec (s := s) h.settings i
  rw [harrive]
  obtain ⟨htracked, hcalls⟩ := h
  refine ⟨fun v hv => ?_, ?_⟩
  · rcases List.mem_append.mp hv with hv | hv
    · exact htracked v hv
    · obtain rfl := List.mem_singleton.mp hv
      exact hu
  · simpa [served, Underway.served_of_open hopen] using hcalls

theorem Recorded.act (h : Recorded s m t) (k : Nat) :
    Recorded s m { t with underway := t.underway.modify k Underway.act } := by
  obtain ⟨htracked, hcalls⟩ := h
  by_cases hk : k < t.underway.length
  · obtain ⟨front, u, back, hsplit, -, hmodify⟩ := List.exists_of_modify Underway.act hk
    rw [hmodify]
    simp only [hsplit, List.forall_mem_append, List.forall_mem_cons] at htracked
    refine ⟨?_, ?_⟩
    · simp only [List.forall_mem_append, List.forall_mem_cons]
      exact ⟨htracked.1, htracked.2.1.act, htracked.2.2⟩
    · simpa [served, hsplit, Underway.served_act] using hcalls
  · rw [List.modify_eq_self (by omega)]
    exact ⟨htracked, hcalls⟩

theorem Recorded.signal (h : Recorded s m t) (k : Nat) (signal : Signal) (now : Number) :
    Recorded s m (t.signal s k signal now) := by
  obtain ⟨htracked, order, recorded, hperm, hreports, hmonitor⟩ := h
  cases hget : t.underway[k]? with
  | none =>
    rw [Traffic.signal, hget]
    exact ⟨htracked, order, recorded, hperm, hreports, hmonitor⟩
  | some u =>
    obtain ⟨hk, hu⟩ := List.getElem?_eq_some_iff.mp hget
    obtain ⟨front, back, hsplit, -, hset⟩ :
        ∃ front back, t.underway = front ++ t.underway[k] :: back ∧ front.length = k ∧
          t.underway.set k (u.signal signal now) = front ++ u.signal signal now :: back :=
      List.exists_of_set hk
    rw [hu] at hsplit
    simp only [hsplit, List.forall_mem_append, List.forall_mem_cons] at htracked
    have hstill : ∀ v ∈ front ++ u.signal signal now :: back, Underway.Tracked s m v := by
      simp only [List.forall_mem_append, List.forall_mem_cons]
      exact ⟨htracked.1, htracked.2.1.signal signal now, htracked.2.2⟩
    simp only [served, hsplit, List.flatMap_append, List.flatMap_cons] at hperm
    cases hover : u.isOver with
    | true =>
      rw [signal_of_over hget hover, hset]
      refine ⟨hstill, order, recorded, ?_, hreports, hmonitor⟩
      simpa [served, Underway.served_signal, Underway.served_of_over hover] using hperm
    | false =>
      obtain ⟨logs, sent, hsignal⟩ := signal_of_open (s := s) hget hover signal now
      rw [hsignal, hset]
      refine ⟨hstill, order ++ [⟨u.incoming, u.calls⟩], recorded ++ [_], ?_,
        List.rel_append hreports (.cons (htracked.2.1.reports signal now) .nil), ?_⟩
      · rw [Underway.served_of_open hover, List.nil_append] at hperm
        simp only [served, List.flatMap_append, List.flatMap_cons, Underway.served_signal,
          List.singleton_append]
        exact (List.perm_append_singleton _ _).trans ((hperm.cons _).trans List.perm_middle.symm)
      · rw [hmonitor, Monitor.run_concat]

theorem Recorded.step (h : Recorded s m t) (event : Event) :
    Recorded s m (t.step s guarded event) := by
  unfold Traffic.step
  split
  · exact h
  · cases event with
    | arrive i => exact h.arrive i
    | act k => exact h.act k
    | signal k signal now => exact h.signal k signal now
    | collapse => exact ⟨h.tracked, h.calls⟩

/-- However requests overlap, each is recorded once when it is over. -/
theorem Recorded.run (h : Recorded s m t) (events : List Event) :
    Recorded s m (t.run s guarded events) := by
  induction events generalizing t with
  | nil => exact h
  | cons event rest ih => exact ih (h.step event)

theorem run_append (t : Traffic) (events more : List Event) :
    t.run s guarded (events ++ more) = (t.run s guarded events).run s guarded more :=
  List.foldl_append

theorem run_concat (t : Traffic) (events : List Event) (event : Event) :
    t.run s guarded (events ++ [event]) = (t.run s guarded events).step s guarded event :=
  List.foldl_concat ..

section First

end First

end Traffic

end Telemetry.Web
