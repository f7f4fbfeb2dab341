import Mathlib.Data.List.Induction
import Telemetry.Metric.Sink

/-! # A sink over a history

What reaches a sink are emissions, the errors of its sockets and the end of its use. One such event
does two things: it makes one of five moves with the sockets, and it reports the failure that it
meets, if it meets one. Everything about whole histories is derived from these two.
-/
namespace Telemetry.Metric

/-- What reaches a sink. A socket may raise an error of its own or of a transmission that was still
on its way. -/
inductive Sink.Event where
  | emission (e : Emission)
  | close
  | socketError (message : String)

/-- An event with the sockets that it meets, at a reading of the clock. -/
structure Occasion where
  event : Sink.Event
  network : Network
  now : Number

/-- What an emission meets on an occasion. Its reports read the same time. -/
def Occasion.trial (o : Occasion) : Trial :=
  { network := o.network, clock := .ok o.now, again := .ok o.now }

/-- Counters from one up and durations from zero up are sent. -/
def Emission.isAccepted : Emission → Bool
  | .counter _ value => value.isFinite && Number.le 1 value.truncate
  | .timing _ ms => ms.isFinite && !ms.lt 0

def Occasion.isAccepted (o : Occasion) : Bool :=
  match o.event with
  | .emission e => e.isAccepted
  | _ => false

def warningMessage : String := "Failed to emit StatsD metric"

def isWarning (e : Log.Entry) : Bool := decide (e.message = warningMessage)

/-- An attempt to send a line over a socket. -/
def Network.attempt (net : Network) (socket : Nat) (line : String) : SocketAction :=
  if net.sendThrows then .refuse socket line else .send socket line

def Network.sendFailure? (net : Network) : Option Failure :=
  if net.sendThrows then some (.plain "socket is closed") else net.sendError.map .plain

namespace Sink

def handle (s : Sink) (o : Occasion) : SinkStep :=
  match o.event with
  | .emission e => s.perform o.trial e
  | .close => s.close o.network
  | .socketError message => s.socketError (.ok o.now) message

/-- Whether the sink has to send something on an occasion. -/
def accepts (s : Sink) (o : Occasion) : Bool := s.settings.enabled && o.isAccepted

/-- The line of an occasion that is an emission. -/
def line? (s : Sink) (o : Occasion) : Option String :=
  match o.event with
  | .emission (.counter name value) => s.counterLine? name value
  | .emission (.timing name ms) => s.timingLine? name ms
  | _ => none

/-- What fails on an occasion: the making of a socket, the sending, the transmission, or a socket
on its own. -/
def failure? (s : Sink) (o : Occasion) : Option Failure :=
  match o.event with
  | .emission _ =>
    if s.accepts o then
      if s.held.isNone && o.network.createThrows then some (.plain "no sockets left")
      else o.network.sendFailure?
    else none
  | .close => none
  | .socketError message => if s.opened = 0 then none else some (.plain message)

/-- The sink once a failure is reported, if there is one, with the warning. -/
def reported (s : Sink) (now : Number) (cause : Option Failure) : SinkStep :=
  match cause with
  | none => { sink := s }
  | some cause => s.report (.ok now) cause

/-- The sink with a socket that was made for it. -/
def opening (s : Sink) : Sink := { s with held := some (s.opened + 1), opened := s.opened + 1 }

/-- A sink with all that it has done to sockets and, with the times, the failures that it met and
what it wrote to the log. -/
structure History where
  sink : Sink
  actions : List SocketAction := []
  failures : List (Number × Failure) := []
  log : List (Number × Log.Entry) := []

namespace History

def extend (h : History) (o : Occasion) : History :=
  let step := h.sink.handle o
  { sink := step.sink
    actions := h.actions ++ step.actions
    failures := h.failures ++ (h.sink.failure? o).toList.map fun cause => (o.now, cause)
    log := h.log ++ step.logs.map fun entry => (o.now, entry) }

def run (settings : SinkSettings) (occasions : List Occasion) : History :=
  occasions.foldl extend { sink := { settings := settings } }

theorem run_concat (settings : SinkSettings) (occasions : List Occasion) (o : Occasion) :
    run settings (occasions ++ [o]) = (run settings occasions).extend o := by
  simp [run]

end History

end Sink

/-- What an occasion does with the sockets of a sink, where the flag tells that a line has to be
sent. -/
inductive Move (s : Sink) (net : Network) (line : String) :
    Bool → List SocketAction → Sink → Prop where
  | rest : Move s net line false [] s
  | release {socket : Nat} (hheld : s.held = some socket) :
      Move s net line false [.close socket] { s with held := none }
  | unmade (hheld : s.held = none) (hmake : net.createThrows = true) :
      Move s net line true [.create false] s
  | attempt {socket : Nat} (hheld : s.held = some socket) :
      Move s net line true [net.attempt socket line] s
  | opening (hheld : s.held = none) (hmake : net.createThrows = false) :
      Move s net line true [.create true, .listen (s.opened + 1), .unref (s.opened + 1),
        net.attempt (s.opened + 1) line] s.opening

/-- A step that reports a failure, if there is one, and neither fails nor warns of anything else. -/
structure SinkStep.Reports (s : Sink) (now : Number) (cause : Option Failure) (step : SinkStep) :
    Prop where
  sink : step.sink = (s.reported now cause).sink
  warnings : step.logs.filter isWarning = (s.reported now cause).logs
  failure : step.failure = none

section Steps

variable {s : Sink} {t : Trial} {net : Network} {now : Number}

theorem report_ok (s : Sink) (now : Number) (cause : Failure) :
    s.report (.ok now) cause =
      if s.isQuiet now then { sink := s }
      else { sink := { s with lastWarning := some now }, logs := [s.warning cause] } := by
  rfl

theorem isWarning_warning (s : Sink) (cause : Failure) : isWarning (s.warning cause) = true := by
  simp [isWarning, Sink.warning, warningMessage]

theorem reported_reports (s : Sink) (now : Number) (cause : Option Failure) :
    (s.reported now cause).actions = [] ∧ (s.reported now cause).Reports s now cause := by
  cases cause with
  | none => exact ⟨rfl, rfl, rfl, rfl⟩
  | some cause =>
    simp only [Sink.reported, report_ok]
    split
    · rename_i hquiet
      refine ⟨rfl, ?_, ?_, rfl⟩ <;> simp [Sink.reported, report_ok, hquiet]
    · rename_i hquiet
      refine ⟨rfl, ?_, ?_, rfl⟩ <;> simp [Sink.reported, report_ok, hquiet, isWarning_warning]

/-- With a clock that can be read a transmission is one attempt whose failure is reported once. -/
theorem transmit_ok (s : Sink) (hclock : t.clock = .ok now) (socket : Nat) (line : String) :
    s.transmit t socket line =
      (s.reported now t.network.sendFailure?).after [t.network.attempt socket line] := by
  unfold Sink.transmit Network.sendFailure? Network.attempt
  rw [hclock]
  cases t.network.sendThrows with
  | true => rfl
  | false =>
    cases t.network.sendError with
    | none => rfl
    | some message =>
      have hfailure := (reported_reports s now (some (.plain message))).2.failure
      simp only [Sink.reported] at hfailure
      simp [Sink.reported, hfailure]

section Emissions

variable (hclock : t.clock = .ok now) (hon : s.settings.enabled = true) (line : String)
include hclock hon

theorem emit_of_held {socket : Nat} (hheld : s.held = some socket) :
    s.emit t line =
      (s.reported now t.network.sendFailure?).after [t.network.attempt socket line] := by
  simp [Sink.emit, hon, hheld, transmit_ok s hclock]

theorem emit_unmade (hheld : s.held = none) (hmake : t.network.createThrows = true) :
    s.emit t line =
      (s.reported now (some (.plain "no sockets left"))).after [.create false] := by
  simp [Sink.emit, hon, hheld, hmake, hclock, Sink.reported]

theorem emit_opening (hheld : s.held = none) (hmake : t.network.createThrows = false) :
    s.emit t line =
      (s.opening.reported now t.network.sendFailure?).after
        [.create true, .listen (s.opened + 1), .unref (s.opened + 1),
          t.network.attempt (s.opened + 1) line] := by
  simp [Sink.emit, hon, hheld, hmake, transmit_ok _ hclock, Sink.opening, SinkStep.after]

/-- A line that has to be sent is one move, and what fails on the way is reported. -/
theorem emit_move :
    ∃ ready, Move s t.network line true (s.emit t line).actions ready ∧
      (s.emit t line).Reports ready now
        (if s.held.isNone && t.network.createThrows then some (.plain "no sockets left")
          else t.network.sendFailure?) := by
  have hdone : ∀ (ready : Sink) (cause : Option Failure) (actions : List SocketAction),
      Move s t.network line true actions ready →
      ∃ next, Move s t.network line true ((ready.reported now cause).after actions).actions next ∧
        ((ready.reported now cause).after actions).Reports next now cause := by
    intro ready cause actions hmove
    obtain ⟨hnone, hsink, hwarnings, hfailure⟩ := reported_reports ready now cause
    refine ⟨ready, ?_, hsink, hwarnings, hfailure⟩
    simpa [SinkStep.after, hnone] using hmove
  cases hheld : s.held with
  | some socket =>
    rw [emit_of_held hclock hon line hheld]
    exact hdone s _ _ (.attempt hheld)
  | none =>
    cases hmake : t.network.createThrows with
    | true =>
      rw [emit_unmade hclock hon line hheld hmake]
      exact hdone s _ _ (.unmade hheld hmake)
    | false =>
      rw [emit_opening hclock hon line hheld hmake]
      exact hdone s.opening _ _ (.opening hheld hmake)

end Emissions

theorem perform_eq (s : Sink) (t : Trial) (o : Occasion) {e : Emission}
    (he : o.event = .emission e) : s.perform t e = s.emit? t (s.line? o) := by
  simp only [Sink.line?, he]
  cases e <;> rfl

theorem isSome_line? (s : Sink) (o : Occasion) (hon : s.settings.enabled = true) :
    (s.line? o).isSome = s.accepts o := by
  simp only [Sink.line?, Sink.accepts, Occasion.isAccepted, hon, Bool.true_and]
  cases o.event with
  | emission e =>
    cases e <;> simp only [Emission.isAccepted, Sink.counterLine?, Sink.timingLine?] <;> split <;>
      simp_all
  | close => rfl
  | socketError message => rfl

/-- What one occasion does: a move with the sockets, and the report of what fails. -/
theorem handle_move (s : Sink) (o : Occasion) :
    ∃ ready, Move s o.network ((s.line? o).getD "") (s.accepts o) (s.handle o).actions ready ∧
      (s.handle o).Reports ready o.now (s.failure? o) := by
  obtain ⟨event, net, now⟩ := o
  have hidle : ∀ line, Move s net line false [] s ∧ SinkStep.Reports s now none { sink := s } :=
    fun _ => ⟨.rest, rfl, rfl, rfl⟩
  cases event with
  | emission e =>
    simp only [Sink.handle, perform_eq s _ ⟨.emission e, net, now⟩ rfl, Sink.failure?]
    by_cases hon : s.settings.enabled = true
    · have haccepts := isSome_line? s ⟨.emission e, net, now⟩ hon
      cases hline : s.line? ⟨.emission e, net, now⟩ with
      | none =>
        rw [← haccepts, hline]
        exact ⟨s, hidle _⟩
      | some line =>
        have hclock : (Occasion.trial ⟨.emission e, net, now⟩).clock = .ok now := rfl
        rw [← haccepts, hline]
        exact emit_move hclock hon line
    · -- A sink that is off takes every line and sends none.
      have hoff : ∀ t, s.emit? t (s.line? ⟨.emission e, net, now⟩) = { sink := s } := by
        intro t
        cases s.line? ⟨.emission e, net, now⟩ with
        | none => rfl
        | some line => simp [Sink.emit?, Sink.emit, hon]
      simp only [hoff, Sink.accepts, hon, Bool.false_and]
      exact ⟨s, hidle _⟩
  | close =>
    simp only [Sink.handle, Sink.accepts, Occasion.isAccepted, Bool.and_false, Sink.failure?,
      Sink.close]
    cases hheld : s.held with
    | none => exact ⟨s, hidle _⟩
    | some socket =>
      refine ⟨{ s with held := none }, .release hheld, rfl, ?_, rfl⟩
      cases net.closeThrows <;> simp [Sink.reported, isWarning, warningMessage]
  | socketError message =>
    simp only [Sink.handle, Sink.accepts, Occasion.isAccepted, Bool.and_false, Sink.failure?,
      Sink.socketError]
    split
    · exact ⟨s, hidle _⟩
    · obtain ⟨hnone, hreports⟩ := reported_reports s now (some (.plain message))
      simp only [Sink.reported] at hnone
      exact ⟨s, hnone ▸ .rest, hreports⟩

theorem reported_frame (s : Sink) (now : Number) (cause : Option Failure) :
    (s.reported now cause).sink.settings = s.settings ∧
      (s.reported now cause).sink.held = s.held ∧
      (s.reported now cause).sink.opened = s.opened := by
  cases cause with
  | none => exact ⟨rfl, rfl, rfl⟩
  | some cause =>
    simp only [Sink.reported, report_ok]
    split <;> exact ⟨rfl, rfl, rfl⟩

theorem Move.settings_eq {line : String} {sends : Bool} {actions : List SocketAction}
    {ready : Sink} (h : Move s net line sends actions ready) : ready.settings = s.settings := by
  cases h <;> rfl

end Steps

theorem Sink.History.settings_extend (h : Sink.History) (o : Occasion) :
    (h.extend o).sink.settings = h.sink.settings := by
  obtain ⟨ready, hmove, hreports⟩ := handle_move h.sink o
  simp only [extend, hreports.sink]
  exact (reported_frame ready o.now _).1.trans hmove.settings_eq

theorem Sink.History.settings_run (settings : SinkSettings) (occasions : List Occasion) :
    (run settings occasions).sink.settings = settings := by
  induction occasions using List.reverseRecOn with
  | nil => rfl
  | append_singleton before o ih => rw [run_concat, settings_extend, ih]

end Telemetry.Metric
