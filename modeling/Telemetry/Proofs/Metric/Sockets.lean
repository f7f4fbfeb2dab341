import Telemetry.Proofs.Metric.Sink

/-! # The sockets of a sink

A sink makes a socket when it has a line to send and holds none, makes it ready before the first
datagram, sends everything over it, and closes it once. Whatever fails on the way, one line is one
attempt, and nothing reaches the caller.
-/
namespace Telemetry.Metric

/-- The number of sockets that were made. -/
def made (actions : List SocketAction) : Nat := actions.count (.create true)

def SocketAction.isClose : SocketAction → Bool
  | .close _ => true
  | _ => false

/-- Whether an action makes a socket or makes one ready. -/
def SocketAction.isSetup : SocketAction → Bool
  | .create succeeds => succeeds
  | .listen _ => true
  | .unref _ => true
  | _ => false

/-- The number of sockets that were closed, or at least were meant to be. -/
def closings (actions : List SocketAction) : Nat := actions.countP SocketAction.isClose

/-- The lines that were meant to be sent. A socket that could not be made has no line. -/
def attempts (actions : List SocketAction) : List (Option String) :=
  actions.filterMap fun action =>
    match action with
    | .create false => some none
    | .send _ line => some (some line)
    | .refuse _ line => some (some line)
    | _ => none

/-- The socket that was made last, with one listener and off the hook, and not closed since. -/
structure InUse (before : List SocketAction) (socket : Nat) : Prop where
  latest : socket = made before
  held : made before = closings before + 1
  listened : before.count (.listen socket) = 1
  unreferenced : before.count (.unref socket) = 1
  unclosed : .close socket ∉ before

/-- Whether an action fits what was done before it. -/
def Fits (before : List SocketAction) : SocketAction → Prop
  | .create _ => made before = closings before
  | .listen socket => socket = made before ∧ .listen socket ∉ before
  | .unref socket => socket = made before ∧ .unref socket ∉ before
  | .send socket _ => InUse before socket
  | .refuse socket _ => InUse before socket
  | .close socket => InUse before socket

def Orderly (before : List SocketAction) : List SocketAction → Prop
  | [] => True
  | action :: rest => Fits before action ∧ Orderly (before ++ [action]) rest

section Order

variable {before actions more : List SocketAction} {action : SocketAction} {socket : Nat}

theorem orderly_append :
    Orderly before (actions ++ more) ↔
      Orderly before actions ∧ Orderly (before ++ actions) more := by
  induction actions generalizing before with
  | nil => simp [Orderly]
  | cons a rest ih => simp [Orderly, ih, and_assoc]

theorem orderly_concat :
    Orderly before (actions ++ [action]) ↔
      Orderly before actions ∧ Fits (before ++ actions) action := by
  simp [orderly_append, Orderly]

theorem Orderly.fits {after : List SocketAction} (h : Orderly [] (before ++ action :: after)) :
    Fits before action := by
  obtain ⟨-, hrest⟩ := orderly_append.mp h
  simpa using hrest.1

theorem Orderly.of_prefix (h : Orderly [] actions) (hpre : before <+: actions) :
    Orderly [] before := by
  obtain ⟨rest, rfl⟩ := hpre
  exact (orderly_append.mp h).1

@[simp] theorem made_concat :
    made (actions ++ [action]) = made actions + if action = .create true then 1 else 0 := by
  simp [made, List.count_singleton]

@[simp] theorem closings_concat :
    closings (actions ++ [action]) = closings actions + if action.isClose then 1 else 0 := by
  simp [closings, List.countP_singleton]

/-- At most one socket is made and not closed. -/
theorem Orderly.balance (h : Orderly [] actions) :
    closings actions ≤ made actions ∧ made actions ≤ closings actions + 1 := by
  induction actions using List.reverseRecOn with
  | nil => simp [made, closings]
  | append_singleton before action ih =>
    obtain ⟨hbefore, hfits⟩ := orderly_concat.mp h
    obtain ⟨hlow, hhigh⟩ := ih hbefore
    rw [List.nil_append] at hfits
    cases action with
    | create succeeds =>
      have hmade : made before = closings before := hfits
      cases succeeds <;> simp [SocketAction.isClose] <;> omega
    | close socket =>
      have hheld := hfits.held
      simp [SocketAction.isClose]
      omega
    | listen socket | unref socket | send socket line | refuse socket line =>
      simpa [SocketAction.isClose] using ⟨hlow, hhigh⟩

theorem Orderly.close_le (h : Orderly [] actions) (hclose : .close socket ∈ actions) :
    socket ≤ made actions := by
  obtain ⟨before, after, rfl⟩ := List.append_of_mem hclose
  have hlatest := h.fits.latest
  rw [hlatest, made, made, List.count_append]
  omega

theorem Orderly.count_close_le_one (h : Orderly [] actions) (socket : Nat) :
    actions.count (.close socket) ≤ 1 := by
  induction actions using List.reverseRecOn with
  | nil => simp
  | append_singleton before action ih =>
    obtain ⟨hbefore, hfits⟩ := orderly_concat.mp h
    rw [List.nil_append] at hfits
    have hcount := ih hbefore
    rw [List.count_append, List.count_singleton]
    split
    · rename_i haction
      obtain rfl := beq_iff_eq.mp haction
      have hnone := List.count_eq_zero.mpr hfits.unclosed
      omega
    · omega

end Order

/-- What ties a sink to all that it has done to its sockets. -/
structure Kept (actions : List SocketAction) (s : Sink) : Prop where
  orderly : Orderly [] actions
  opened : s.opened = made actions
  held : ∀ socket, s.held = some socket → InUse actions socket
  idle : s.held = none → made actions = closings actions
  listened : ∀ socket,
    actions.count (.listen socket) = if 0 < socket ∧ socket ≤ made actions then 1 else 0
  unreferenced : ∀ socket,
    actions.count (.unref socket) = if 0 < socket ∧ socket ≤ made actions then 1 else 0

section Moves

variable {actions done : List SocketAction} {s ready : Sink} {net : Network} {line : String}
  {socket : Nat}

theorem kept_nil (settings : SinkSettings) : Kept [] { settings := settings } := by
  refine ⟨trivial, rfl, by simp, fun _ => rfl, ?_, ?_⟩
  all_goals
    intro socket
    simp [made]
    omega

theorem Kept.of_frame (h : Kept actions s) (hheld : ready.held = s.held)
    (hopened : ready.opened = s.opened) : Kept actions ready :=
  { h with opened := hopened.trans h.opened, held := hheld ▸ h.held, idle := hheld ▸ h.idle }

theorem attempt_cases (net : Network) (socket : Nat) (line : String) :
    net.attempt socket line = .refuse socket line ∨
      net.attempt socket line = .send socket line := by
  unfold Network.attempt
  split
  · exact .inl rfl
  · exact .inr rfl

theorem counts_concat (actions : List SocketAction) {action : SocketAction}
    (hsetup : action.isSetup = false) :
    made (actions ++ [action]) = made actions ∧
      (∀ socket, (actions ++ [action]).count (.listen socket) = actions.count (.listen socket)) ∧
      ∀ socket, (actions ++ [action]).count (.unref socket) = actions.count (.unref socket) := by
  cases action with
  | create succeeds =>
    obtain rfl : succeeds = false := hsetup
    simp [List.count_append]
  | listen socket | unref socket => cases hsetup
  | send socket line | refuse socket line | close socket => simp [List.count_append]

/-- An action that sets no socket up changes at most which socket is held. -/
theorem Kept.concat {action : SocketAction} (h : Kept actions s) (hfits : Fits actions action)
    (hsetup : action.isSetup = false) (hopened : ready.opened = s.opened)
    (hheld : ∀ socket, ready.held = some socket → InUse (actions ++ [action]) socket)
    (hidle : ready.held = none → made actions = closings (actions ++ [action])) :
    Kept (actions ++ [action]) ready := by
  obtain ⟨hmade, hlisten, hunref⟩ := counts_concat actions hsetup
  constructor
  case orderly => exact orderly_concat.mpr ⟨h.orderly, hfits⟩
  case opened => rw [hopened, hmade, h.opened]
  case held => exact hheld
  case idle =>
    rw [hmade]
    exact hidle
  case listened =>
    intro socket
    rw [hmade, hlisten, h.listened]
  case unreferenced =>
    intro socket
    rw [hmade, hunref, h.unreferenced]

theorem Kept.attempt (h : Kept actions s) (hheld : s.held = some socket) :
    Kept (actions ++ [net.attempt socket line]) s := by
  have huse := h.held socket hheld
  rcases attempt_cases net socket line with hact | hact <;> rw [hact]
  all_goals
    refine h.concat huse rfl rfl ?_ (by simp [hheld])
    intro other hother
    obtain rfl : other = socket := Option.some.inj (hother.symm.trans hheld)
    constructor
    case latest => simpa using huse.latest
    case held => simpa [SocketAction.isClose] using huse.held
    case listened => simpa [List.count_append] using huse.listened
    case unreferenced => simpa [List.count_append] using huse.unreferenced
    case unclosed => simpa using huse.unclosed

theorem Kept.unmade (h : Kept actions s) (hheld : s.held = none) :
    Kept (actions ++ [.create false]) s := by
  have hidle : made actions = closings actions := h.idle hheld
  refine h.concat hidle rfl rfl (by simp [hheld]) ?_
  intro _
  simpa [SocketAction.isClose] using hidle

theorem Kept.release (h : Kept actions s) (hheld : s.held = some socket) :
    Kept (actions ++ [.close socket]) { s with held := none } := by
  have huse := h.held socket hheld
  refine h.concat huse rfl rfl (by simp) ?_
  intro _
  simpa [SocketAction.isClose] using huse.held

/-- Every socket has a number of its own, so nothing was done to a new one. -/
theorem Kept.fresh (h : Kept actions s) :
    .listen (s.opened + 1) ∉ actions ∧ .unref (s.opened + 1) ∉ actions ∧
      .close (s.opened + 1) ∉ actions := by
  refine ⟨List.count_eq_zero.mp ?_, List.count_eq_zero.mp ?_, ?_⟩
  · rw [h.listened, h.opened, if_neg (by omega)]
  · rw [h.unreferenced, h.opened, if_neg (by omega)]
  · intro hclose
    have hle := h.orderly.close_le hclose
    have hopened := h.opened
    omega

theorem count_new (n k : Nat) :
    ((if 0 < k ∧ k ≤ n then 1 else 0) + if n + 1 = k then 1 else 0) =
      if 0 < k ∧ k ≤ n + 1 then 1 else 0 := by
  by_cases hk : n + 1 = k
  · subst hk
    simp
  · have hle : k ≤ n + 1 ↔ k ≤ n := by omega
    simp [hk, hle]

theorem Kept.opening (h : Kept actions s) (hheld : s.held = none) :
    Kept (actions ++ [.create true, .listen (s.opened + 1), .unref (s.opened + 1)]) s.opening := by
  obtain ⟨hlisten, hunref, hclose⟩ := h.fresh
  have hidle := h.idle hheld
  have hopened := h.opened
  have hmade : made (actions ++ [.create true, .listen (s.opened + 1), .unref (s.opened + 1)]) =
      s.opened + 1 := by
    simp [made, List.count_append, hopened]
  have hclosings :
      closings (actions ++ [.create true, .listen (s.opened + 1), .unref (s.opened + 1)]) =
        s.opened := by
    simp [closings, SocketAction.isClose, hopened, hidle]
  constructor
  case orderly =>
    rw [orderly_append]
    refine ⟨h.orderly, hidle, ⟨?_, ?_⟩, ⟨?_, ?_⟩, trivial⟩
    · simp [hopened]
    · simpa using hlisten
    · rw [made_concat, made_concat]
      simp [hopened]
    · simpa using hunref
  case opened => exact hmade.symm
  case held =>
    rintro socket ⟨⟩
    refine ⟨hmade.symm, by omega, ?_, ?_, by simpa using hclose⟩
    · simp [List.count_append, List.count_eq_zero.mpr hlisten]
    · simp [List.count_append, List.count_eq_zero.mpr hunref]
  case idle => simp [Sink.opening]
  case listened =>
    intro socket
    rw [hmade, List.count_append, h.listened, ← hopened]
    simpa [List.count_cons] using count_new s.opened socket
  case unreferenced =>
    intro socket
    rw [hmade, List.count_append, h.unreferenced, ← hopened]
    simpa [List.count_cons] using count_new s.opened socket

/-- Whatever a sink does, its sockets are kept in order. -/
theorem Kept.move {sends : Bool} (h : Kept actions s) (hmove : Move s net line sends done ready) :
    Kept (actions ++ done) ready := by
  cases hmove with
  | rest => simpa using h
  | release hheld => exact h.release hheld
  | unmade hheld _ => exact h.unmade hheld
  | attempt hheld => exact h.attempt hheld
  | opening hheld _ =>
    have hattempt : Kept (_ ++ [net.attempt (s.opened + 1) line]) s.opening :=
      (h.opening hheld).attempt rfl
    simpa using hattempt

theorem Kept.extend {h : Sink.History} (hkept : Kept h.actions h.sink) (o : Occasion) :
    Kept (h.extend o).actions (h.extend o).sink := by
  obtain ⟨ready, hmove, hreports⟩ := handle_move h.sink o
  obtain ⟨-, hheld, hopened⟩ := reported_frame ready o.now (h.sink.failure? o)
  simp only [Sink.History.extend, hreports.sink]
  exact (hkept.move hmove).of_frame hheld hopened

theorem kept_run (settings : SinkSettings) (occasions : List Occasion) :
    Kept (Sink.History.run settings occasions).actions
      (Sink.History.run settings occasions).sink := by
  induction occasions using List.reverseRecOn with
  | nil => exact kept_nil settings
  | append_singleton before o ih =>
    rw [Sink.History.run_concat]
    exact ih.extend o

end Moves

section Attempts

variable {s ready : Sink} {net : Network} {line : String} {actions : List SocketAction}

theorem attempts_attempt (net : Network) (socket : Nat) (line : String) :
    attempts [net.attempt socket line] = [some line] := by
  rcases attempt_cases net socket line with hact | hact <;> rw [hact] <;> rfl

/-- A line that has to be sent is attempted once, and without one nothing is attempted. -/
theorem Move.attempts_eq {sends : Bool} (h : Move s net line sends actions ready) :
    attempts actions =
      if sends then [if s.held.isNone && net.createThrows then none else some line] else [] := by
  cases h with
  | rest => rfl
  | release hheld => rfl
  | unmade hheld hmake => simp [attempts, hheld, hmake]
  | attempt hheld => simp [attempts_attempt, hheld]
  | opening hheld hmake => simpa [attempts, hmake] using attempts_attempt net (s.opened + 1) line

theorem attempts_handle (s : Sink) (o : Occasion) :
    attempts (s.handle o).actions =
      if s.accepts o then
        [if s.held.isNone && o.network.createThrows then none else s.line? o]
      else [] := by
  obtain ⟨ready, hmove, -⟩ := handle_move s o
  rw [hmove.attempts_eq]
  by_cases haccepts : s.accepts o = true
  · have hon : s.settings.enabled = true := by
      simp only [Sink.accepts, Bool.and_eq_true] at haccepts
      exact haccepts.1
    have hline := isSome_line? s o hon
    rw [haccepts] at hline
    simp [haccepts, Option.getD_of_ne_none (Option.isSome_iff_ne_none.mp hline)]
  · simp [haccepts]

end Attempts

theorem handle_of_off {s : Sink} (hoff : s.settings.enabled = false) (hheld : s.held = none)
    (o : Occasion) : (s.handle o).actions = [] ∧ (s.handle o).sink.held = none := by
  obtain ⟨ready, hmove, hreports⟩ := handle_move s o
  rw [hreports.sink, (reported_frame ready o.now _).2.1]
  simp only [Sink.accepts, hoff, Bool.false_and] at hmove
  generalize (s.handle o).actions = done at hmove
  cases hmove with
  | rest => exact ⟨rfl, hheld⟩
  | release hsome => simp [hheld] at hsome

/-- A sink that is off never has a socket to close. -/
theorem run_of_off (settings : SinkSettings) (hoff : settings.enabled = false)
    (occasions : List Occasion) :
    (Sink.History.run settings occasions).actions = [] ∧
      (Sink.History.run settings occasions).sink.held = none := by
  induction occasions using List.reverseRecOn with
  | nil => exact ⟨rfl, rfl⟩
  | append_singleton before o ih =>
    obtain ⟨hactions, hheld⟩ := ih
    have hsettings := Sink.History.settings_run settings before
    obtain ⟨hnone, hidle⟩ := handle_of_off (hsettings.symm ▸ hoff) hheld o
    rw [Sink.History.run_concat]
    exact ⟨by simp [Sink.History.extend, hactions, hnone], hidle⟩

/-- What is done to the sockets of a sink is in order: every action fits what was done before it, a
socket gets one listener and is let off the hook once, it is closed at most once, and at no time is
more than one made and not closed. -/
structure Disciplined (actions : List SocketAction) : Prop where
  fits : ∀ before action after, actions = before ++ action :: after → Fits before action
  ready : ∀ socket, 0 < socket → socket ≤ made actions →
    actions.count (.listen socket) = 1 ∧ actions.count (.unref socket) = 1
  closed : ∀ socket, actions.count (.close socket) ≤ 1
  balanced : ∀ before, before <+: actions →
    closings before ≤ made before ∧ made before ≤ closings before + 1

theorem Kept.disciplined {actions : List SocketAction} {s : Sink} (h : Kept actions s) :
    Disciplined actions where
  fits := by
    rintro before action after rfl
    exact h.orderly.fits
  ready := by
    intro socket hpos hle
    rw [h.listened, h.unreferenced]
    simp [hpos, hle]
  closed := h.orderly.count_close_le_one
  balanced := by
    intro before hpre
    exact (h.orderly.of_prefix hpre).balance

/-- Over every history of a sink that is on, its sockets are in order; the next event makes one
attempt if it is a counter or a timing to be sent, over a socket or, when none can be made, with
none, and no attempt otherwise; and no event fails. A sink that is off does nothing with sockets. -/
theorem sockets_in_order (settings : SinkSettings) (occasions : List Occasion) (next : Occasion) :
    let h := Sink.History.run settings occasions
    let step := h.sink.handle next
    Disciplined h.actions ∧
      attempts step.actions =
        (if settings.enabled && next.isAccepted then
          [if h.sink.held.isNone && next.network.createThrows then none else h.sink.line? next]
        else []) ∧
      (settings.enabled = true → next.isAccepted = true → (h.sink.line? next).isSome = true) ∧
      step.failure = none ∧
      (settings.enabled = false → h.actions = []) := by
  intro h step
  have hsettings : h.sink.settings = settings := Sink.History.settings_run settings occasions
  have haccepts : h.sink.accepts next = (settings.enabled && next.isAccepted) := by
    simp [Sink.accepts, hsettings]
  obtain ⟨ready, -, hreports⟩ := handle_move h.sink next
  refine ⟨(kept_run settings occasions).disciplined, ?_, ?_, hreports.failure, ?_⟩
  · rw [← haccepts]
    exact attempts_handle h.sink next
  · intro hon haccepted
    rw [isSome_line? h.sink next (hsettings ▸ hon), haccepts, hon, haccepted]
    rfl
  · intro hoff
    exact (run_of_off settings hoff occasions).1

/-- A sink whose first socket cannot be made, whose second is closed after two failed datagrams,
and which then makes another. -/
def faults : List Occasion :=
  [{ event := .emission (.counter "hits" 1), network := { createThrows := true }, now := 0 },
    { event := .emission (.counter "hits" 2), network := { sendThrows := true }, now := 1 },
    { event := .emission (.timing "took" 3), network := { sendError := some "lost" }, now := 2 },
    { event := .close, network := { closeThrows := true }, now := 3 },
    { event := .socketError "late", network := {}, now := 4 },
    { event := .emission (.counter "hits" 5), network := {}, now := 5 }]

theorem sockets_in_order_after_faults :
    let h := Sink.History.run { enabled := true, scope := "app" } faults
    let next : Occasion := { event := .emission (.timing "took" 6), network := {}, now := 6 }
    h.actions = [.create false, .create true, .listen 1, .unref 1, .refuse 1 "app.hits:2|c",
        .send 1 "app.took:3.00|ms", .close 1, .create true, .listen 2, .unref 2,
        .send 2 "app.hits:5|c"] ∧
      Disciplined h.actions ∧
      attempts (h.sink.handle next).actions = [some "app.took:6.00|ms"] ∧
      (h.sink.line? next).isSome = true ∧
      (h.sink.handle next).failure = none ∧
      (Sink.History.run {} faults).actions = [] := by
  intro h next
  obtain ⟨hdisciplined, hattempts, hline, hfailure, -⟩ :=
    sockets_in_order { enabled := true, scope := "app" } faults next
  have hoff := (sockets_in_order {} faults next).2.2.2.2 rfl
  have haccepted : next.isAccepted = true := by decide +kernel
  refine ⟨by decide +kernel, hdisciplined, hattempts.trans ?_, hline rfl haccepted, hfailure, hoff⟩
  decide +kernel

end Telemetry.Metric
