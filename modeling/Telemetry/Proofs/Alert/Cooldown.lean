import Mathlib.Data.List.Chain
import Telemetry.Proofs.Alert.Announcements
import Telemetry.Proofs.Number.Whole

/-! # Reminders of a breach

While an alert stays breached its announcements are at least the cooldown apart, and none is
overdue after an evaluation. A breach after a recovery does not wait for the cooldown.
-/
namespace Telemetry.Alert

variable {rules : Rules} {now : Number} {s next : State} {found : Bool}
  {lines : List (Number × Line)} {new : List Line}

theorem Rules.cooldownMs_pos (h : Number.lt 0 rules.cooldownSec = true) :
    Number.lt 0 rules.cooldownMs = true :=
  Number.lt_of_lt_of_le h (Number.le_mul_ofNat h (by decide : 0 < 1000) (by decide))

/-- Lines of which two breaches in a row are at least the cooldown apart. -/
def Spaced (rules : Rules) (lines : List (Number × Line)) : Prop :=
  lines.IsChain fun a b => a.2 = .breach → b.2 = .breach → rules.cooldownMs.le (b.1 - a.1) = true

/-- A breach that is the last line is the one that the state remembers. -/
theorem Tells.remembered (h : Tells s lines) {time : Number}
    (hlast : lines.getLast? = some (time, .breach)) :
    s.breached = true ∧ s.lastBreach = some time := by
  obtain ⟨before, rfl⟩ := List.getLast?_eq_some_iff.mp hlast
  have hbreached := h.breached
  have htime := h.last
  simp [words] at hbreached
  simp [breachTimes] at htime
  exact ⟨hbreached, htime⟩

theorem Move.spaced (hmove : Move rules now s found next new) (htells : Tells s lines)
    (h : Spaced rules lines) : Spaced rules (lines ++ new.map fun line => (now, line)) := by
  cases hmove with
  | announce hfresh =>
    refine List.isChain_append.mpr ⟨h, List.IsChain.singleton _, ?_⟩
    rintro ⟨time, line⟩ hline b hb hbreach -
    obtain rfl : line = .breach := hbreach
    obtain rfl : b = (now, .breach) := by simpa using hb.symm
    obtain ⟨hs, hlast⟩ := htells.remembered hline
    -- The breach went on, so that the cooldown had to pass before it was announced again.
    have hcooled := hfresh.resolve_left (by rw [hs]; decide)
    rwa [cooledDown, hlast] at hcooled
  | persist hb hc => simpa using h
  | recover hb =>
    refine List.isChain_append.mpr ⟨h, List.IsChain.singleton _, ?_⟩
    intro a _ b hb _ hbreach
    obtain rfl : b = (now, .recovery) := by simpa using hb.symm
    cases hbreach
  | rest hb => simpa using h

/-- After an evaluation that finds a breach the cooldown has not passed since the last line. -/
theorem Move.not_overdue (hmove : Move rules now s found next new)
    (hpos : Number.lt 0 rules.cooldownMs = true) (hnext : next.breached = true) :
    ∃ last, next.lastBreach = some last ∧
      ((now - last).isNaN = false → (now - last).lt rules.cooldownMs = true) := by
  obtain ⟨-, hnan, hplace⟩ := (Number.lt_iff _ _).mp hpos
  cases hmove with
  | announce _ =>
    refine ⟨now, rfl, fun hsub => (Number.lt_iff _ _).mpr ⟨hsub, hnan, ?_⟩⟩
    rw [Number.place_sub_self hsub]
    rwa [Number.place_zero] at hplace
  | persist hb hc =>
    cases hlast : s.lastBreach with
    | none =>
      rw [cooledDown, hlast] at hc
      cases hc
    | some last =>
      rw [cooledDown, hlast] at hc
      exact ⟨last, rfl, fun hsub => Number.lt_of_not_le hsub hnan hc⟩
  | recover hb => cases hnext
  | rest hb => exact absurd hnext (by rw [hb]; decide)

theorem spaced_run (rules : Rules) (evaluations : List Evaluation) (alert : Kind) :
    Spaced rules ((History.run rules evaluations).lines alert) := by
  induction evaluations using List.reverseRecOn with
  | nil => exact List.IsChain.nil
  | append_singleton before e ih =>
    obtain ⟨found, new, hmove, hlines⟩ :=
      History.extend_move rules (History.run rules before) e alert
    rw [History.run_concat, hlines]
    exact hmove.spaced (tells_run rules before alert) ih

/-- With a positive cooldown two breaches of an alert with no recovery between them are at least
the cooldown apart, and after each evaluation that leaves the alert breached less than the cooldown
has passed since the last of them, as far as the difference is a number. A breach behind a recovery
is counted at once. -/
theorem reminders_of_run (rules : Rules) (hpos : Number.lt 0 rules.cooldownSec = true)
    (evaluations : List Evaluation) (alert : Kind) :
    let h := History.run rules evaluations
    ((h.lines alert).IsChain fun a b =>
      a.2 = .breach → b.2 = .breach → rules.cooldownMs.le (b.1 - a.1) = true) ∧
    ∀ e, let after := History.run rules (evaluations ++ [e])
      (after.states.get alert).breached = true →
      (∃ last, (after.states.get alert).lastBreach = some last ∧
        ((e.now - last).isNaN = false → (e.now - last).lt rules.cooldownMs = true) ∧
        (e.now.isFinite = true → last.isFinite = true → (e.now - last).isNaN = false)) ∧
      ((words (h.lines alert)).getLast? ≠ some .breach →
        (after.states.get alert).breachCount = (h.states.get alert).breachCount + 1 ∧
        (after.states.get alert).lastBreach = some e.now ∧
        after.lines alert = h.lines alert ++ [(e.now, .breach)]) := by
  intro h
  refine ⟨spaced_run rules evaluations alert, fun e => ?_⟩
  intro after hbreached
  have htells := tells_run rules evaluations alert
  obtain ⟨found, new, hmove, hlines⟩ := History.extend_move rules h e alert
  rw [← History.run_concat] at hmove hlines
  obtain ⟨last, hlast, hlt⟩ := hmove.not_overdue (Rules.cooldownMs_pos hpos) hbreached
  refine ⟨⟨last, hlast, hlt, Number.isNaN_sub⟩, fun hend => ?_⟩
  have hrest : (h.states.get alert).breached = false :=
    Bool.eq_false_iff.mpr fun hb => hend (htells.breached.mp hb)
  obtain ⟨hcount, htime, rfl⟩ := hmove.announced hrest hbreached
  exact ⟨hcount, htime, hlines⟩

/-- A breach, a reminder after exactly the cooldown, a recovery, and at once a new breach. -/
theorem reminders_of_new_breach :
    let evaluations : List Evaluation :=
      [⟨[slowSample], 5000⟩, ⟨[slowSample], 5500⟩, ⟨[slowSample], 6000⟩, ⟨[], 6200⟩]
    let h := History.run promptRules evaluations
    let after := History.run promptRules (evaluations ++ [⟨[slowSample], 6300⟩])
    Number.lt 0 promptRules.cooldownSec = true ∧
      h.lines .requestP95 = [(5000, .breach), (6000, .breach), (6200, .recovery)] ∧
      promptRules.cooldownMs.le (6000 - 5000) = true ∧
      after.lines .requestP95 = h.lines .requestP95 ++ [(6300, .breach)] ∧
      (after.states.get .requestP95).breachCount = 3 := by
  intro evaluations h after
  have hpos : Number.lt 0 promptRules.cooldownSec = true := by decide +kernel
  have hlines : h.lines .requestP95 = [(5000, .breach), (6000, .breach), (6200, .recovery)] := by
    decide +kernel
  have hcount : (h.states.get .requestP95).breachCount = 2 := by decide +kernel
  have hbreached : (after.states.get .requestP95).breached = true := by decide +kernel
  obtain ⟨hspaced, hafter⟩ := reminders_of_run promptRules hpos evaluations .requestP95
  obtain ⟨-, hfresh⟩ := hafter ⟨[slowSample], 6300⟩ hbreached
  have hend : (words (h.lines .requestP95)).getLast? ≠ some .breach := by
    rw [hlines]
    decide
  obtain ⟨hnext, -, hmore⟩ := hfresh hend
  rw [hlines] at hspaced
  exact ⟨hpos, hlines, (List.isChain_cons_cons.mp hspaced).1 rfl rfl, hmore, by rw [hnext, hcount]⟩

/-- After an evaluation at a time that is no number, no time is late enough for a reminder. -/
theorem reminder_lost_after_nan :
    let h := History.run promptRules [⟨[slowSample], .nan⟩, ⟨[slowSample], 1000000⟩]
    let s := h.states.get .requestP95
    Number.lt 0 promptRules.cooldownSec = true ∧ s.breached = true ∧
      ∃ last, s.lastBreach = some last ∧
        (1000000 - last : Number).lt promptRules.cooldownMs = false ∧
        h.lines .requestP95 = [(.nan, .breach)] := by
  intro h s
  exact ⟨by decide +kernel, by decide +kernel, .nan, by decide +kernel, by decide +kernel,
    by decide +kernel⟩

end Telemetry.Alert
