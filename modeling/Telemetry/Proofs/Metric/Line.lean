import Telemetry.Proofs.Metric.Sink
import Telemetry.Proofs.Metric.ValueText
import Telemetry.Proofs.Metric.Wire
import Telemetry.Proofs.Settings.Resolution

/-! # Lines that can be split in one way

Scopes and names are cleaned in different places, each in several passes over the text. Together
they leave no character that could end a name early, and the texts of accepted numbers have no
character but digits, points and exponents. So whatever names and numbers a sink is given, a line
has one colon and one bar, and its parts can be told from it.
-/
namespace Telemetry.Metric
open Telemetry.Number (unit unit_pos isPlain)
open Telemetry.Text (IsStripped)

attribute [local irreducible] Number.unit Number.unitBits

section Names

/-- Characters of names, at least one of them, and neither a point nor an underscore at an end. -/
structure IsName (name : String) : Prop where
  nonempty : name ≠ ""
  chars : ∀ c ∈ name.toList, isNameChar c = true
  ends : IsStripped isEdge name.toList

/-- What is sent below a scope for a name. -/
def namePart (name : String) : String :=
  let cs := cleanName name.toList
  if cs.isEmpty then "metric" else String.ofList cs

theorem metricName_eq (s : Sink) (name : String) :
    s.metricName name = s.settings.scope ++ "." ++ namePart name := rfl

theorem toNat_of_isNameChar {c : Char} (h : isNameChar c = true) : 45 ≤ c.toNat ∧ c.toNat ≤ 122 := by
  delta isNameChar Char.isAlphanum Char.isAlpha Char.isUpper Char.isLower Char.isDigit at h
  simp only [Bool.or_eq_true, Bool.and_eq_true, beq_iff_eq, decide_eq_true_eq, ge_iff_le,
    UInt32.le_iff_toNat_le] at h
  rcases h with ((((h | h) | h) | rfl) | rfl) | rfl
  · exact ⟨le_trans (by decide) h.1, le_trans h.2 (by decide)⟩
  · exact ⟨le_trans (by decide) h.1, le_trans h.2 (by decide)⟩
  · exact ⟨le_trans (by decide) h.1, le_trans h.2 (by decide)⟩
  all_goals decide

theorem isBlank_of_isNameChar {c : Char} (h : isNameChar c = true) : Text.isBlank c = false := by
  have hn := toNat_of_isNameChar h
  simp only [Text.isBlank, Bool.or_eq_false_iff, Bool.and_eq_false_iff, decide_eq_false_iff_not,
    beq_eq_false_iff_ne]
  omega

theorem isName_namePart (name : String) : IsName (namePart name) := by
  unfold namePart
  dsimp only
  split
  · refine ⟨by decide, List.all_eq_true.mp (by decide), ⟨?_, ?_⟩⟩ <;>
    · intro c hc
      cases hc
      decide
  · rename_i hne
    refine ⟨?_, fun c hc => ?_, ?_⟩
    · rwa [Settings.ne_empty_iff, String.toList_ofList, ne_eq, ← List.isEmpty_iff]
    · rw [String.toList_ofList] at hc
      exact Settings.isNameChar_of_mem_squash (Text.mem_of_mem_stripWhile hc)
    · rw [String.toList_ofList]
      exact Text.isStripped_stripWhile _ _

/-- A name that has its form already is not changed by any of the passes. -/
theorem IsName.isClean {name : String} (h : IsName name) : IsClean name := by
  have hblank : IsStripped Text.isBlank name.toList :=
    .of_forall fun c hc => isBlank_of_isNameChar (h.chars c hc)
  refine ⟨?_, (Settings.ne_empty_iff name).mp h.nonempty⟩
  rw [cleanName, Text.trimChars, hblank.stripWhile_eq, squash_eq_self h.chars, h.ends.stripWhile_eq]

theorem metricName_namePart (s : Sink) (name : String) :
    s.metricName (namePart name) = s.metricName name :=
  scopedName_of_isClean (isName_namePart name).isClean s.settings.scope

theorem isNameChar_metricName {s : Sink} (hscope : Settings.IsScope s.settings.scope)
    (name : String) : ∀ c ∈ (s.metricName name).toList, isNameChar c = true := by
  intro c hc
  rw [metricName_eq, String.toList_append, String.toList_append] at hc
  rcases List.mem_append.mp hc with hc | hc
  · rcases List.mem_append.mp hc with hc | hc
    · exact hscope.chars c hc
    · rw [List.mem_singleton.mp hc]
      decide
  · exact (isName_namePart name).chars c hc

end Names

section Amounts

def isAmountChar (c : Char) : Bool := c.isDigit || c == '.' || c == 'e' || c == '+'

/-- The text of a finite number, without a sign. -/
structure IsAmount (text : String) : Prop where
  chars : ∀ c ∈ text.toList, isAmountChar c = true
  opens : ∃ c ∈ text.toList.head?, c.isDigit = true
  finite : (Number.ofText text).isFinite = true

theorem isPlain_eq (c : Char) : isPlain c = (isAmountChar c || c == '-') := rfl

theorem isAmountChar_of_isPlain {c : Char} (h : isPlain c = true) (hminus : c ≠ '-') :
    isAmountChar c = true := by
  rw [isPlain_eq, Bool.or_eq_true, beq_iff_eq] at h
  exact h.resolve_right hminus

theorem isPlain_of_isAmountChar {c : Char} (h : isAmountChar c = true) : isPlain c = true := by
  rw [isPlain_eq, h, Bool.true_or]

/-- Fractions of numbers that are not too large are finite. -/
theorem isFinite_ofRatio {num den : Nat} (hd : 0 < den) (h : num ≤ 10 ^ 21 * den) :
    (Number.ofRatio false num den).isFinite = true := by
  have hle := Number.ofRatio_le_ofRatio hd Nat.one_pos (by rwa [Nat.mul_one] : num * 1 ≤ 10 ^ 21 * den)
  rw [Number.ofRatio_def] at hle ⊢
  refine (Number.isFinite_ofUnits_or false _ _).resolve_right fun hinf => ?_
  rw [hinf] at hle
  exact absurd hle (by decide +kernel)

section Magnitudes

variable {units : Nat} (hf : Number.Fits units) (hb : units.log2 < Number.limitBits)

theorem isAmount_toText (h : unit ≤ units) : IsAmount (Number.finite false units hf hb).toText := by
  have hchars : (Number.finite false units hf hb).toText.toList = Number.magnitudeText units := by
    rw [Number.toText, String.toList_ofList, Number.toChars, Bool.false_and,
      if_neg Bool.false_ne_true, List.nil_append]
  refine ⟨fun c hc => ?_, ?_, ?_⟩
  · rw [hchars] at hc
    refine isAmountChar_of_isPlain (Number.isPlain_of_mem_magnitudeText units c hc) ?_
    rintro rfl
    exact minus_not_mem_magnitudeText hf h hc
  · obtain ⟨whole, tail, hmagnitude⟩ := Json.isMagnitude_magnitudeText units
    obtain ⟨c, more, hcs, hc⟩ := hmagnitude.opens
    rw [hchars, hcs]
    exact ⟨c, rfl, hc⟩
  · rw [Number.ofText_toText_finite]
    rfl

/-- With two decimals no number is too small to be written without an exponent. -/
theorem isAmount_toFixed : IsAmount ((Number.finite false units hf hb).toFixed 2) := by
  have hunit := unit_pos
  by_cases h : 10 ^ 21 * unit ≤ units
  · have htext : (Number.finite false units hf hb).toFixed 2 =
        (Number.finite false units hf hb).toText := by
      rw [Number.toFixed, Number.toFixedChars, Nat.pow_eq, if_pos h, Number.toText]
    rw [htext]
    exact isAmount_toText hf hb ((Nat.le_mul_of_pos_left unit (by decide)).trans h)
  · have hle := nearestUp_le (10 ^ 2) (Nat.le_of_lt (Nat.not_le.mp h))
    have htext : (Number.finite false units hf hb).toFixed 2 =
        String.ofList (Number.pointed (Number.nearestUp (units * 10 ^ 2) unit) 2) := by
      rw [Number.toFixed, Number.toFixedChars, Nat.pow_eq, if_neg h, Nat.pow_eq, Bool.false_and,
        if_neg Bool.false_ne_true, List.nil_append]
    obtain ⟨hopens, hread⟩ := Number.ofText_pointed (by decide : 0 < 2) (by decide)
      (hle.trans_lt (by decide : 10 ^ 21 * 10 ^ 2 < 10 ^ 200))
    rw [htext]
    refine ⟨fun c hc => ?_, by rwa [String.toList_ofList], ?_⟩
    · rw [String.toList_ofList] at hc
      rcases Number.mem_pointed hc with hd | rfl
      · exact isAmountChar_of_isPlain (Number.isPlain_of_isDigit hd) (by rintro rfl; cases hd)
      · decide
    · rw [hread]
      exact isFinite_ofRatio (by decide) hle

end Magnitudes

end Amounts

section Emissions

def Emission.name : Emission → String
  | .counter name _ => name
  | .timing name _ => name

def Emission.kind : Emission → String
  | .counter .. => "c"
  | .timing .. => "ms"

/-- The whole part of a counter, and a timing with two decimals. -/
def Emission.amount : Emission → String
  | .counter _ value => value.truncate.toText
  | .timing _ ms => ms.toFixed 2

theorem isNameChar_kind (e : Emission) : ∀ c ∈ e.kind.toList, isNameChar c = true := by
  rw [← List.all_eq_true]
  cases e with
  | counter name value => exact (by decide : "c".toList.all isNameChar = true)
  | timing name ms => exact (by decide : "ms".toList.all isNameChar = true)

theorem datagram?_eq (scope : String) (e : Emission) :
    datagram? scope e =
      if e.isAccepted then some ⟨scopedName scope e.name, e.amount, e.kind⟩ else none := by
  cases e <;> rfl

/-- What is truncated to one or more has no sign. -/
theorem exists_of_one_le_truncate {x : Number} (hfin : x.isFinite = true)
    (hle : Number.le 1 x.truncate = true) :
    ∃ units hf hb, x.truncate = .finite false units hf hb ∧ unit ≤ units := by
  have hunit := unit_pos
  cases x with
  | nan => cases hfin
  | infinity s => cases hfin
  | finite s units hf hb =>
    rw [Number.truncate_finite s hf hb] at hle ⊢
    have hplace := ((Number.le_iff _ _).mp hle).2.2
    rw [Number.place_literal (by decide), Nat.one_mul, Number.place] at hplace
    cases s with
    | true =>
      rw [Number.signed, if_pos rfl] at hplace
      omega
    | false =>
      rw [Number.signed, if_neg Bool.false_ne_true, Nat.cast_le] at hplace
      exact ⟨_, _, _, rfl, hplace⟩

/-- What is not below zero is written without a sign, also a zero that has one. -/
theorem toFixed_of_not_lt {x : Number} (hfin : x.isFinite = true) (hlt : x.lt 0 = false)
    (places : Nat) :
    ∃ units hf hb, x.toFixed places = (Number.finite false units hf hb).toFixed places := by
  have hzero : (0 : Number).isNaN = false :=
    Number.isNaN_of_isFinite (Number.isFinite_literal (by decide))
  rw [Number.not_lt_iff (Number.isNaN_of_isFinite hfin) hzero] at hlt
  have hplace := ((Number.le_iff _ _).mp hlt).2.2
  rw [Number.place_zero] at hplace
  cases x with
  | nan => cases hfin
  | infinity s => cases hfin
  | finite s units hf hb =>
    cases s with
    | false => exact ⟨units, hf, hb, rfl⟩
    | true =>
      rw [Number.place, Number.signed, if_pos rfl] at hplace
      obtain rfl : units = 0 := by omega
      refine ⟨0, hf, hb, ?_⟩
      simp [Number.toFixed, Number.toFixedChars, Number.toChars]

theorem isAmount_amount {e : Emission} (h : e.isAccepted = true) : IsAmount e.amount := by
  cases e with
  | counter name value =>
    obtain ⟨hfin, hle⟩ := Bool.and_eq_true_iff.mp h
    obtain ⟨units, hf, hb, htruncate, hone⟩ := exists_of_one_le_truncate hfin hle
    rw [Emission.amount, htruncate]
    exact isAmount_toText hf hb hone
  | timing name ms =>
    obtain ⟨hfin, hlt⟩ := Bool.and_eq_true_iff.mp h
    rw [Bool.not_eq_true'] at hlt
    obtain ⟨units, hf, hb, htext⟩ := toFixed_of_not_lt hfin hlt 2
    rw [Emission.amount, htext]
    exact isAmount_toFixed hf hb

end Emissions

section Splitting

/-- A text that is split in one way only, without blanks and line ends. -/
structure Datagram.Splits (d : Datagram) : Prop where
  colon : d.text.toList.count ':' = 1
  bar : d.text.toList.count '|' = 1
  unblank : ∀ c ∈ d.text.toList, Text.isBlank c = false
  unique : ∀ other : Datagram, other.text = d.text → other = d

theorem Datagram.toList_text (d : Datagram) :
    d.text.toList = d.name.toList ++ ':' :: (d.value.toList ++ '|' :: d.kind.toList) := by
  simp [Datagram.text]

theorem count_mark {mark : Char} {front back : List Char} (hfront : mark ∉ front)
    (hback : mark ∉ back) : (front ++ mark :: back).count mark = 1 := by
  rw [List.count_append, List.count_eq_zero.mpr hfront, List.count_cons_self,
    List.count_eq_zero.mpr hback]

/-- A datagram whose parts have no character that separates two parts. -/
theorem Datagram.splits {d : Datagram} (hname : ∀ c ∈ d.name.toList, isNameChar c = true)
    (hvalue : ∀ c ∈ d.value.toList, isAmountChar c = true)
    (hkind : ∀ c ∈ d.kind.toList, isNameChar c = true) : d.Splits := by
  have hparts : ∀ mark, isNameChar mark = false → isAmountChar mark = false →
      mark ∉ d.name.toList ∧ mark ∉ d.value.toList ∧ mark ∉ d.kind.toList := by
    intro mark hn ha
    refine ⟨fun hc => ?_, fun hc => ?_, fun hc => ?_⟩
    · exact absurd (hname mark hc) (by rw [hn]; decide)
    · exact absurd (hvalue mark hc) (by rw [ha]; decide)
    · exact absurd (hkind mark hc) (by rw [hn]; decide)
  obtain ⟨hcolonName, hcolonValue, hcolonKind⟩ := hparts ':' (by decide) (by decide)
  obtain ⟨hbarName, hbarValue, hbarKind⟩ := hparts '|' (by decide) (by decide)
  have hcolon : ':' ∉ d.value.toList ++ '|' :: d.kind.toList := by
    simp [hcolonValue, hcolonKind]
  constructor
  case colon =>
    rw [d.toList_text]
    exact count_mark hcolonName hcolon
  case bar =>
    have hfront : '|' ∉ d.name.toList ++ ':' :: d.value.toList := by
      simp [hbarName, hbarValue]
    rw [d.toList_text, ← List.cons_append, ← List.append_assoc]
    exact count_mark hfront hbarKind
  case unblank =>
    intro c hc
    rw [d.toList_text] at hc
    simp only [List.mem_append, List.mem_cons] at hc
    rcases hc with hc | rfl | hc | rfl | hc
    · exact isBlank_of_isNameChar (hname c hc)
    · decide
    · exact Number.isBlank_of_isPlain (isPlain_of_isAmountChar (hvalue c hc))
    · decide
    · exact isBlank_of_isNameChar (hkind c hc)
  case unique =>
    intro other hother
    have htext := congrArg String.toList hother
    rw [d.toList_text, other.toList_text] at htext
    obtain ⟨hn, -, hrest⟩ := (List.append_cons_inj_of_notMem hcolonName hcolon).mp htext.symm
    obtain ⟨hv, -, hk⟩ := (List.append_cons_inj_of_notMem hbarValue hbarKind).mp hrest
    cases d
    cases other
    simp only [Datagram.mk.injEq]
    exact ⟨(String.toList_inj.mp hn).symm, (String.toList_inj.mp hv).symm,
      (String.toList_inj.mp hk).symm⟩

end Splitting

section Sending

/-- A socket is held or can be made, and it takes what is sent. -/
def Sink.reaches (s : Sink) (net : Network) : Bool :=
  (s.held.isSome || !net.createThrows) && !net.sendThrows

theorem actions_report (s : Sink) (clock : Reading) (cause : Failure) :
    (s.report clock cause).actions = [] := by
  cases clock with
  | error failure => rfl
  | ok now =>
    rw [report_ok]
    split <;> rfl

/-- What is attempted does not depend on the clock, which only the report of a failure reads. -/
theorem actions_transmit (s : Sink) (t : Trial) (socket : Nat) (line : String) :
    (s.transmit t socket line).actions = [t.network.attempt socket line] := by
  unfold Sink.transmit Network.attempt
  cases t.network.sendThrows with
  | true => simp [SinkStep.after, actions_report]
  | false =>
    cases t.network.sendError with
    | none => rfl
    | some message =>
      cases h : (s.report t.clock (.plain message)).failure <;>
        simp [SinkStep.after, actions_report, h]

theorem sentLines_attempt (net : Network) (socket : Nat) (line : String) :
    sentLines [net.attempt socket line] = if net.sendThrows then [] else [line] := by
  unfold Network.attempt
  split <;> rfl

/-- A line is sent by a sink that is on and has a socket to send it over. -/
theorem sentLines_emit (s : Sink) (t : Trial) (line : String) :
    sentLines (s.emit t line).actions =
      if s.settings.enabled && s.reaches t.network then [line] else [] := by
  unfold Sink.emit Sink.reaches
  cases s.settings.enabled with
  | false => rfl
  | true =>
    cases s.held with
    | some socket =>
      dsimp only
      rw [if_neg (by decide), actions_transmit, sentLines_attempt]
      cases t.network.sendThrows <;> rfl
    | none =>
      cases t.network.createThrows with
      | true => simp [SinkStep.after, actions_report, sentLines]
      | false =>
        -- Making a socket sends nothing yet.
        have hmade : ∀ socket rest, sentLines
            ([.create true, .listen socket, .unref socket] ++ rest) = sentLines rest :=
          fun socket rest => rfl
        simp only [Bool.not_true, Bool.false_eq_true, if_false, SinkStep.after, actions_transmit]
        rw [hmade, sentLines_attempt]
        cases t.network.sendThrows <;> rfl

theorem sentLines_perform (s : Sink) (t : Trial) (e : Emission) :
    sentLines (s.perform t e).actions =
      if s.settings.enabled && s.reaches t.network && e.isAccepted then
        [Datagram.text ⟨s.metricName e.name, e.amount, e.kind⟩] else [] := by
  rw [perform_eq_emit?, datagram?_eq]
  cases e.isAccepted with
  | false => simp [Sink.emit?, sentLines]
  | true =>
    rw [if_pos rfl, Option.map_some, Sink.emit?, sentLines_emit, Bool.and_true]
    rfl

end Sending

/-- A sink that is on and has a socket sends exactly one line for an emission that is accepted, and
none for any other. Below any cleaned scope and for any name and number the line is split in one
way only. A name that is cleaned once is not changed by cleaning it again. -/
theorem lines_of_emission (raw : Datum) {s : Sink}
    (hscope : s.settings.scope = cleanScope (raw.text?.getD "")) (t : Trial) (e : Emission) :
    (sentLines (s.perform t e).actions).length =
        (if s.settings.enabled && s.reaches t.network && e.isAccepted then 1 else 0) ∧
      (∀ line ∈ sentLines (s.perform t e).actions, ∃ d : Datagram, d.text = line ∧
        d.name = s.settings.scope ++ "." ++ namePart e.name ∧ IsAmount d.value ∧
        d.kind = e.kind ∧ d.Splits) ∧
      IsName (namePart e.name) ∧
      s.metricName e.name = s.settings.scope ++ "." ++ namePart e.name ∧
      s.metricName (namePart e.name) = s.metricName e.name := by
  have hlines := sentLines_perform s t e
  refine ⟨?_, fun line hline => ?_, isName_namePart e.name, metricName_eq s e.name,
    metricName_namePart s e.name⟩
  · rw [hlines]
    split <;> rfl
  · rw [hlines] at hline
    split at hline
    · rename_i hsent
      have haccepted := (Bool.and_eq_true_iff.mp hsent).2
      have hamount := isAmount_amount haccepted
      have hname := isNameChar_metricName (hscope ▸ Settings.isScope_cleanScope _) e.name
      rw [List.mem_singleton] at hline
      exact ⟨⟨s.metricName e.name, e.amount, e.kind⟩, hline.symm, metricName_eq s e.name, hamount,
        rfl, Datagram.splits hname hamount.chars (isNameChar_kind e)⟩
    · cases hline

/-- A name that would forge a line of its own, and a value whose text has an exponent. -/
theorem lines_of_emission_of_forged_name :
    let s : Sink := { settings := { enabled := true, scope := cleanScope "..my app.." } }
    let e : Emission := .counter " _a:1|c\nb:_. " (Number.ofText "2.5e21")
    sentLines (s.perform {} e).actions = ["my_app.a_1_c_b:2.5e+21|c"] ∧
      (∃ d : Datagram, d.text = "my_app.a_1_c_b:2.5e+21|c" ∧ IsAmount d.value ∧ d.Splits) ∧
      s.metricName "a_1_c_b" = s.metricName " _a:1|c\nb:_. " := by
  intro s e
  have hsent : sentLines (s.perform {} e).actions = ["my_app.a_1_c_b:2.5e+21|c"] := by
    decide +kernel
  have hpart : namePart e.name = "a_1_c_b" := by decide +kernel
  have hscope : s.settings.scope = cleanScope ((Datum.text "..my app..").text?.getD "") := rfl
  obtain ⟨-, hlines, -, -, hname⟩ := lines_of_emission (.text "..my app..") hscope {} e
  rw [hsent] at hlines
  rw [hpart] at hname
  obtain ⟨d, htext, -, hamount, -, hsplits⟩ := hlines _ (List.mem_singleton_self _)
  exact ⟨hsent, ⟨d, htext, hamount, hsplits⟩, hname⟩

/-- Accepted, and still not sent: by a sink that is off, as sinks are by default, where no socket
can be made, and where the socket throws. -/
theorem accepted_lines_unsent :
    let e : Emission := .counter "hits" 1
    let off : Sink := { settings := { scope := cleanScope "app" } }
    let on : Sink := { settings := { enabled := true, scope := cleanScope "app" } }
    e.isAccepted = true ∧
      sentLines (off.perform {} e).actions = [] ∧
      sentLines (on.perform { network := { createThrows := true } } e).actions = [] ∧
      sentLines (on.perform { network := { sendThrows := true } } e).actions = [] := by
  decide +kernel

end Telemetry.Metric
