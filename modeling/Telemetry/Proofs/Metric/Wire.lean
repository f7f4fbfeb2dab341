import Telemetry.Metric.Sink
import Telemetry.Proofs.Metric.Amount
import Telemetry.Proofs.Metric.Rows

/-! # Datagrams

A datagram is a name, a value and a kind. A receiver splits it at its last colon and its last bar,
so that any scope may stand in front of a name. While no socket fails, every emission that has
something to say is one datagram, and the receiver adds up under each name what was emitted.
-/
namespace Telemetry.Metric
open Telemetry.Number (exactLimit isPlain)

structure Datagram where
  name : String
  value : String
  kind : String
  deriving DecidableEq

def Datagram.text (d : Datagram) : String := d.name ++ ":" ++ d.value ++ "|" ++ d.kind

/-- What stands before and behind the last mark. -/
def splitLast? (mark : Char) : List Char → Option (List Char × List Char)
  | [] => none
  | c :: rest =>
    match splitLast? mark rest with
    | some (front, back) => some (c :: front, back)
    | none => if c = mark then some ([], rest) else none

def readDatagram? (line : String) : Option Datagram :=
  (splitLast? ':' line.toList).bind fun named =>
    (splitLast? '|' named.2).map fun valued =>
      ⟨String.ofList named.1, String.ofList valued.1, String.ofList valued.2⟩

/-- The whole numbers of the counters of one name. -/
def counts? (name : String) (received : List Datagram) : Option (List Nat) :=
  (received.filter fun d => d.name = name ∧ d.kind = "c").mapM fun d => readNat? d.value

def timings (name : String) (received : List Datagram) : List Datagram :=
  received.filter fun d => d.name = name ∧ d.kind = "ms"

section Reading

theorem splitLast?_eq_none {mark : Char} {cs : List Char} (h : mark ∉ cs) :
    splitLast? mark cs = none := by
  induction cs with
  | nil => rfl
  | cons c rest ih =>
    rw [splitLast?, ih (List.not_mem_of_not_mem_cons h)]
    exact if_neg (Ne.symm (List.ne_of_not_mem_cons h))

theorem splitLast?_append {mark : Char} (front : List Char) {back : List Char} (h : mark ∉ back) :
    splitLast? mark (front ++ mark :: back) = some (front, back) := by
  induction front with
  | nil =>
    rw [List.nil_append, splitLast?, splitLast?_eq_none h]
    exact if_pos rfl
  | cons c rest ih => rw [List.cons_append, splitLast?, ih]

/-- A datagram whose value is the text of a number is read back, whatever its name is. -/
theorem readDatagram?_text {d : Datagram} (hvalue : ∀ c ∈ d.value.toList, isPlain c = true)
    (hkind : d.kind = "c" ∨ d.kind = "ms") : readDatagram? d.text = some d := by
  obtain ⟨name, value, kind⟩ := d
  dsimp only at hvalue hkind
  have hplain : ∀ mark, isPlain mark = false → mark ∉ value.toList := by
    intro mark hmark hc
    rw [hvalue mark hc] at hmark
    cases hmark
  have hbar : '|' ∉ kind.toList := by rcases hkind with rfl | rfl <;> decide
  have hcolon : ':' ∉ value.toList ++ '|' :: kind.toList := by
    have hk : ':' ∉ kind.toList := by rcases hkind with rfl | rfl <;> decide
    simp [hplain ':' (by decide), hk]
  have hline : (Datagram.text ⟨name, value, kind⟩).toList =
      name.toList ++ ':' :: (value.toList ++ '|' :: kind.toList) := by
    simp [Datagram.text]
  rw [readDatagram?, hline, splitLast?_append _ hcolon, Option.bind_some,
    splitLast?_append _ hbar, Option.map_some]
  simp only [String.ofList_toList]

end Reading

section Names

/-- A name that is sent as it is. -/
def IsClean (name : String) : Prop := cleanName name.toList = name.toList ∧ name.toList ≠ []

instance (name : String) : Decidable (IsClean name) := inferInstanceAs (Decidable (_ ∧ _))

theorem scopedName_of_isClean {name : String} (h : IsClean name) (scope : String) :
    scopedName scope name = scope ++ "." ++ name := by
  have hempty : (cleanName name.toList).isEmpty = false := by
    rw [h.1]
    simpa using h.2
  rw [scopedName, if_neg (by rw [hempty]; decide), h.1, String.ofList_toList]

theorem squash_eq_self {p : Char → Bool} {cs : List Char} (h : ∀ c ∈ cs, p c = true)
    (inRun : Bool) : squash p inRun cs = cs := by
  induction cs generalizing inRun with
  | nil => rfl
  | cons c rest ih =>
    rw [squash, if_pos (h c List.mem_cons_self), ih fun d hd => h d (List.mem_cons_of_mem _ hd)]

theorem isClean_of_ends {name : String} {first last : Char}
    (hchars : ∀ c ∈ name.toList, isNameChar c = true)
    (hfirst : name.toList.head? = some first) (hlast : name.toList.getLast? = some last)
    (hends : ∀ c ∈ [first, last], Text.isBlank c = false ∧ isEdge c = false) : IsClean name := by
  simp only [List.forall_mem_cons] at hends
  obtain ⟨⟨hfirstBlank, hfirstEdge⟩, ⟨hlastBlank, hlastEdge⟩, -⟩ := hends
  have hblank : Text.IsStripped Text.isBlank name.toList :=
    ⟨by simpa [hfirst] using hfirstBlank, by simpa [hlast] using hlastBlank⟩
  have hedge : Text.IsStripped isEdge name.toList :=
    ⟨by simpa [hfirst] using hfirstEdge, by simpa [hlast] using hlastEdge⟩
  refine ⟨?_, ?_⟩
  · rw [cleanName, Text.trimChars, hblank.stripWhile_eq, squash_eq_self hchars, hedge.stripWhile_eq]
  · intro hnil
    rw [hnil] at hfirst
    cases hfirst

theorem isNameChar_of_isPlain {c : Char} (h : isPlain c = true) (hplus : c ≠ '+') :
    isNameChar c = true := by
  simp only [isPlain, Bool.or_eq_true, beq_iff_eq] at h
  rcases h with (((hd | rfl) | rfl) | rfl) | rfl
  · simp [isNameChar, Char.isAlphanum, hd]
  · decide
  · decide
  · exact absurd rfl hplus
  · decide

/-- The class of a code below `10 ^ 21` can be part of a name. -/
theorem isClean_status {value : Datum}
    (h : ∀ code, statusCode? value = some code → code.lt (Number.ofNat (10 ^ 21)) = true) :
    IsClean ("http.status_" ++ statusClass value) := by
  have hlast : ("http.status_" ++ statusClass value).toList.getLast? = some 'x' := by
    obtain ⟨front, he⟩ := statusClass_eq_append value
    have hend : ("http.status_" ++ (front ++ "xx")).toList =
        ("http.status_" ++ front).toList ++ ['x'] ++ ['x'] := by
      simp
    rw [he, hend, List.getLast?_concat]
  have hfirst : ("http.status_" ++ statusClass value).toList.head? = some 'h' := by simp
  have hends : ∀ c ∈ ['h', 'x'], Text.isBlank c = false ∧ isEdge c = false :=
    List.forall_mem_cons.mpr ⟨by decide, List.forall_mem_singleton.mpr (by decide)⟩
  refine isClean_of_ends (fun c hc => ?_) hfirst hlast hends
  rw [String.toList_append, List.mem_append] at hc
  rcases hc with hc | hc
  · have hall : "http.status_".toList.all isNameChar = true := by decide +kernel
    exact List.all_eq_true.mp hall c hc
  · rcases mem_statusClass h hc with rfl | ⟨hplain, hplus⟩
    · decide
    · exact isNameChar_of_isPlain hplain hplus

end Names

section Emissions

/-- What an emission sends below a scope. -/
def datagram? (scope : String) : Emission → Option Datagram
  | .counter name value =>
    if value.isFinite && Number.le 1 value.truncate then
      some ⟨scopedName scope name, value.truncate.toText, "c"⟩
    else none
  | .timing name ms =>
    if ms.isFinite && !ms.lt 0 then some ⟨scopedName scope name, ms.toFixed 2, "ms"⟩ else none

theorem text_counter (name value : String) :
    Datagram.text ⟨name, value, "c"⟩ = name ++ ":" ++ value ++ "|c" := by
  rw [Datagram.text, String.append_assoc]
  rfl

theorem text_timing (name value : String) :
    Datagram.text ⟨name, value, "ms"⟩ = name ++ ":" ++ value ++ "|ms" := by
  rw [Datagram.text, String.append_assoc]
  rfl

theorem counterLine?_eq (s : Sink) (name : String) (value : Number) :
    s.counterLine? name value =
      (datagram? s.settings.scope (.counter name value)).map Datagram.text := by
  unfold Sink.counterLine? datagram?
  split
  · rename_i h
    simp only [h, if_true, Option.map_some, text_counter, Sink.metricName]
  · rename_i h
    simp only [h, Bool.false_eq_true, if_false, Option.map_none]

theorem timingLine?_eq (s : Sink) (name : String) (ms : Number) :
    s.timingLine? name ms = (datagram? s.settings.scope (.timing name ms)).map Datagram.text := by
  unfold Sink.timingLine? datagram?
  split
  · rename_i h
    simp only [h, if_true, Option.map_some, text_timing, Sink.metricName]
  · rename_i h
    simp only [h, Bool.false_eq_true, if_false, Option.map_none]

theorem perform_eq_emit? (s : Sink) (t : Trial) (e : Emission) :
    s.perform t e = s.emit? t ((datagram? s.settings.scope e).map Datagram.text) := by
  cases e with
  | counter name value => rw [← counterLine?_eq, Sink.perform, Sink.counter]
  | timing name ms => rw [← timingLine?_eq, Sink.perform, Sink.timing]

/-- Whatever is sent can be read. -/
theorem readDatagram?_datagram? {scope : String} {e : Emission} {d : Datagram}
    (h : datagram? scope e = some d) : readDatagram? d.text = some d := by
  cases e with
  | counter name value =>
    rw [datagram?] at h
    split at h
    · rename_i hvalue
      obtain rfl := Option.some.inj h
      have hfin := (Number.isFinite_truncate value).trans (Bool.and_eq_true_iff.mp hvalue).1
      refine readDatagram?_text (fun c hc => ?_) (.inl rfl)
      rw [Number.toText, String.toList_ofList] at hc
      exact Number.isPlain_of_mem_toChars hfin c hc
    · cases h
  | timing name ms =>
    rw [datagram?] at h
    split at h
    · rename_i hms
      obtain rfl := Option.some.inj h
      refine readDatagram?_text (fun c hc => ?_) (.inr rfl)
      rw [Number.toFixed, String.toList_ofList] at hc
      exact Number.isPlain_of_mem_toFixedChars (Bool.and_eq_true_iff.mp hms).1 2 c hc
    · cases h

theorem mapM_readDatagram? (scope : String) (es : List Emission) :
    ((es.filterMap (datagram? scope)).map Datagram.text).mapM readDatagram? =
      some (es.filterMap (datagram? scope)) := by
  induction es with
  | nil => rfl
  | cons e rest ih =>
    cases h : datagram? scope e with
    | none => simpa [h] using ih
    | some d =>
      rw [List.filterMap_cons_some h, List.map_cons, List.mapM_cons, readDatagram?_datagram? h, ih]
      rfl

/-- Counts under clean names, and durations. -/
inductive Emission.Exact : Emission → Prop where
  | counter {name : String} (hname : IsClean name) {n : Nat} (hn : n < exactLimit) :
      Exact (.counter name (.ofNat n))
  | timing {name : String} (hname : IsClean name) {ms : Number} (hfin : ms.isFinite = true)
      (hpos : ms.lt 0 = false) : Exact (.timing name ms)

/-- What an emission adds to the counter of a name. -/
def Emission.count (name : String) : Emission → Nat
  | .counter other value => if other = name then wholeCount value else 0
  | .timing .. => 0

def Emission.isTiming (name : String) : Emission → Bool
  | .counter .. => false
  | .timing other _ => other = name

variable (scope name : String)

theorem datagram?_counter {other : String} (h : IsClean other) {n : Nat} (hn : n < exactLimit) :
    datagram? scope (.counter other (.ofNat n)) =
      if n = 0 then none else some ⟨scope ++ "." ++ other, toString n, "c"⟩ := by
  have hone : Number.le 1 (Number.ofNat n) = true ↔ 1 ≤ n := by
    rw [Number.literal_eq, Number.ofNat_le_ofNat (by decide) hn.le]
  rw [datagram?, Number.truncate_ofNat hn.le, Number.isFinite_ofNat hn.le, Bool.true_and,
    toText_ofNat hn, scopedName_of_isClean h]
  by_cases hz : n = 0
  · rw [if_pos hz, if_neg]
    rw [hone]
    omega
  · rw [if_neg hz, if_pos]
    rw [hone]
    omega

theorem datagram?_timing {other : String} (h : IsClean other) {ms : Number}
    (hfin : ms.isFinite = true) (hpos : ms.lt 0 = false) :
    datagram? scope (.timing other ms) = some ⟨scope ++ "." ++ other, ms.toFixed 2, "ms"⟩ := by
  rw [datagram?, hfin, hpos, scopedName_of_isClean h]
  rfl

/-- The counters that a receiver finds under a name add up to what was emitted. -/
theorem counts?_datagrams {es : List Emission} (h : ∀ e ∈ es, e.Exact) :
    ∃ found, counts? (scope ++ "." ++ name) (es.filterMap (datagram? scope)) = some found ∧
      found.sum = (es.map (Emission.count name)).sum := by
  induction es with
  | nil => exact ⟨[], rfl, rfl⟩
  | cons e rest ih =>
    obtain ⟨found, hfound, hsum⟩ := ih fun e he => h e (List.mem_cons_of_mem _ he)
    unfold counts? at hfound ⊢
    rw [List.map_cons, List.sum_cons, ← hsum]
    cases h e List.mem_cons_self with
    | @counter other hname n hn =>
      have hcount : Emission.count name (.counter other (.ofNat n)) = if other = name then n else 0 := by
        rw [Emission.count, wholeCount_ofNat hn.le]
      have hdatagram := datagram?_counter scope hname hn
      rw [hcount]
      by_cases hz : n = 0
      · rw [if_pos hz] at hdatagram
        rw [List.filterMap_cons_none hdatagram]
        exact ⟨found, hfound, by simp [hz]⟩
      · rw [if_neg hz] at hdatagram
        rw [List.filterMap_cons_some hdatagram]
        by_cases ho : other = name
        · rw [List.filter_cons_of_pos (by simp [ho]), List.mapM_cons, hfound]
          dsimp only
          rw [readNat?_toString]
          exact ⟨n :: found, rfl, by rw [if_pos ho, List.sum_cons]⟩
        · rw [List.filter_cons_of_neg (by simpa using ho)]
          exact ⟨found, hfound, by rw [if_neg ho, Nat.zero_add]⟩
    | timing hname hfin hpos =>
      rw [List.filterMap_cons_some (datagram?_timing scope hname hfin hpos),
        List.filter_cons_of_neg (by simp)]
      exact ⟨found, hfound, by rw [Emission.count, Nat.zero_add]⟩

theorem length_timings {es : List Emission} (h : ∀ e ∈ es, e.Exact) :
    (timings (scope ++ "." ++ name) (es.filterMap (datagram? scope))).length =
      es.countP (Emission.isTiming name) := by
  unfold timings
  rw [← List.countP_eq_length_filter, List.countP_filterMap]
  refine List.countP_congr fun e he => ?_
  cases h e he with
  | @counter other hname n hn =>
    rw [datagram?_counter scope hname hn]
    by_cases hz : n = 0 <;> simp [hz, Emission.isTiming]
  | timing hname hfin hpos =>
    rw [datagram?_timing scope hname hfin hpos]
    simp [Emission.isTiming]

end Emissions

section Sinks

def sentLines (actions : List SocketAction) : List String :=
  actions.filterMap fun action =>
    match action with
    | .send _ line => some line
    | _ => none

/-- Sockets can be made and send without an error. -/
structure Network.Sound (net : Network) : Prop where
  creates : net.createThrows = false
  sends : net.sendThrows = false
  delivers : net.sendError = none

theorem Trials.sound_calm (n : Nat) : (calm n).network.Sound := ⟨rfl, rfl, rfl⟩

/-- A step that sends some lines and leaves the sink as usable as before. -/
structure SinkStep.Sends (s : Sink) (lines : List String) (step : SinkStep) : Prop where
  settings : step.sink.settings = s.settings
  failure : step.failure = none
  lines : sentLines step.actions = lines

section Single

variable {t : Trial} (hsound : t.network.Sound) {s : Sink} (hon : s.settings.enabled = true)
include hsound

theorem transmit_sends (s : Sink) (socket : Nat) (line : String) :
    (s.transmit t socket line).Sends s [line] := by
  unfold Sink.transmit
  rw [if_neg (by rw [hsound.sends]; decide), hsound.delivers]
  exact ⟨rfl, rfl, rfl⟩

include hon

theorem emit_sends (line : String) : (s.emit t line).Sends s [line] := by
  unfold Sink.emit
  rw [if_neg (by rw [hon]; decide)]
  cases s.held with
  | some socket => exact transmit_sends hsound s socket line
  | none =>
    dsimp only
    rw [if_neg (by rw [hsound.creates]; decide)]
    obtain ⟨hsettings, hfailure, hlines⟩ := transmit_sends hsound
      { s with held := some (s.opened + 1), opened := s.opened + 1 } (s.opened + 1) line
    exact ⟨hsettings, hfailure, hlines⟩

theorem perform_sends (e : Emission) :
    (s.perform t e).Sends s ((datagram? s.settings.scope e).toList.map Datagram.text) := by
  have hline : ∀ line : Option Datagram, (s.emit? t (line.map Datagram.text)).Sends s
      (line.toList.map Datagram.text) := by
    intro line
    cases line with
    | none => exact ⟨rfl, rfl, rfl⟩
    | some d => exact emit_sends hsound hon d.text
  rw [perform_eq_emit?]
  exact hline _

end Single

/-- While no socket fails, emissions are sent in order. -/
theorem performAll_sends {trials : Trials} (hsound : ∀ n, (trials n).network.Sound) {s : Sink}
    (hon : s.settings.enabled = true) (es : List Emission) :
    (s.performAll trials es).Sends s
      ((es.filterMap (datagram? s.settings.scope)).map Datagram.text) := by
  induction es generalizing s trials with
  | nil => exact ⟨rfl, rfl, rfl⟩
  | cons e rest ih =>
    obtain ⟨hsettings, hfailure, hlines⟩ := perform_sends (hsound 0) hon e
    have hrest := ih (fun n => hsound (n + 1)) (s := (s.perform (trials 0) e).sink)
      (by rw [hsettings]; exact hon)
    rw [hsettings] at hrest
    rw [Sink.performAll, hfailure]
    refine ⟨hrest.settings.trans hsettings, hrest.failure, ?_⟩
    have happend : ∀ first second, sentLines (first ++ second) =
        sentLines first ++ sentLines second := fun first second => List.filterMap_append
    dsimp only
    rw [happend, hlines, hrest.lines, ← List.map_append]
    cases hd : datagram? s.settings.scope e with
    | none => rw [List.filterMap_cons_none hd, Option.toList_none, List.nil_append]
    | some d => rw [List.filterMap_cons_some hd, Option.toList_some, List.singleton_append]

end Sinks

end Telemetry.Metric
