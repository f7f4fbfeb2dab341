import Telemetry.Proofs.Settings.Resolution

/-! # Settings that are delivered as texts

The environment delivers flags as words and numbers as numerals, and blanks may stand around each
of them. The settings do not depend on that. Only the scope is not trimmed, so that blanks around it
would count.
-/
namespace Telemetry.Settings

inductive Kind where
  | flag
  | number
  | text

/-- Whether a value is of a kind, or missing. -/
def Kind.fits : Kind → Datum → Bool
  | _, .absent => true
  | .flag, .flag _ => true
  | .number, .number x => x.isFinite
  | .text, .text _ => true
  | _, _ => false

/-- The places of the tree that are read, with the kind of each value. -/
def fields : List (List String × Kind) := [
  (["app", "name"], .text),
  (["logging", "level"], .text),
  (["server", "host"], .text),
  (["server", "port"], .number),
  (["server", "healthPath"], .text),
  (["server", "metricsAllowUnauthenticated"], .flag),
  (["server", "metricsAuthToken"], .text),
  (["server", "perfLogEnabled"], .flag),
  (["server", "requestIdHeaderEnabled"], .flag),
  (["server", "slowQueryMs"], .number),
  (["observability", "metricsEnabled"], .flag),
  (["observability", "prometheusEnabled"], .flag),
  (["observability", "prometheusPath"], .text),
  (["observability", "alertsEnabled"], .flag),
  (["observability", "alertWindowSec"], .number),
  (["observability", "alertMinRequests"], .number),
  (["observability", "alertCooldownSec"], .number),
  (["observability", "thresholds", "requestP95Ms"], .number),
  (["observability", "thresholds", "errorRatePct"], .number),
  (["observability", "thresholds", "dbAvgMs"], .number),
  (["observability", "statsd", "enabled"], .flag),
  (["observability", "statsd", "host"], .text),
  (["observability", "statsd", "port"], .number),
  (["observability", "statsd", "prefix"], .text)]

/-- The place of the scope. -/
def scopePlace : List String := ["observability", "statsd", "prefix"]

/-- Every value that is read is of its kind, or missing. -/
def IsTyped (raw : Datum) : Prop :=
  ∀ field ∈ fields, field.2.fits (field.1.foldl Datum.get raw) = true

instance (raw : Datum) : Decidable (IsTyped raw) := inferInstanceAs (Decidable (∀ _ ∈ fields, _))

/-- The blanks before and behind a text. -/
structure Padding where
  before : List Char
  behind : List Char
  blankBefore : ∀ c ∈ before, Text.isBlank c = true
  blankBehind : ∀ c ∈ behind, Text.isBlank c = true

def Padding.around (p : Padding) (s : String) : String :=
  String.ofList (p.before ++ s.toList ++ p.behind)

/-- The blanks around each leaf that is delivered as a text. -/
abbrev Delivery := List String → Option Padding

/-- A leaf as it is or as a padded text. -/
def deliveredLeaf (padding : Option Padding) (d : Datum) : Datum :=
  match padding with
  | some p => .text (p.around d.plain)
  | none => d

mutual

/-- A tree whose leaves are delivered. -/
def delivered (delivery : Delivery) : Datum → Datum
  | .flag b => deliveredLeaf (delivery []) (.flag b)
  | .number x => deliveredLeaf (delivery []) (.number x)
  | .text s => deliveredLeaf (delivery []) (.text s)
  | .record members => .record (deliveredMembers delivery members)
  | d => d

def deliveredMembers (delivery : Delivery) : List (String × Datum) → List (String × Datum)
  | [] => []
  | (name, value) :: rest =>
    (name, delivered (fun path => delivery (name :: path)) value) :: deliveredMembers delivery rest

end

section Leaves

variable {delivery : Delivery} {d : Datum}

theorem get_delivered (delivery : Delivery) (d : Datum) (name : String) :
    (delivered delivery d).get name =
      delivered (fun path => delivery (name :: path)) (d.get name) := by
  have hleaf : ∀ leaf : Datum, leaf.get name = .absent →
      (deliveredLeaf (delivery []) leaf).get name = .absent := by
    intro leaf hget
    cases h : delivery [] with
    | none => exact hget
    | some p => rfl
  cases d with
  | flag b => exact hleaf _ rfl
  | number x => exact hleaf _ rfl
  | text s => exact hleaf _ rfl
  | record members =>
    rw [delivered]
    induction members with
    | nil => rfl
    | cons entry rest ih =>
      rw [deliveredMembers, get_record_cons, get_record_cons]
      split
      · rename_i h
        rw [h]
      · exact ih
  | absent => rfl
  | null => rfl
  | list items => rfl

theorem trimChars_around (p : Padding) (s : String) :
    Text.trimChars (p.around s).toList = Text.trimChars s.toList := by
  rw [Padding.around, String.toList_ofList]
  exact Text.stripWhile_around p.blankBehind p.blankBefore s.toList

theorem trim_around (p : Padding) (s : String) : Text.trim (p.around s) = Text.trim s := by
  rw [Text.trim, trimChars_around, Text.trim]

theorem readFlag_delivered (h : Kind.flag.fits d = true) (fallback : Bool) :
    readFlag (delivered delivery d) fallback = readFlag d fallback := by
  cases d with
  | flag b =>
    rw [delivered]
    cases delivery [] with
    | none => rfl
    | some p =>
      rw [deliveredLeaf]
      simp only [readFlag, trim_around]
      cases b <;> rfl
  | absent => rfl
  | _ => cases h

theorem readText_delivered (h : Kind.text.fits d = true) (fallback : String) :
    readText (delivered delivery d) fallback = readText d fallback := by
  cases d with
  | text s =>
    rw [delivered]
    cases delivery [] with
    | none => rfl
    | some p => rw [deliveredLeaf, readText, trimChars_around, trim_around, Datum.plain, readText]
  | absent => rfl
  | _ => cases h

theorem readPath_delivered (h : Kind.text.fits d = true) (fallback : String) :
    readPath (delivered delivery d) fallback = readPath d fallback := by
  rw [readPath, readText_delivered h, readPath]

theorem trim_delivered (h : Kind.text.fits d = true) :
    Text.trim ((delivered delivery d).text?.getD "") = Text.trim (d.text?.getD "") := by
  cases d with
  | text s =>
    rw [delivered]
    cases delivery [] with
    | none => rfl
    | some p => exact trim_around p s
  | absent => rfl
  | _ => cases h

theorem delivered_of_none (hnone : delivery [] = none) (h : Kind.text.fits d = true) :
    delivered delivery d = d := by
  cases d with
  | text s => rw [delivered, hnone, deliveredLeaf]
  | absent => rfl
  | _ => cases h

end Leaves

section Numbers

/-- A finite number is read back from its text, but for the sign of a zero. -/
theorem ofText_toText_or {x : Number} (h : x.isFinite = true) :
    Number.ofText x.toText = x ∨ x.isZero = true ∧ Number.ofText x.toText = 0 := by
  cases x with
  | nan => cases h
  | infinity s => cases h
  | finite s u hf hb =>
    cases s with
    | false => exact .inl (Number.ofText_toText_finite hf hb)
    | true =>
      by_cases hu : u = 0
      -- The text of a zero has no sign.
      · subst hu
        have hzero : (0 : Number) = .finite false 0 hf hb := by
          rw [Number.literal_eq, Number.ofNat_eq (Nat.zero_le _)]
          simp only [Nat.zero_mul]
        refine .inr ⟨rfl, ?_⟩
        rw [hzero]
        exact Number.ofText_toText_finite hf hb
      · obtain ⟨whole, tail, hm⟩ := Json.isMagnitude_magnitudeText u
        obtain ⟨c, more, hcs, hc⟩ := hm.opens
        have hchars : (Number.finite true u hf hb).toChars = '-' :: Number.magnitudeText u := by
          simp [Number.toChars, hu]
        left
        -- Behind the minus sign stands a digit, so the rest is read as a decimal.
        rw [Number.ofText, Number.toText, String.toList_ofList,
          Number.trimChars_of_isPlain (Number.isPlain_of_mem_toChars h), hchars, Number.ofChars?,
          hcs, Number.unsigned?_of_isDigit true hc, ← hcs, Json.decimal?_true,
          Json.decimal?_magnitudeText hf hb]
        rfl

/-- A zero of either sign gives way to the beginning of the range. -/
theorem Bounds.Sound.apply_of_isZero {b : Bounds} {low : Nat} (hb : b.Sound low) {x : Number}
    (h : x.isZero = true) : b.apply x = b.cap (Number.ofNat low) := by
  have hplace : ∀ s hf hz, (Number.finite s 0 hf hz).le (Number.ofNat low) = true := by
    intro s hf hz
    rw [Number.le_iff, Number.place_ofNat hb.exact, Number.place, Number.signed_zero]
    exact ⟨rfl, Number.isNaN_ofNat low, Int.natCast_nonneg _⟩
  cases x with
  | nan => cases h
  | infinity s => cases h
  | finite s u hf hz =>
    obtain rfl : u = 0 := beq_iff_eq.mp h
    have hcut : b.cut (.finite s 0 hf hz) = .finite s 0 hf hz := by
      refine Bounds.cut_eq_self fun _ => ?_
      rw [Number.isWhole, Number.toInt?, Nat.zero_mod, if_pos rfl, Option.isSome_some]
    rw [hb.apply_eq, hcut, Number.maximum_eq_left (Number.isNegative_ofNat low) (hplace s hf hz)]

theorem readNumber_delivered {b : Bounds} {low : Nat} (hb : b.Sound low) {delivery : Delivery}
    {d : Datum} (h : Kind.number.fits d = true) (fallback : Number) :
    readNumber (delivered delivery d) fallback b = readNumber d fallback b := by
  cases d with
  | number x =>
    have hfin : x.isFinite = true := h
    rw [delivered]
    cases delivery [] with
    | none => rfl
    | some p =>
      have hne : (Text.trimChars x.toText.toList).isEmpty = false := by
        have hword := isWord_toText hfin
        rw [Text.trimChars_of_isTrimmed hword.trimmed, ← Bool.not_eq_true, List.isEmpty_iff]
        exact (ne_empty_iff _).mp hword.nonempty
      have hread : Number.ofText (p.around x.toText) = Number.ofText x.toText := by
        rw [Number.ofText, trimChars_around, Number.ofText]
      rw [deliveredLeaf, readNumber, finite?, Datum.plain, trimChars_around, hread, readNumber,
        finite?, if_pos hfin]
      rcases ofText_toText_or hfin with hsame | ⟨hzero, hread⟩
      · rw [hsame, hne, hfin]
        rfl
      · have hz : (0 : Number).isZero = true := by decide +kernel
        rw [hread, hne, Number.isFinite_literal (Nat.zero_le _)]
        exact (hb.apply_of_isZero hz).trans (hb.apply_of_isZero hzero).symm
  | absent => rfl
  | _ => cases h

end Numbers

section Typed

variable {delivery : Delivery} (hscope : delivery scopePlace = none)
include hscope

theorem Runtime.resolve_delivered_of_isTyped {raw : Datum} (h : IsTyped raw) :
    Runtime.resolve (delivered delivery raw) = Runtime.resolve raw := by
  have hten : Bounds.Sound { least := some 10, whole := true } 10 :=
    Bounds.sound_least (by decide) true
  have hone : Bounds.Sound { least := some 1, whole := true } 1 :=
    Bounds.sound_least (by decide) true
  have hslow : Bounds.Sound { least := some 1 } 1 := Bounds.sound_least (by decide) false
  have hzero : Bounds.Sound { least := some 0 } 0 := Bounds.sound_least (by decide) false
  have hport : Bounds.Sound { least := some 0, most := some 65535, whole := true } 0 :=
    Bounds.sound_between (by decide) (by decide) true
  have hsink : Bounds.Sound { least := some 1, most := some 65535, whole := true } 1 :=
    Bounds.sound_between (by decide) (by decide) true
  -- The scope is the only text that is not trimmed before it is used.
  have hkept : ∀ d, Kind.text.fits d = true →
      delivered (fun path => delivery ("observability" :: "statsd" :: "prefix" :: path)) d = d :=
    fun d hd => delivered_of_none hscope hd
  simp only [IsTyped, fields, List.forall_mem_cons, List.foldl_cons, List.foldl_nil] at h
  unfold Runtime.resolve Server.resolve Observability.resolve
  simp only [get_delivered, readFlag_delivered, readText_delivered, readPath_delivered,
    trim_delivered, readNumber_delivered hten, readNumber_delivered hone,
    readNumber_delivered hslow, readNumber_delivered hzero, readNumber_delivered hport,
    readNumber_delivered hsink, hkept, h]

end Typed

theorem Runtime.Bounded.isTyped {s : Runtime} (h : s.Bounded) : IsTyped s.datum := by
  have hthreshold := fun alert => (h.observability.thresholds alert).finite
  have hp95 := hthreshold .requestP95
  have hrate := hthreshold .errorRate
  have havg := hthreshold .databaseAvg
  dsimp only [Alert.PerAlert.get] at hp95 hrate havg
  simp only [IsTyped, fields, List.forall_mem_cons, List.foldl_cons, List.foldl_nil, Runtime.datum,
    Server.datum, Observability.datum, get_record_cons, String.reduceEq, if_false, if_true,
    Kind.fits, h.server.port.finite, h.server.slowQuery.finite, h.observability.window.finite,
    h.observability.requests.finite, h.observability.cooldown.finite,
    h.observability.sinkPort.finite, hp95, hrate, havg]
  simp

/-- Settings do not depend on how the leaves of a typed tree are delivered, as long as the scope is
not padded. So all settings within their bounds can be delivered as texts. -/
theorem resolve_delivered {delivery : Delivery} (hscope : delivery scopePlace = none) :
    (∀ raw, IsTyped raw → Runtime.resolve (delivered delivery raw) = Runtime.resolve raw) ∧
      ∀ s : Runtime, s.Bounded → Runtime.resolve (delivered delivery s.datum) = s := by
  refine ⟨fun raw => Runtime.resolve_delivered_of_isTyped hscope, fun s hs => ?_⟩
  rw [Runtime.resolve_delivered_of_isTyped hscope hs.isTyped]
  exact Runtime.resolve_datum hs

/-- Blanks around every leaf but the scope, among them a zero with a sign and a number below the
range. -/
theorem resolve_delivered_with_blanks :
    let delivery : Delivery := fun path =>
      if path = scopePlace then none
      else some {
        before := ['\t']
        behind := [' ', '\n']
        blankBefore := List.all_eq_true.mp (by decide)
        blankBehind := List.all_eq_true.mp (by decide) }
    let raw : Datum := .record [
      ("server", .record [
        ("port", .number 8080), ("perfLogEnabled", .flag true), ("slowQueryMs", .number (-750))]),
      ("observability", .record [
        ("thresholds", .record [("dbAvgMs", .number (-0))]),
        ("statsd", .record [("host", .text "sink"), ("prefix", .text " app ")])])]
    (((delivered delivery raw).get "server").get "slowQueryMs").text? = some "\t-750 \n" ∧
      Runtime.resolve (delivered delivery raw) = Runtime.resolve raw ∧
      Runtime.resolve (delivered delivery (Runtime.resolve raw).datum) = Runtime.resolve raw := by
  intro delivery raw
  obtain ⟨htyped, hbounded⟩ := resolve_delivered (by decide : delivery scopePlace = none)
  exact ⟨by decide +kernel, htyped raw (by decide +kernel),
    hbounded _ (Runtime.bounded_resolve raw)⟩

end Telemetry.Settings
