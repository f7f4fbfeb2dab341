import Telemetry.Proofs.Json.RoundTrip
import Telemetry.Proofs.Metric.Wire
import Telemetry.Proofs.Settings.Bounds
import Telemetry.Proofs.Text.Trim

/-! # Resolved settings are within their bounds

Whatever the untyped tree holds, resolved settings are within their bounds, and settings within
their bounds are what their own tree is resolved to. So resolving twice is resolving once.
-/
namespace Telemetry.Settings
open Telemetry.Text (IsStripped IsTrimmed)

/-- A text that is not empty and has no blank at either end. -/
structure IsWord (s : String) : Prop where
  nonempty : s ≠ ""
  trimmed : IsTrimmed s

/-- A path: it begins with a slash and does not end in a blank. -/
structure IsPath (s : String) : Prop where
  rooted : s.toList.head? = some '/'
  trimmed : IsTrimmed s

/-- A scope: characters of names, at least one of them, and no point at either end. -/
structure IsScope (s : String) : Prop where
  nonempty : s ≠ ""
  chars : ∀ c ∈ s.toList, Metric.isNameChar c = true
  ends : IsStripped (· == '.') s.toList

structure Server.Bounded (s : Server) : Prop where
  host : IsWord s.host
  port : Bounds.Within { least := some 0, most := some 65535, whole := true } s.port
  healthPath : IsPath s.healthPath
  token : IsTrimmed s.metricsAuthToken
  slowQuery : Bounds.Within { least := some 1 } s.slowQueryMs

structure Observability.Bounded (s : Observability) : Prop where
  prometheus : s.prometheusEnabled = true → s.metricsEnabled = true
  prometheusPath : IsPath s.prometheusPath
  window : Bounds.Within { least := some 10, whole := true } s.alertWindowSec
  requests : Bounds.Within { least := some 1, whole := true } s.alertMinRequests
  cooldown : Bounds.Within { least := some 10, whole := true } s.alertCooldownSec
  thresholds : ∀ alert, Bounds.Within { least := some 0 } (s.thresholds.get alert)
  sinkHost : IsWord s.statsd.host
  sinkPort : Bounds.Within { least := some 1, most := some 65535, whole := true } s.statsd.port
  scope : IsScope s.statsd.scope

structure Runtime.Bounded (s : Runtime) : Prop where
  appName : IsWord s.appName
  logLevel : IsWord s.logLevel
  server : s.server.Bounded
  observability : s.observability.Bounded

section Texts

variable {s fallback : String} (value : Datum)

theorem ne_empty_iff (s : String) : s ≠ "" ↔ s.toList ≠ [] :=
  String.toList_eq_nil_iff.not.symm

/-- The text of a finite number. -/
theorem isWord_toText {x : Number} (h : x.isFinite = true) : IsWord x.toText := by
  have hplain := Number.isPlain_of_mem_toChars h
  refine ⟨?_, ?_⟩
  · rw [ne_empty_iff, Number.toText, String.toList_ofList]
    cases x with
    | nan => cases h
    | infinity s => cases h
    | finite s u hf hb =>
      obtain ⟨whole, tail, hm⟩ := Json.isMagnitude_magnitudeText u
      obtain ⟨c, more, hcs, -⟩ := hm.opens
      rw [Number.toChars, hcs]
      exact List.append_ne_nil_of_right_ne_nil _ (List.cons_ne_nil _ _)
  · rw [IsTrimmed, Text.trim, Number.toText, String.toList_ofList,
      Number.trimChars_of_isPlain hplain]

theorem isWord_readText (hf : IsWord fallback) : IsWord (readText value fallback) := by
  cases value with
  | text s =>
    rw [readText]
    split
    · exact hf
    · rename_i hne
      refine ⟨?_, Text.isTrimmed_trim s⟩
      rwa [ne_empty_iff, Text.toList_trim, ne_eq, ← List.isEmpty_iff]
  | number x =>
    rw [readText]
    split
    · rename_i hfin
      exact isWord_toText hfin
    · exact hf
  | absent => exact hf
  | null => exact hf
  | flag b => exact hf
  | list items => exact hf
  | record members => exact hf

theorem readText_of_isWord (h : IsWord s) (fallback : String) :
    readText (.text s) fallback = s := by
  rw [readText, Text.trimChars_of_isTrimmed h.trimmed, if_neg]
  · exact h.trimmed
  · rw [List.isEmpty_iff]
    exact (ne_empty_iff s).mp h.nonempty

theorem isPath_readPath (hf : IsWord fallback) : IsPath (readPath value fallback) := by
  have hword := isWord_readText value hf
  unfold readPath
  dsimp only
  split
  · rename_i hslash
    exact ⟨hslash, hword.trimmed⟩
  · have hchars : ("/" ++ readText value fallback).toList =
        '/' :: (readText value fallback).toList := by
      rw [String.toList_append]
      rfl
    -- The slash is no blank, and the text behind it is not empty and keeps its end.
    have hends := (Text.isTrimmed_iff _).mp hword.trimmed
    refine ⟨by rw [hchars]; rfl, ?_⟩
    rw [Text.isTrimmed_iff, hchars]
    refine ⟨fun c hc => ?_, fun c hc => hends.last c ?_⟩
    · rw [← Option.some.inj hc]
      decide
    · rwa [List.getLast?_cons_of_ne_nil ((ne_empty_iff _).mp hword.nonempty)] at hc

theorem readPath_of_isPath (h : IsPath s) (fallback : String) :
    readPath (.text s) fallback = s := by
  have hne : s ≠ "" := by
    rw [ne_empty_iff]
    intro hnil
    have hrooted := h.rooted
    rw [hnil] at hrooted
    cases hrooted
  rw [readPath, readText_of_isWord ⟨hne, h.trimmed⟩]
  exact if_pos h.rooted

end Texts

section Scopes

theorem isNameChar_of_mem_squash {inRun : Bool} {cs : List Char} {c : Char}
    (h : c ∈ Metric.squash Metric.isNameChar inRun cs) : Metric.isNameChar c = true := by
  induction cs generalizing inRun with
  | nil => cases h
  | cons d rest ih =>
    rw [Metric.squash] at h
    split at h
    · rename_i hd
      rcases List.mem_cons.mp h with rfl | hrest
      · exact hd
      · exact ih hrest
    · split at h
      · exact ih h
      · rcases List.mem_cons.mp h with rfl | hrest
        · decide
        · exact ih hrest

theorem isScope_cleanScope (raw : String) : IsScope (Metric.cleanScope raw) := by
  unfold Metric.cleanScope
  dsimp only
  split
  · refine ⟨by decide, List.all_eq_true.mp (by decide), ⟨?_, ?_⟩⟩ <;>
    · intro c hc
      cases hc
      decide
  · rename_i hne
    refine ⟨?_, fun c hc => ?_, ?_⟩
    · rwa [ne_empty_iff, String.toList_ofList, ne_eq, ← List.isEmpty_iff]
    · rw [String.toList_ofList] at hc
      exact isNameChar_of_mem_squash (Text.mem_of_mem_stripWhile hc)
    · rw [String.toList_ofList]
      exact Text.isStripped_stripWhile _ _

theorem cleanScope_of_isScope {s : String} (h : IsScope s) : Metric.cleanScope s = s := by
  have hne : s.toList.isEmpty = false := by
    rw [← Bool.not_eq_true, List.isEmpty_iff]
    exact (ne_empty_iff s).mp h.nonempty
  rw [Metric.cleanScope, Metric.squash_eq_self h.chars, h.ends.stripWhile_eq,
    if_neg (Bool.eq_false_iff.mp hne), String.ofList_toList]

end Scopes

section Resolved

variable (raw : Datum)

theorem Server.bounded_resolve : (Server.resolve raw).Bounded := by
  unfold Server.resolve
  constructor <;> dsimp only
  case host => exact isWord_readText _ ⟨by decide, by decide⟩
  case port => exact Bounds.within_between _ (by decide) (by decide) (by decide) true
  case healthPath => exact isPath_readPath _ ⟨by decide, by decide⟩
  case token => exact Text.isTrimmed_trim _
  case slowQuery => exact Bounds.within_least _ (by decide) (by decide) false

theorem Observability.bounded_resolve : (Observability.resolve raw).Bounded := by
  unfold Observability.resolve
  constructor <;> dsimp only
  case prometheus => exact fun h => (Bool.and_eq_true_iff.mp h).1
  case prometheusPath => exact isPath_readPath _ ⟨by decide, by decide⟩
  case window | requests | cooldown => exact Bounds.within_least _ (by decide) (by decide) true
  case thresholds =>
    intro alert
    cases alert <;> dsimp only [Alert.PerAlert.get] <;>
    exact Bounds.within_least _ (by decide) (by decide) false
  case sinkHost => exact isWord_readText _ ⟨by decide, by decide⟩
  case sinkPort => exact Bounds.within_between _ (by decide) (by decide) (by decide) true
  case scope => exact isScope_cleanScope _

theorem Runtime.bounded_resolve : (Runtime.resolve raw).Bounded where
  appName := isWord_readText _ ⟨by decide, by decide⟩
  logLevel := isWord_readText _ ⟨by decide, by decide⟩
  server := Server.bounded_resolve _
  observability := Observability.bounded_resolve _

end Resolved

section Fixed

theorem get_record_cons (name other : String) (value : Datum) (rest : List (String × Datum)) :
    (Datum.record ((name, value) :: rest)).get other =
      if other = name then value else (Datum.record rest).get other := by
  rw [Datum.get, List.lookup_cons]
  by_cases h : other = name
  · rw [if_pos h, h, beq_self_eq_true]
    rfl
  · rw [if_neg h, beq_false_of_ne h]
    rfl

/-- Settings within their bounds are read back from their tree. -/
theorem Server.resolve_datum {s : Server} (h : s.Bounded) : Server.resolve s.datum = s := by
  unfold Server.resolve Server.datum
  simp only [get_record_cons, String.reduceEq, if_false, if_true]
  rw [readText_of_isWord h.host,
    (Bounds.sound_between (by decide) (by decide) true).readNumber_of_within h.port,
    readPath_of_isPath h.healthPath, Datum.text?, Option.getD_some, h.token,
    (Bounds.sound_least (by decide) false).readNumber_of_within h.slowQuery]
  rfl

theorem Observability.resolve_datum {s : Observability} (h : s.Bounded) :
    Observability.resolve s.datum = s := by
  -- The exposition is read together with the metrics, on which it depends already.
  have hprometheus : (s.metricsEnabled && s.prometheusEnabled) = s.prometheusEnabled := by
    have himplies := h.prometheus
    revert himplies
    cases s.metricsEnabled <;> cases s.prometheusEnabled <;> decide
  have hthreshold : ∀ alert fallback,
      readNumber (.number (s.thresholds.get alert)) fallback { least := some 0 } =
        s.thresholds.get alert := fun alert fallback =>
    (Bounds.sound_least (by decide) false).readNumber_of_within (h.thresholds alert) fallback
  have hp95 := hthreshold .requestP95 0
  have hrate := hthreshold .errorRate 0
  have havg := hthreshold .databaseAvg 0
  dsimp only [Alert.PerAlert.get] at hp95 hrate havg
  unfold Observability.resolve Observability.datum
  simp only [get_record_cons, String.reduceEq, if_false, if_true, readFlag]
  rw [hprometheus, readPath_of_isPath h.prometheusPath,
    (Bounds.sound_least (by decide) true).readNumber_of_within h.window,
    (Bounds.sound_least (by decide) true).readNumber_of_within h.requests,
    (Bounds.sound_least (by decide) true).readNumber_of_within h.cooldown, hp95, hrate, havg,
    readText_of_isWord h.sinkHost,
    (Bounds.sound_between (by decide) (by decide) true).readNumber_of_within h.sinkPort,
    Datum.text?, Option.getD_some, cleanScope_of_isScope h.scope]

theorem Runtime.resolve_datum {s : Runtime} (h : s.Bounded) : Runtime.resolve s.datum = s := by
  unfold Runtime.resolve Runtime.datum
  simp only [get_record_cons, String.reduceEq, if_false, if_true]
  rw [readText_of_isWord h.appName, readText_of_isWord h.logLevel,
    Server.resolve_datum h.server, Observability.resolve_datum h.observability]

end Fixed

/-- Any tree is resolved to settings within their bounds, which are resolved to themselves. No
other settings are. -/
theorem resolve_within_bounds (raw : Datum) (s : Runtime) :
    (Runtime.resolve raw).Bounded ∧
      Runtime.resolve (Runtime.resolve raw).datum = Runtime.resolve raw ∧
      (s.Bounded ↔ Runtime.resolve s.datum = s) := by
  have hbounded := Runtime.bounded_resolve raw
  refine ⟨hbounded, Runtime.resolve_datum hbounded, Runtime.resolve_datum, fun hfixed => ?_⟩
  rw [← hfixed]
  exact Runtime.bounded_resolve s.datum

end Telemetry.Settings
