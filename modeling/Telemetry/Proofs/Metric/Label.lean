import Telemetry.Metric.Label
import Telemetry.Proofs.Number.Integer
import Telemetry.Proofs.Text.Trim
import Telemetry.Proofs.Text.Units

/-! # What a label is

A label is not empty, has no control character and no blank at either end. Tidying makes a text
one, unless nothing is left of it, and cutting one leaves one, since the points at its end are no
blanks. So labels are cleaned to labels within the limit, and these are not changed by cleaning.
-/
namespace Telemetry.Metric
open Telemetry.Text (IsTrimmed codePoints pointCount pointCount_eq units)

/-- A text that is fit to be a label of any length. -/
structure IsLabel (s : String) : Prop where
  nonempty : s ≠ ""
  uncontrolled : ∀ c ∈ s.toList, isControl c = false
  trimmed : IsTrimmed s

theorem isLabel_iff (s : String) :
    IsLabel s ↔ s ≠ "" ∧ s.toList.all (fun c => !isControl c) = true ∧ IsTrimmed s := by
  have hall : s.toList.all (fun c => !isControl c) = true ↔ ∀ c ∈ s.toList, isControl c = false := by
    simp only [List.all_eq_true, Bool.not_eq_true']
  rw [hall]
  exact ⟨fun h => ⟨h.nonempty, h.uncontrolled, h.trimmed⟩, fun h => ⟨h.1, h.2.1, h.2.2⟩⟩

instance (s : String) : Decidable (IsLabel s) := decidable_of_iff' _ (isLabel_iff s)

/-- Control characters replaced by spaces, and the ends trimmed. -/
def tidy (s : String) : String :=
  Text.trim (String.ofList (s.toList.map fun c => if isControl c then ' ' else c))

/-- The text that a label shows as far as it has room. -/
def shownText (fallback s : String) : String := if tidy s = "" then fallback else tidy s

/-- A text that is cut to a limit if it is longer. The cut is between two code points. -/
structure IsCut (limit : Nat) (text label : String) : Prop where
  whole : pointCount text ≤ limit → label = text
  cut : limit < pointCount text → pointCount label = limit ∧ ∃ front, label = front ++ "..." ∧
    codePoints (units front) = (codePoints (units text)).take (limit - 3)

section Tidy

theorem toList_tidy (s : String) : (tidy s).toList = tidyChars s.toList := by
  rw [tidy, Text.toList_trim, String.toList_ofList, tidyChars]

theorem isControl_of_mem_tidy {s : String} : ∀ c ∈ (tidy s).toList, isControl c = false := by
  intro c hc
  rw [toList_tidy] at hc
  obtain ⟨d, -, hd⟩ := List.mem_map.mp (Text.mem_of_mem_stripWhile hc)
  split at hd
  · rw [← hd]
    decide
  · rename_i hplain
    rwa [← hd, ← Bool.not_eq_true]

theorem isLabel_shownText {fallback : String} (hf : IsLabel fallback) (s : String) :
    IsLabel (shownText fallback s) := by
  unfold shownText
  split
  · exact hf
  · rename_i hne
    exact ⟨hne, isControl_of_mem_tidy, Text.isTrimmed_trim _⟩

theorem tidy_of_isLabel {s : String} (h : IsLabel s) : tidy s = s := by
  have hplain : (s.toList.map fun c => if isControl c then ' ' else c) = s.toList := by
    refine (List.map_congr_left fun c hc => ?_).trans (List.map_id _)
    rw [h.uncontrolled c hc, if_neg Bool.false_ne_true]
    rfl
  rw [tidy, hplain, String.ofList_toList]
  exact h.trimmed

theorem shownText_of_isLabel {s : String} (h : IsLabel s) (fallback : String) :
    shownText fallback s = s := by
  rw [shownText, tidy_of_isLabel h, if_neg h.nonempty]

end Tidy

section Cut

variable {limit : Nat} {text : String}

theorem shorten_of_le (h : pointCount text ≤ limit) :
    shorten (some limit) text.toList = text.toList := by
  rw [pointCount_eq] at h
  exact if_pos h

theorem shorten_of_lt (h : limit < pointCount text) :
    shorten (some limit) text.toList = text.toList.take (limit - 3) ++ ['.', '.', '.'] := by
  rw [pointCount_eq] at h
  exact if_neg (Nat.not_le.mpr h)

theorem isCut_shorten (h : 4 ≤ limit) (text : String) :
    IsCut limit text (String.ofList (shorten (some limit) text.toList)) := by
  refine ⟨fun hle => ?_, fun hlt => ⟨?_, String.ofList (text.toList.take (limit - 3)), ?_, ?_⟩⟩
  · rw [shorten_of_le hle, String.ofList_toList]
  · rw [shorten_of_lt hlt, pointCount_eq, String.toList_ofList, List.length_append, List.length_take]
    rw [pointCount_eq] at hlt
    simp only [List.length_cons, List.length_nil]
    omega
  · rw [shorten_of_lt hlt, String.ofList_append]
  · rw [Text.codePoints_units, Text.codePoints_units, String.toList_ofList, List.map_take]

theorem IsCut.pointCount_le {label : String} (h : IsCut limit text label) :
    pointCount label ≤ limit := by
  rcases Nat.lt_or_ge limit (pointCount text) with hlt | hle
  · exact (h.cut hlt).1.le
  · rw [h.whole hle]
    exact hle

/-- Counted in units the cut tears no pair apart either. -/
theorem IsCut.isSeam {label : String} (h : IsCut limit text label) :
    ∃ kept rest, units text = kept ++ rest ∧ Text.IsSeam kept rest ∧
      (units label = kept ∧ rest = [] ∨ units label = kept ++ units "...") := by
  rcases Nat.lt_or_ge limit (pointCount text) with hlt | hle
  · obtain ⟨-, front, hlabel, hfront⟩ := h.cut hlt
    refine ⟨units front, ((codePoints (units text)).drop (limit - 3)).flatten, ?_,
      Text.isSeam_units _ _, .inr ?_⟩
    · rw [← Text.flatten_codePoints (units front), hfront, ← List.flatten_append,
        List.take_append_drop, Text.flatten_codePoints]
    · rw [hlabel]
      simp [units]
  · refine ⟨units text, [], (List.append_nil _).symm, Text.isSeam_units _ _, .inl ⟨?_, rfl⟩⟩
    rw [h.whole hle]

/-- A label that is cut begins as before, since there is room for a character, and ends in a
point. -/
theorem isLabel_shorten (h : 4 ≤ limit) (ht : IsLabel text) :
    IsLabel (String.ofList (shorten (some limit) text.toList)) := by
  rcases Nat.lt_or_ge limit (pointCount text) with hlt | hle
  · have hends := (Text.isTrimmed_iff text).mp ht.trimmed
    rw [shorten_of_lt hlt]
    refine ⟨?_, fun c hc => ?_, ?_⟩
    · rw [ne_eq, ← String.toList_eq_nil_iff, String.toList_ofList]
      exact List.append_ne_nil_of_right_ne_nil _ (List.cons_ne_nil _ _)
    · rw [String.toList_ofList] at hc
      rcases List.mem_append.mp hc with hc | hc
      · exact ht.uncontrolled c (List.mem_of_mem_take hc)
      · rw [List.eq_of_mem_replicate (n := 3) hc]
        decide
    · rw [Text.isTrimmed_iff, String.toList_ofList]
      refine ⟨fun c hc => hends.head c ?_, fun c hc => ?_⟩
      · obtain ⟨k, hk⟩ : ∃ k, limit - 3 = k + 1 := ⟨limit - 4, by omega⟩
        obtain ⟨d, more, hcs⟩ :=
          List.exists_cons_of_ne_nil (String.toList_eq_nil_iff.not.mpr ht.nonempty)
        rw [hcs, hk, List.take_succ_cons] at hc
        rw [hcs]
        exact hc
      · rw [List.getLast?_append_of_ne_nil _ (List.cons_ne_nil _ _)] at hc
        cases hc
        decide
  · rwa [shorten_of_le hle, String.ofList_toList]

end Cut

section Cleaning

theorem cleanLabel_eq (fallback : String) (limit : Option Nat) (value : Datum) :
    cleanLabel fallback limit value =
      String.ofList (shorten limit (shownText fallback (labelText value)).toList) := by
  have hempty : tidy (labelText value) = "" ↔ tidyChars (labelText value).toList = [] := by
    rw [← toList_tidy, String.toList_eq_nil_iff]
  rw [cleanLabel, cleanChars, shownText]
  split
  · rename_i hnil
    rw [if_pos (hempty.mpr hnil)]
  · rename_i hne
    rw [if_neg (hempty.not.mpr hne), toList_tidy]

/-- The limit is whole whenever the requested length is. -/
theorem lengthLimit_of_toInt? {requested : Number} {m : Int} (h : requested.toInt? = some m) :
    lengthLimit requested = some (max 4 m).toNat := by
  have hfour : (4 : Number).toInt? = some (4 : Int) := by
    rw [Number.literal_eq]
    exact Number.toInt?_ofNat (by decide)
  rw [lengthLimit, Number.toInt?_floor (Number.toInt?_maximum hfour h), Option.map_some]

variable {fallback : String} {limit : Nat}

theorem isCut_cleanLabel (h : 4 ≤ limit) (fallback : String) (value : Datum) :
    IsCut limit (shownText fallback (labelText value)) (cleanLabel fallback (some limit) value) := by
  rw [cleanLabel_eq]
  exact isCut_shorten h _

theorem isLabel_cleanLabel (hf : IsLabel fallback) (h : 4 ≤ limit) (value : Datum) :
    IsLabel (cleanLabel fallback (some limit) value) := by
  rw [cleanLabel_eq]
  exact isLabel_shorten h (isLabel_shownText hf _)

/-- Labels within the limit are not changed. -/
theorem cleanLabel_of_isLabel {label : String} (hl : IsLabel label) (h : pointCount label ≤ limit)
    (fallback : String) : cleanLabel fallback (some limit) (.text label) = label := by
  have htext : labelText (.text label) = label := rfl
  rw [cleanLabel_eq, htext, shownText_of_isLabel hl, shorten_of_le h, String.ofList_toList]

theorem cleanLabel_cleanLabel (hf : IsLabel fallback) (h : 4 ≤ limit) (value : Datum) :
    cleanLabel fallback (some limit) (.text (cleanLabel fallback (some limit) value)) =
      cleanLabel fallback (some limit) value :=
  cleanLabel_of_isLabel (isLabel_cleanLabel hf h value) (isCut_cleanLabel h fallback value).pointCount_le
    fallback

end Cleaning

/-- Whatever is made a label, and whatever whole length is requested for it: the label is fit to be
one, it is the tidied text or the fallback, cut only where it is too long, and it is not changed
when it is cleaned again. -/
theorem labels_are_clean {fallback : String} (hfallback : IsLabel fallback) {requested : Number}
    {m : Int} (hrequested : requested.toInt? = some m) (value : Datum) :
    let limit := (max 4 m).toNat
    let clean := cleanLabel fallback (lengthLimit requested)
    let shown := shownText fallback (labelText value)
    IsLabel (clean value) ∧
      (∃ kept rest, units shown = kept ++ rest ∧ Text.IsSeam kept rest ∧
        (units (clean value) = kept ∧ rest = [] ∨ units (clean value) = kept ++ units "...")) ∧
      pointCount (clean value) ≤ limit ∧
      IsCut limit shown (clean value) ∧
      clean (.text (clean value)) = clean value ∧
      pathLabel (.text (pathLabel value)) = pathLabel value ∧
      pointCount (pathLabel value) ≤ 160 ∧ pointCount (methodLabel value) ≤ 16 := by
  intro limit clean shown
  have hlimit : 4 ≤ limit := by omega
  have hclean : clean = cleanLabel fallback (some limit) := by
    rw [← lengthLimit_of_toInt? hrequested]
  have hcut := isCut_cleanLabel hlimit fallback value
  rw [hclean]
  refine ⟨isLabel_cleanLabel hfallback hlimit value, hcut.isSeam, hcut.pointCount_le, hcut,
    cleanLabel_cleanLabel hfallback hlimit value, ?_, ?_, ?_⟩
  · exact cleanLabel_cleanLabel (by decide) (by decide) value
  · exact (isCut_cleanLabel (by decide) "/" value).pointCount_le
  · exact (isCut_cleanLabel (by decide) "UNKNOWN" _).pointCount_le

/-- A tabulator at the beginning, and a cut behind a space and before characters of two units. -/
theorem labels_are_clean_of_astral_text :
    let clean := cleanLabel "unknown" (lengthLimit 5)
    clean (.text "\t😀 b😀cd") = "😀 ..." ∧ IsLabel "😀 ..." ∧ IsCut 5 "😀 b😀cd" "😀 ..." ∧
      clean (.text "😀 ...") = "😀 ..." := by
  intro clean
  have hfive : (5 : Number).toInt? = some 5 := by
    rw [Number.literal_eq]
    exact Number.toInt?_ofNat (by decide)
  have hlabel : clean (.text "\t😀 b😀cd") = "😀 ..." := by decide +kernel
  have hshown : shownText "unknown" (labelText (.text "\t😀 b😀cd")) = "😀 b😀cd" := by
    decide +kernel
  obtain ⟨hclean, -, -, hcut, hagain, -⟩ :=
    labels_are_clean (by decide : IsLabel "unknown") hfive (.text "\t😀 b😀cd")
  rw [hshown] at hcut
  exact ⟨hlabel, hlabel ▸ hclean, hlabel ▸ hcut, hlabel ▸ hagain⟩

end Telemetry.Metric
