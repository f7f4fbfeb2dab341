import Mathlib.Data.List.DropRight
import Telemetry.Text.Blank

/-! # Stripped texts

A text that was stripped has no character of the class at either end. Stripping it again leaves it
as it is, and whatever of the class is put around a text is stripped off with the rest.
-/
namespace Telemetry.Text

variable {p : Char → Bool} {cs : List Char}

/-- No character of the class stands at either end. -/
structure IsStripped (p : Char → Bool) (cs : List Char) : Prop where
  head : ∀ c ∈ cs.head?, p c = false
  last : ∀ c ∈ cs.getLast?, p c = false

theorem IsStripped.of_forall (h : ∀ c ∈ cs, p c = false) : IsStripped p cs where
  head c hc := h c (List.mem_of_mem_head? hc)
  last c hc := h c (List.mem_of_mem_getLast? hc)

theorem IsStripped.stripWhile_eq (h : IsStripped p cs) : stripWhile p cs = cs := by
  rw [stripWhile, dropWhile_eq_self h.head, dropEndWhile_eq_self h.last]

theorem dropEndWhile_append_dropped (p : Char → Bool) (cs : List Char) :
    ∃ dropped, dropEndWhile p cs ++ dropped = cs :=
  List.rdropWhile_prefix p cs

theorem mem_of_mem_dropEndWhile {c : Char} (h : c ∈ dropEndWhile p cs) : c ∈ cs := by
  obtain ⟨dropped, hdropped⟩ := dropEndWhile_append_dropped p cs
  rw [← hdropped]
  exact List.mem_append_left _ h

theorem mem_of_mem_stripWhile {c : Char} (h : c ∈ stripWhile p cs) : c ∈ cs :=
  (List.dropWhile_sublist p).mem (mem_of_mem_dropEndWhile h)

theorem isStripped_stripWhile (p : Char → Bool) (cs : List Char) :
    IsStripped p (stripWhile p cs) where
  head c hc := by
    have hhead : (dropEndWhile p (cs.dropWhile p)).head? = some c := hc
    obtain ⟨dropped, hdropped⟩ := dropEndWhile_append_dropped p (cs.dropWhile p)
    refine head?_dropWhile_not p cs c ?_
    rw [← hdropped, List.head?_append, hhead]
    rfl
  last := getLast?_dropEndWhile_not p (cs.dropWhile p)

section Around

variable {before behind : List Char} (hbehind : ∀ c ∈ behind, p c = true)
include hbehind

theorem dropEndWhile_append (cs : List Char) :
    dropEndWhile p (cs ++ behind) = dropEndWhile p cs := by
  have hreverse : ∀ c ∈ behind.reverse, p c = true :=
    fun c hc => hbehind c (List.mem_reverse.mp hc)
  rw [dropEndWhile, List.reverse_append, List.dropWhile_append_of_pos hreverse, dropEndWhile]

/-- What is put around a text is stripped off again. -/
theorem stripWhile_around (hbefore : ∀ c ∈ before, p c = true) (cs : List Char) :
    stripWhile p (before ++ cs ++ behind) = stripWhile p cs := by
  rw [stripWhile, List.append_assoc, List.dropWhile_append_of_pos hbefore, List.dropWhile_append]
  split
  · rename_i hempty
    rw [stripWhile, List.isEmpty_iff.mp hempty, List.dropWhile_eq_nil_iff.mpr hbehind]
  · exact dropEndWhile_append hbehind _

end Around

section Blank

/-- No blank stands at either end of a text. -/
def IsTrimmed (s : String) : Prop := trim s = s

instance (s : String) : Decidable (IsTrimmed s) := inferInstanceAs (Decidable (_ = _))

theorem isTrimmed_iff (s : String) : IsTrimmed s ↔ IsStripped isBlank s.toList := by
  rw [IsTrimmed, ← String.toList_inj, toList_trim]
  constructor
  · intro h
    rw [← h]
    exact isStripped_stripWhile isBlank s.toList
  · exact IsStripped.stripWhile_eq

theorem isTrimmed_trim (s : String) : IsTrimmed (trim s) := by
  rw [isTrimmed_iff, toList_trim]
  exact isStripped_stripWhile isBlank s.toList

theorem trimChars_of_isTrimmed {s : String} (h : IsTrimmed s) : trimChars s.toList = s.toList :=
  ((isTrimmed_iff s).mp h).stripWhile_eq

end Blank

end Telemetry.Text
