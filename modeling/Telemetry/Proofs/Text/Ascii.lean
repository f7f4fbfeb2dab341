import Mathlib.Data.List.Basic
import Telemetry.Text.Composition
import Telemetry.Text.Percent

/-! # Texts of ASCII

Letters and digits are ranges of codes, and so are their classes. No character of ASCII combines
with another one, none is made of two, and no two of them make a third. So a text of ASCII is
composed as it stands.
-/
namespace Telemetry.Text

variable {c : Char} {cs : List Char}

/-- What can be checked code by code holds of all characters of ASCII. -/
theorem forall_of_ascii {p : Char → Prop} (h : ∀ n < 0x80, p (Char.ofNat n))
    (hc : c.toNat < 0x80) : p c := by
  rw [← Char.ofNat_toNat c]
  exact h c.toNat hc

section Classes

theorem isUpper_iff : c.isUpper = true ↔ 'A' ≤ c ∧ c ≤ 'Z' := by
  delta Char.isUpper
  rw [decide_eq_true_iff]
  rfl

theorem isLower_iff : c.isLower = true ↔ 'a' ≤ c ∧ c ≤ 'z' := by
  delta Char.isLower
  rw [Bool.and_eq_true, decide_eq_true_iff, decide_eq_true_iff]
  rfl

theorem isAlpha_iff : c.isAlpha = true ↔ ('A' ≤ c ∧ c ≤ 'Z') ∨ ('a' ≤ c ∧ c ≤ 'z') :=
  Bool.or_eq_true_iff.trans (or_congr isUpper_iff isLower_iff)

theorem isDigit_iff : c.isDigit = true ↔ '0' ≤ c ∧ c ≤ '9' := by
  delta Char.isDigit
  rw [Bool.and_eq_true, decide_eq_true_iff, decide_eq_true_iff]
  rfl

theorem isAlphanum_iff : c.isAlphanum = true ↔
    (('A' ≤ c ∧ c ≤ 'Z') ∨ ('a' ≤ c ∧ c ≤ 'z')) ∨ ('0' ≤ c ∧ c ≤ '9') :=
  Bool.or_eq_true_iff.trans (or_congr isAlpha_iff isDigit_iff)

/-- The order of characters is that of their codes. -/
theorem le_iff_toNat {d : Char} : c ≤ d ↔ c.toNat ≤ d.toNat := Iff.rfl

theorem visible_of_isAlphanum (h : c.isAlphanum = true) : 0x20 < c.toNat ∧ c.toNat < 0x7F := by
  rw [isAlphanum_iff] at h
  simp only [le_iff_toNat, Char.reduceToNat] at h
  omega

theorem isDigit_of_isAlpha (h : c.isAlpha = true) : c.isDigit = false := by
  rw [← Bool.not_eq_true, isDigit_iff]
  rw [isAlpha_iff] at h
  simp only [le_iff_toNat, Char.reduceToNat] at h ⊢
  omega

theorem isAlphanum_of_hexValue? (h : (hexValue? c).isSome = true) : c.isAlphanum = true := by
  rw [isAlphanum_iff]
  simp only [hexValue?] at h
  split at h
  · exact .inr (isDigit_iff.mp ‹_›)
  · simp only [le_iff_toNat, Char.reduceToNat] at h ⊢
    split at h
    · omega
    · split at h
      · omega
      · cases h

end Classes

section Composition

theorem combiningClass_of_ascii (h : c.toNat < 0x80) : combiningClass c = 0 := by
  have hspans : combiningSpans.all (fun s => decide (0x80 ≤ s.1.1)) = true := by decide +kernel
  have hnone : combiningSpans.find? (fun s => s.1.holds c.toNat) = none := by
    refine List.find?_eq_none.mpr fun s hs hholds => ?_
    have hlow := of_decide_eq_true (List.all_eq_true.mp hspans s hs)
    rw [Span.holds, Bool.and_eq_true, decide_eq_true_eq] at hholds
    omega
  rw [combiningClass, hnone]
  rfl

/-- Neither second halves nor what is made with them is ASCII. -/
theorem le_compositions : ∀ entry ∈ compositions, 0x80 ≤ entry.1 ∧ ∀ p ∈ entry.2, 0x80 ≤ p.2 := by
  have hall : compositions.all (fun entry =>
      decide (0x80 ≤ entry.1) && entry.2.all fun p => decide (0x80 ≤ p.2)) = true := by
    decide +kernel
  intro entry hentry
  have h := List.all_eq_true.mp hall entry hentry
  rw [Bool.and_eq_true, decide_eq_true_eq, List.all_eq_true] at h
  exact ⟨h.1, fun p hp => of_decide_eq_true (h.2 p hp)⟩

theorem parts_of_ascii (h : c.toNat < 0x80) : parts c = [c] := by
  have hsyllable : syllableHalves? c.toNat = none := if_pos (.inl (by simp [syllableBase]; omega))
  have hlisted : (compositions.findSome? fun entry =>
      (entry.2.find? (·.2 == c.toNat)).map fun p => (p.1, entry.1)) = none := by
    refine List.findSome?_eq_none_iff.mpr fun entry hentry => ?_
    rw [Option.map_eq_none_iff]
    refine List.find?_eq_none.mpr fun p hp heq => ?_
    have hlow := (le_compositions entry hentry).2 p hp
    rw [beq_iff_eq] at heq
    omega
  have hwhole : halves? c = none := by
    rw [halves?, hsyllable, hlisted]
    rfl
  rw [parts, partsWithin, hwhole]

theorem join?_of_ascii (a : Char) (h : c.toNat < 0x80) : join? a c = none := by
  have hsyllable : syllable? a.toNat c.toNat = none := by
    unfold syllable?
    rw [if_neg (by simp [vowelBase]; omega), if_neg (by simp [trailBase]; omega)]
  have hlookup : compositions.lookup c.toNat = none := by
    refine List.lookup_eq_none_iff.mpr fun entry hentry => ?_
    have hlow := (le_compositions entry hentry).1
    rw [bne_iff_ne]
    omega
  rw [join?, hsyllable, hlookup]
  rfl

variable (h : ∀ c ∈ cs, c.toNat < 0x80)
include h

theorem reorder_of_ascii : reorder cs = cs := by
  induction cs with
  | nil => rfl
  | cons c rest ih =>
    obtain ⟨hc, hrest⟩ := List.forall_mem_cons.mp h
    rw [reorder, ih hrest]
    cases rest with
    | nil => rfl
    | cons d more =>
      have hd := combiningClass_of_ascii (hrest d List.mem_cons_self)
      rw [settle, if_neg (by omega)]

theorem composeBehind_of_ascii (base : Char) : composeBehind base [] cs = base :: cs := by
  induction cs generalizing base with
  | nil => rfl
  | cons c rest ih =>
    obtain ⟨hc, hrest⟩ := List.forall_mem_cons.mp h
    have hhidden : (([] : List Char).getLast?.any fun d =>
      combiningClass c ≤ combiningClass d) = false := rfl
    rw [composeBehind, hhidden]
    simp only [Bool.false_eq_true, if_false, join?_of_ascii base hc, combiningClass_of_ascii hc,
      if_true, ih hrest]
    rfl

theorem composed_of_ascii : composed cs = cs := by
  have hparts : cs.flatMap parts = cs := by
    rw [List.flatMap_congr fun c hc => parts_of_ascii (h c hc), List.flatMap_singleton']
  rw [composed, hparts, reorder_of_ascii h]
  cases cs with
  | nil => rfl
  | cons c rest => exact composeBehind_of_ascii (List.forall_mem_cons.mp h).2 c

end Composition

end Telemetry.Text
