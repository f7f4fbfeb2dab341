import Mathlib.Data.List.Lex
import Telemetry.Text.Units

/-! # The order of texts

Texts compare like their lists of UTF-16 units, and a text is decided by its units: no unit of one
character begins the units of another. Grouped into code points, the units of a text are those of
its characters.
-/
namespace Telemetry.Text

theorem charUnits_append_inj {c d : Char} {s t : List Nat}
    (h : charUnits c ++ s = charUnits d ++ t) : c = d ∧ s = t := by
  have hc : c.toNat < 0xD800 ∨ (0xDFFF < c.toNat ∧ c.toNat < 0x110000) := c.valid
  have hd : d.toNat < 0xD800 ∨ (0xDFFF < d.toNat ∧ d.toNat < 0x110000) := d.valid
  unfold charUnits at h
  split at h <;> split at h
  · obtain ⟨hn, hrest⟩ := List.cons.inj h
    exact ⟨Char.toNat_inj.mp hn, hrest⟩
  · obtain ⟨hn, -⟩ := List.cons.inj h
    omega
  · obtain ⟨hn, -⟩ := List.cons.inj h
    omega
  · obtain ⟨hhigh, hmore⟩ := List.cons.inj h
    obtain ⟨hlow, hrest⟩ := List.cons.inj hmore
    exact ⟨Char.toNat_inj.mp (by omega), hrest⟩

theorem charUnits_ne_nil (c : Char) : charUnits c ≠ [] := by
  unfold charUnits
  split <;> simp

theorem flatMap_charUnits_inj {cs ds : List Char}
    (h : cs.flatMap charUnits = ds.flatMap charUnits) : cs = ds := by
  induction cs generalizing ds with
  | nil =>
    cases ds with
    | nil => rfl
    | cons d more =>
      rw [List.flatMap_nil, List.flatMap_cons] at h
      exact absurd (List.append_eq_nil_iff.mp h.symm).1 (charUnits_ne_nil d)
  | cons c rest ih =>
    cases ds with
    | nil =>
      rw [List.flatMap_nil, List.flatMap_cons] at h
      exact absurd (List.append_eq_nil_iff.mp h).1 (charUnits_ne_nil c)
    | cons d more =>
      rw [List.flatMap_cons, List.flatMap_cons] at h
      obtain ⟨rfl, hrest⟩ := charUnits_append_inj h
      rw [ih hrest]

theorem units_inj {s t : String} : units s = units t ↔ s = t :=
  ⟨fun h => String.toList_inj.mp (flatMap_charUnits_inj h), fun h => h ▸ rfl⟩

theorem compareUnits_lt_iff (s t : List Nat) : compareUnits s t = .lt ↔ s < t := by
  induction s generalizing t with
  | nil => cases t <;> simp [compareUnits]
  | cons a s ih =>
    cases t with
    | nil => simp [compareUnits]
    | cons b t =>
      rw [compareUnits, List.cons_lt_cons_iff]
      by_cases hab : a = b
      · simp [hab, ih]
      · by_cases hlt : a < b <;> simp [hab, hlt]

/-- Comparing texts is comparing their units as lists. -/
theorem compare_lt_iff (s t : String) : compare s t = .lt ↔ units s < units t :=
  compareUnits_lt_iff _ _

section CodePoints

def isHighSurrogate (n : Nat) : Bool := 0xD800 ≤ n && n < 0xDC00

def isLowSurrogate (n : Nat) : Bool := 0xDC00 ≤ n && n < 0xE000

/-- Units as code points: a high surrogate before a low one is one code point with it, and any
other unit is one of its own. -/
def codePoints : List Nat → List (List Nat)
  | [] => []
  | [a] => [[a]]
  | a :: b :: rest =>
    if isHighSurrogate a && isLowSurrogate b then [a, b] :: codePoints rest
    else [a] :: codePoints (b :: rest)

def pointCount (s : String) : Nat := (codePoints (units s)).length

theorem codePoints_append (c : Char) (us : List Nat) :
    codePoints (charUnits c ++ us) = charUnits c :: codePoints us := by
  have hc : c.toNat < 0xD800 ∨ (0xDFFF < c.toNat ∧ c.toNat < 0x110000) := c.valid
  unfold charUnits
  split
  · have hhigh : isHighSurrogate c.toNat = false := by
      simp only [isHighSurrogate, Bool.and_eq_false_iff, decide_eq_false_iff_not]
      omega
    cases us with
    | nil => rfl
    | cons b rest =>
      rw [List.singleton_append, codePoints, hhigh, Bool.false_and, if_neg Bool.false_ne_true]
  · rw [List.cons_append, List.singleton_append, codePoints, if_pos]
    simp only [isHighSurrogate, isLowSurrogate, Bool.and_eq_true, decide_eq_true_eq]
    omega

/-- The code points of a text are its characters. -/
theorem codePoints_units (s : String) : codePoints (units s) = s.toList.map charUnits := by
  unfold units
  induction s.toList with
  | nil => rfl
  | cons c rest ih => rw [List.flatMap_cons, codePoints_append, ih, List.map_cons]

theorem pointCount_eq (s : String) : pointCount s = s.toList.length := by
  rw [pointCount, codePoints_units, List.length_map]

theorem flatten_codePoints (us : List Nat) : (codePoints us).flatten = us := by
  induction us using codePoints.induct with
  | case1 => rfl
  | case2 a => rfl
  | case3 a b rest hpair ih => rw [codePoints, if_pos hpair, List.flatten_cons, ih]; rfl
  | case4 a b rest hpair ih => rw [codePoints, if_neg hpair, List.flatten_cons, ih]; rfl

/-- Units after which and before which no pair of surrogates is torn apart. -/
def IsSeam (before after : List Nat) : Prop :=
  ∀ a ∈ before.getLast?, ∀ b ∈ after.head?, (isHighSurrogate a && isLowSurrogate b) = false

/-- A text does not end between the surrogates of a pair. -/
theorem isSeam_units (s : String) (after : List Nat) : IsSeam (units s) after := by
  intro a ha b _
  suffices h : isHighSurrogate a = false by rw [h, Bool.false_and]
  unfold units at ha
  rcases List.eq_nil_or_concat s.toList with hnil | ⟨front, c, hfront⟩
  · rw [hnil] at ha
    cases ha
  · rw [hfront, List.concat_eq_append, List.flatMap_append, List.flatMap_singleton] at ha
    have hc : c.toNat < 0xD800 ∨ (0xDFFF < c.toNat ∧ c.toNat < 0x110000) := c.valid
    simp only [isHighSurrogate, Bool.and_eq_false_iff, decide_eq_false_iff_not]
    unfold charUnits at ha
    split at ha
    · obtain rfl : c.toNat = a := by simpa using ha
      omega
    · obtain rfl : 0xDC00 + (c.toNat - 0x10000) % 0x400 = a := by simpa using ha
      omega

end CodePoints

end Telemetry.Text
