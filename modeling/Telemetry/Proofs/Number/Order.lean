import Mathlib.Tactic.Linarith
import Mathlib.Tactic.Ring
import Telemetry.Number.Basic

/-! # The order of numbers as the order of integers

Every number but `nan` has a place on the line of units, with the infinities just beyond the
largest magnitude. Comparisons of numbers are comparisons of places, so that order facts are
facts about integers.
-/
namespace Telemetry.Number

/-- The first magnitude that is too large. -/
@[irreducible] def ceiling : Nat := 2 ^ limitBits

/-- The place on the line of units; `nan` has none and is given zero. -/
def place : Number → Int
  | nan => 0
  | infinity negative => signed negative ceiling
  | finite negative units .. => signed negative units

theorem lt_ceiling_iff (n : Nat) : n < ceiling ↔ n.log2 < limitBits := by
  unfold ceiling
  by_cases h : n = 0
  · subst h
    exact ⟨fun _ => by decide, fun _ => Nat.two_pow_pos _⟩
  · exact (Nat.log2_lt h).symm

theorem ceiling_pos : 0 < ceiling := by
  unfold ceiling
  exact Nat.two_pow_pos _

theorem two_pow_lt_ceiling {k : Nat} (h : k < limitBits) : 2 ^ k < ceiling := by
  unfold ceiling
  exact Nat.pow_lt_pow_right (by decide) h

theorem unit_pos : 0 < unit := by
  unfold unit
  generalize 1074 = n
  exact Nat.two_pow_pos n

@[simp] theorem isNaN_finite (s : Bool) (u : Nat) (hf : Fits u) (hb : u.log2 < limitBits) :
    (finite s u hf hb).isNaN = false := rfl

@[simp] theorem isNaN_infinity (s : Bool) : (infinity s).isNaN = false := rfl

/-- Comparing numbers is comparing places. -/
theorem le_iff (a b : Number) :
    a.le b = true ↔ a.isNaN = false ∧ b.isNaN = false ∧ a.place ≤ b.place := by
  have hc := ceiling_pos
  cases a with
  | nan => simp [le, isNaN]
  | infinity s =>
    cases b with
    | nan => cases s <;> simp [le, isNaN]
    | infinity t => cases s <;> cases t <;> simp [le, place, signed]; omega
    | finite t v hf hb =>
      have hv := (lt_ceiling_iff v).mpr hb
      cases s <;> cases t <;> simp [le, place, signed] <;> omega
  | finite s u hf hb =>
    have hu := (lt_ceiling_iff u).mpr hb
    cases b with
    | nan => simp [le, isNaN]
    | infinity t => cases s <;> cases t <;> simp [le, place, signed] <;> omega
    | finite t v hg hd => simp [le, place]

theorem lt_iff (a b : Number) :
    a.lt b = true ↔ a.isNaN = false ∧ b.isNaN = false ∧ a.place < b.place := by
  have hab := le_iff a b
  have hba := le_iff b a
  unfold lt
  rw [Bool.and_eq_true, Bool.not_eq_true', ← Bool.not_eq_true, hab, hba]
  constructor
  · rintro ⟨⟨ha, hb, h⟩, hn⟩
    exact ⟨ha, hb, not_le.mp fun hle => hn ⟨hb, ha, hle⟩⟩
  · rintro ⟨ha, hb, h⟩
    exact ⟨⟨ha, hb, h.le⟩, fun hle => absurd hle.2.2 (not_le.mpr h)⟩

theorem le_trans {a b c : Number} (hab : a.le b = true) (hbc : b.le c = true) :
    a.le c = true := by
  rw [le_iff] at *
  exact ⟨hab.1, hbc.2.1, hab.2.2.trans hbc.2.2⟩

theorem le_of_lt {a b : Number} (h : a.lt b = true) : a.le b = true := by
  rw [lt_iff] at h
  rw [le_iff]
  exact ⟨h.1, h.2.1, h.2.2.le⟩

theorem lt_of_lt_of_le {a b c : Number} (hab : a.lt b = true) (hbc : b.le c = true) :
    a.lt c = true := by
  rw [lt_iff] at *
  rw [le_iff] at hbc
  exact ⟨hab.1, hbc.2.1, by omega⟩

theorem lt_of_le_of_lt {a b c : Number} (hab : a.le b = true) (hbc : b.lt c = true) :
    a.lt c = true := by
  rw [lt_iff] at *
  rw [le_iff] at hab
  exact ⟨hab.1, hbc.2.1, by omega⟩

/-- Where no `nan` is involved, one of two numbers is below the other or not above it. -/
theorem not_lt_iff {a b : Number} (ha : a.isNaN = false) (hb : b.isNaN = false) :
    a.lt b = false ↔ b.le a = true := by
  rw [← Bool.not_eq_true, lt_iff, le_iff]
  simp [ha, hb]

theorem lt_of_not_le {a b : Number} (ha : a.isNaN = false) (hb : b.isNaN = false)
    (h : b.le a = false) : a.lt b = true := by
  by_contra hlt
  rw [Bool.not_eq_true, not_lt_iff ha hb, h] at hlt
  cases hlt

end Telemetry.Number
