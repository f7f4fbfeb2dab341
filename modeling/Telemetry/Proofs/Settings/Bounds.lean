import Telemetry.Proofs.Number.Integer
import Telemetry.Settings.Basic

/-! # Numbers in their range

Whatever the untyped tree holds, every number that is read is finite and in its range, without a
sign, and whole where the fraction is dropped. Such a number is read as itself.
-/
namespace Telemetry.Settings
open Telemetry.Number (exactLimit)

theorem isFinite_of_finite? {value : Datum} {x : Number} (h : finite? value = some x) :
    x.isFinite = true := by
  cases value with
  | number y =>
    simp only [finite?] at h
    split at h
    · cases h
      assumption
    · cases h
  | text s =>
    simp only [finite?] at h
    split at h
    · cases h
    · rename_i hn
      cases h
      simp only [Bool.or_eq_true, Bool.not_eq_true', not_or, Bool.not_eq_false] at hn
      exact hn.2
  | absent => cases h
  | null => cases h
  | flag b => cases h
  | list items => cases h
  | record members => cases h

theorem isFinite_getD_finite? (value : Datum) {fallback : Number}
    (hf : fallback.isFinite = true) : ((finite? value).getD fallback).isFinite = true := by
  cases h : finite? value with
  | none => exact hf
  | some x => exact isFinite_of_finite? h

/-- The range begins at a whole number and does not end before it. -/
structure Bounds.Sound (b : Bounds) (low : Nat) : Prop where
  exact : low ≤ exactLimit
  least : b.least = some (Number.ofNat low)
  most : ∀ most ∈ b.most, ∃ high ≤ exactLimit, most = Number.ofNat high ∧ low ≤ high

/-- A number in its range, without a sign. -/
structure Bounds.Within (b : Bounds) (x : Number) : Prop where
  finite : x.isFinite = true
  unsigned : x.isNegative = false
  least : ∀ least ∈ b.least, least.le x = true
  most : ∀ most ∈ b.most, x.le most = true
  whole : b.whole = true → x.isWhole = true

namespace Bounds

/-- A number without its fraction, where the bounds call for that. -/
def cut (b : Bounds) (x : Number) : Number := if b.whole then x.truncate else x

/-- A number, or the end of the range if that is smaller. -/
def cap (b : Bounds) (x : Number) : Number :=
  match b.most with
  | some most => Number.minimum most x
  | none => x

theorem sound_least {low : Nat} (h : low ≤ exactLimit) (whole : Bool) :
    Sound { least := some (OfNat.ofNat low), whole := whole } low :=
  ⟨h, rfl, fun most hmost => by cases hmost⟩

theorem sound_between {low high : Nat} (hle : low ≤ high) (h : high ≤ exactLimit)
    (whole : Bool) :
    Sound { least := some (OfNat.ofNat low), most := some (OfNat.ofNat high), whole := whole }
      low := by
  refine ⟨hle.trans h, rfl, fun most hmost => ⟨high, h, ?_, hle⟩⟩
  exact (Option.some.inj hmost).symm

section Sound

variable {b : Bounds} {low : Nat} (hb : b.Sound low) {x : Number}

theorem isFinite_cut (hx : x.isFinite = true) : (b.cut x).isFinite = true := by
  unfold cut
  split
  · rwa [Number.isFinite_truncate]
  · exact hx

theorem cut_eq_self (h : b.whole = true → x.isWhole = true) : b.cut x = x := by
  unfold cut
  split
  · rename_i hw
    exact Number.truncate_of_isWhole (h hw)
  · rfl

include hb

theorem Sound.apply_eq (x : Number) :
    b.apply x = b.cap (Number.maximum (Number.ofNat low) (b.cut x)) := by
  rw [apply, hb.least]
  rfl

theorem Sound.within_low : ({ b with most := none } : Bounds).Within (Number.ofNat low) where
  finite := Number.isFinite_ofNat hb.exact
  unsigned := Number.isNegative_ofNat low
  least l hl := by
    rw [hb.least] at hl
    rw [← Option.some.inj hl]
    exact Number.le_refl (Number.isNaN_ofNat low)
  most m hm := by cases hm
  whole _ := Number.isWhole_ofNat hb.exact

theorem Sound.within_maximum (hx : x.isFinite = true) :
    ({ b with most := none } : Bounds).Within (Number.maximum (Number.ofNat low) (b.cut x)) := by
  have hlow := Number.isFinite_ofNat hb.exact
  have hcut := isFinite_cut (b := b) hx
  rcases Number.le_or_lt hcut hlow with hle | hlt
  · rw [Number.maximum_eq_left (Number.isNegative_ofNat low) hle]
    exact hb.within_low
  · have hplace := ((Number.lt_iff _ _).mp hlt).2.2
    rw [Number.place_ofNat hb.exact] at hplace
    have hsign := Number.isNegative_of_place_pos ((Int.natCast_nonneg _).trans_lt hplace)
    have hle := Number.le_of_lt hlt
    rw [Number.maximum_eq_right hlow hcut (Number.isNegative_ofNat low) hsign hle]
    refine ⟨hcut, hsign, fun l hl => ?_, fun m hm => ?_, fun hw => ?_⟩
    · rw [hb.least] at hl
      rwa [← Option.some.inj hl]
    · cases hm
    · rw [cut, if_pos hw]
      exact Number.isWhole_truncate hx

theorem Sound.within_cap (h : ({ b with most := none } : Bounds).Within x) :
    b.Within (b.cap x) := by
  unfold cap
  split
  · rename_i most hmost
    obtain ⟨high, hexact, rfl, hle⟩ := hb.most most hmost
    have hfin := Number.isFinite_ofNat hexact
    have hsign := Number.isNegative_ofNat high
    have hlast : ∀ m ∈ b.most, m = Number.ofNat high := fun m hm =>
      Option.some.inj (hm.symm.trans hmost)
    rcases Number.le_or_lt h.finite hfin with hbelow | habove
    · rw [Number.minimum_eq_right hsign hbelow]
      exact ⟨h.finite, h.unsigned, h.least, fun m hm => hlast m hm ▸ hbelow, h.whole⟩
    · rw [Number.minimum_eq_left hfin h.finite hsign h.unsigned (Number.le_of_lt habove)]
      refine ⟨hfin, hsign, fun l hl => ?_, fun m hm => ?_, fun _ => Number.isWhole_ofNat hexact⟩
      · rw [hb.least] at hl
        rw [← Option.some.inj hl]
        exact (Number.ofNat_le_ofNat hb.exact hexact).mpr hle
      · rw [hlast m hm]
        exact Number.le_refl (Number.isNaN_ofNat high)
  · rename_i hnone
    refine ⟨h.finite, h.unsigned, h.least, fun m hm => ?_, h.whole⟩
    rw [hnone] at hm
    cases hm

theorem Sound.within_apply (hx : x.isFinite = true) : b.Within (b.apply x) := by
  rw [hb.apply_eq]
  exact hb.within_cap (hb.within_maximum hx)

/-- A number in its range is left as it is. -/
theorem Sound.apply_of_within (h : b.Within x) : b.apply x = x := by
  have hlow := h.least _ hb.least
  rw [hb.apply_eq, cut_eq_self h.whole,
    Number.maximum_eq_right (Number.isFinite_ofNat hb.exact) h.finite (Number.isNegative_ofNat low)
      h.unsigned hlow]
  unfold cap
  split
  · rename_i most hmost
    obtain ⟨high, hexact, rfl, -⟩ := hb.most most hmost
    exact Number.minimum_eq_right (Number.isNegative_ofNat high) (h.most _ hmost)
  · rfl

/-- Whatever is read, and whether it is read at all, the number lies in its range. -/
theorem Sound.within_readNumber (value : Datum) {fallback : Number}
    (hf : fallback.isFinite = true) : b.Within (readNumber value fallback b) :=
  hb.within_apply (isFinite_getD_finite? value hf)

theorem Sound.readNumber_of_within (h : b.Within x) (fallback : Number) :
    readNumber (.number x) fallback b = x := by
  rw [readNumber, finite?, if_pos h.finite, Option.getD_some]
  exact hb.apply_of_within h

end Sound

/-- A whole number up to a whole bound, without a sign, is one of those that begin at zero. -/
theorem Within.exists_ofNat {b : Bounds} {x : Number} (h : b.Within x) (hwhole : b.whole = true)
    {high : Nat} (hhigh : high ≤ exactLimit) (hmost : b.most = some (Number.ofNat high)) :
    ∃ n ≤ high, x = Number.ofNat n := by
  obtain ⟨z, hz⟩ := Option.isSome_iff_exists.mp (h.whole hwhole)
  obtain ⟨s, n, hf, hb, rfl, -⟩ := Number.exists_of_toInt? hz
  have hsign : s = false := h.unsigned
  have hle := ((Number.le_iff _ _).mp (h.most _ hmost)).2.2
  rw [Number.place_ofNat hhigh, hsign] at hle
  have hn : n ≤ high := by
    refine Nat.le_of_mul_le_mul_right ?_ Number.unit_pos
    exact Nat.cast_le.mp hle
  refine ⟨n, hn, ?_⟩
  rw [Number.ofNat_eq (hn.trans hhigh), hsign]


theorem within_least (value : Datum) {low n : Nat} (hlow : low ≤ exactLimit)
    (hn : n ≤ exactLimit) (whole : Bool) :
    Within { least := some (OfNat.ofNat low), whole := whole }
      (readNumber value (OfNat.ofNat n) { least := some (OfNat.ofNat low), whole := whole }) :=
  (sound_least hlow whole).within_readNumber value (Number.isFinite_literal hn)

theorem within_between (value : Datum) {low high n : Nat} (hle : low ≤ high)
    (hhigh : high ≤ exactLimit) (hn : n ≤ exactLimit) (whole : Bool) :
    Within { least := some (OfNat.ofNat low), most := some (OfNat.ofNat high), whole := whole }
      (readNumber value (OfNat.ofNat n)
        { least := some (OfNat.ofNat low), most := some (OfNat.ofNat high), whole := whole }) :=
  (sound_between hle hhigh whole).within_readNumber value (Number.isFinite_literal hn)

end Bounds

namespace Observability

variable (raw : Datum)

theorem alertWindowSec_within :
    Bounds.Within { least := some 10, whole := true } (resolve raw).alertWindowSec := by
  unfold resolve
  dsimp only
  exact Bounds.within_least _ (by decide) (by decide) true

theorem alertMinRequests_within :
    Bounds.Within { least := some 1, whole := true } (resolve raw).alertMinRequests := by
  unfold resolve
  dsimp only
  exact Bounds.within_least _ (by decide) (by decide) true

theorem alertMinRequests_bounds :
    (resolve raw).alertMinRequests.isFinite = true ∧
      Number.le 1 (resolve raw).alertMinRequests = true :=
  ⟨(alertMinRequests_within raw).finite, (alertMinRequests_within raw).least _ rfl⟩

/-- The width of the window in milliseconds is finite or, for huge settings, infinite. -/
theorem windowMs_finite_or :
    ((resolve raw).alertWindowSec * 1000).isFinite = true ∨
      (resolve raw).alertWindowSec * 1000 = .infinity false := by
  have hf := (alertWindowSec_within raw).finite
  have hle := (alertWindowSec_within raw).least _ rfl
  have hten := Number.place_literal_pos (by decide : 10 ≤ Number.exactLimit) (by decide)
  have hp := ((Number.le_iff _ _).mp hle).2.2
  exact Number.mul_of_pos hf (Number.isFinite_literal (by decide)) (hten.trans_le hp)
    (Number.place_literal_pos (by decide) (by decide))

end Observability

end Telemetry.Settings
