import Telemetry.Proofs.Text.Ascii
import Telemetry.Proofs.Text.Trim
import Telemetry.Request.Identity

/-! # Safe identities

An identity is safe if it has one to sixty-four characters, all of them letters, digits, points,
underscores or hyphens. A request keeps the trimmed identity it was sent with exactly if that one is
safe; the hexadecimal text of some octets, which every other request gets, is safe as well.
-/
namespace Telemetry.Request

/-- A letter or digit of ASCII, a point, an underscore or a hyphen. -/
def IsSafeChar (c : Char) : Prop :=
  ('A' ≤ c ∧ c ≤ 'Z') ∨ ('a' ≤ c ∧ c ≤ 'z') ∨ ('0' ≤ c ∧ c ≤ '9') ∨ c ∈ ['.', '_', '-']

instance (c : Char) : Decidable (IsSafeChar c) := inferInstanceAs (Decidable (_ ∨ _))

structure IsSafe (id : String) : Prop where
  nonempty : id ≠ ""
  short : id.toList.length ≤ 64
  chars : ∀ c ∈ id.toList, IsSafeChar c

theorem isIdentityChar_iff (c : Char) : isIdentityChar c = true ↔ IsSafeChar c := by
  simp only [isIdentityChar, IsSafeChar, Bool.or_eq_true, Text.isAlphanum_iff, beq_iff_eq,
    List.mem_cons, List.not_mem_nil, or_false, or_assoc]

/-- What is safe is visible ASCII, so it can be sent in a header. -/
theorem visible_of_isSafeChar {c : Char} (h : IsSafeChar c) : 0x20 < c.toNat ∧ c.toNat < 0x7F := by
  simp only [← isIdentityChar_iff, isIdentityChar, Bool.or_eq_true, beq_iff_eq] at h
  rcases h with ((h | rfl) | rfl) | rfl
  · exact Text.visible_of_isAlphanum h
  · decide
  · decide
  · decide

theorem isIdentity_iff (id : String) : isIdentity id.toList = true ↔ IsSafe id := by
  simp only [isIdentity, Bool.and_eq_true, Bool.not_eq_true', decide_eq_true_eq, List.all_eq_true,
    isIdentityChar_iff, and_assoc]
  refine ⟨fun ⟨hne, hshort, hchars⟩ => ⟨?_, hshort, hchars⟩, fun h => ⟨?_, h.short, h.chars⟩⟩
  · rintro rfl
    exact absurd hne (by decide)
  · exact Bool.eq_false_iff.mpr fun hempty =>
      h.nonempty (String.toList_eq_nil_iff.mp (List.isEmpty_iff.mp hempty))

instance (id : String) : Decidable (IsSafe id) := decidable_of_iff _ (isIdentity_iff id)

section Fresh

/-- The digits of hexadecimal texts. -/
def hexDigits : List Char := "0123456789abcdef".toList

theorem digitChar_mem_hexDigits : ∀ n < 16, Nat.digitChar n ∈ hexDigits := by decide

theorem isSafeChar_of_mem_hexDigits : ∀ c ∈ hexDigits, IsSafeChar c := fun c hc =>
  of_decide_eq_true (List.all_eq_true.mp
    (by decide : hexDigits.all (fun c => decide (IsSafeChar c)) = true) c hc)

/-- Two digits stand for each octet. -/
theorem length_freshIdentity (octets : List Nat) :
    (freshIdentity octets).toList.length = 2 * octets.length := by
  simp [freshIdentity, Nat.mul_comm]

theorem mem_hexDigits_of_mem_freshIdentity {octets : List Nat} (h : ∀ o ∈ octets, o < 256) :
    ∀ c ∈ (freshIdentity octets).toList, c ∈ hexDigits := by
  intro c hc
  rw [freshIdentity, String.toList_ofList, List.mem_flatMap] at hc
  obtain ⟨o, ho, hc⟩ := hc
  have hbound := h o ho
  rcases List.mem_pair.mp hc with rfl | rfl
  · exact digitChar_mem_hexDigits _ (by omega)
  · exact digitChar_mem_hexDigits _ (by omega)

theorem isSafe_freshIdentity {octets : List Nat} (hsome : octets ≠ [])
    (hshort : octets.length ≤ 32) (h : ∀ o ∈ octets, o < 256) : IsSafe (freshIdentity octets) := by
  have hlength := length_freshIdentity octets
  have hpos := List.length_pos_of_ne_nil hsome
  refine ⟨fun hempty => ?_, by omega, fun c hc =>
    isSafeChar_of_mem_hexDigits c (mem_hexDigits_of_mem_freshIdentity h c hc)⟩
  rw [hempty, String.toList_empty, List.length_nil] at hlength
  omega

end Fresh

variable {fresh : String}

/-- A request that brings an identity keeps it if it is safe, and gets the fresh one otherwise. -/
theorem identity_some (fresh value : String) : identity fresh (some value) =
    if IsSafe (Text.trim value) then Text.trim value else fresh := by
  have hiff := isIdentity_iff (Text.trim value)
  rw [Text.toList_trim] at hiff
  simp only [identity, hiff]

theorem isSafe_identity (hfresh : IsSafe fresh) (header : Option String) :
    IsSafe (identity fresh header) := by
  cases header with
  | none => exact hfresh
  | some value =>
    rw [identity_some]
    split
    · assumption
    · exact hfresh

/-- Nothing that is unsafe is ever kept. -/
theorem identity_eq_trim_iff (hfresh : IsSafe fresh) (value : String) :
    identity fresh (some value) = Text.trim value ↔ IsSafe (Text.trim value) := by
  refine ⟨fun h => h ▸ isSafe_identity hfresh (some value), fun h => ?_⟩
  rw [identity_some, if_pos h]

end Telemetry.Request
