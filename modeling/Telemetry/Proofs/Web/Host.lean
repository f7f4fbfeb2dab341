import Telemetry.Proofs.Number.Numeral
import Telemetry.Proofs.Text.Ascii
import Telemetry.Proofs.Web.Target

/-! # Hosts that an address can name

A name of ASCII counts in lower case. It is a domain unless a label that is written in letters and
digits stands for none, or it ends in a number without being an address of numbers. The usual four
numbers are such an address, and eight groups, with their colons, are not a name at all.
-/
namespace Telemetry.Web

/-- Letters, digits, hyphens and underscores, and the points between labels. -/
def isNameChar (c : Char) : Bool := c.isAlphanum || c == '-' || c == '_' || c == '.'

structure IsName (host : List Char) : Prop where
  nonempty : host ≠ []
  chars : ∀ c ∈ host, isNameChar c = true

instance (host : List Char) : Decidable (IsName host) :=
  decidable_of_iff (host ≠ [] ∧ host.all isNameChar = true)
    ⟨fun ⟨hne, hchars⟩ => ⟨hne, List.all_eq_true.mp hchars⟩,
      fun h => ⟨h.nonempty, List.all_eq_true.mpr h.chars⟩⟩

/-- What an address asks of a name in lower case. -/
structure IsFit (name : List Char) : Prop where
  encoded : ∀ label ∈ addressParts name, Domain.encodedPrefix <+: label →
    Domain.isEncodedWord (label.drop Domain.encodedPrefix.length) = true
  number : endsInNumber name = true → isNumberAddress name = true

instance (name : List Char) : Decidable (IsFit name) :=
  decidable_of_iff
    ((∀ label ∈ addressParts name, Domain.encodedPrefix <+: label →
      Domain.isEncodedWord (label.drop Domain.encodedPrefix.length) = true) ∧
      (endsInNumber name = true → isNumberAddress name = true))
    ⟨fun ⟨hencoded, hnumber⟩ => ⟨hencoded, hnumber⟩, fun h => ⟨h.encoded, h.number⟩⟩

/-- The usual names: no label is encoded, and the last one begins with a letter. -/
structure IsLettered (name : List Char) : Prop where
  plain : ∀ label ∈ addressParts name, ¬ Domain.encodedPrefix <+: label
  letter : ∀ label ∈ (addressParts name).getLast?, ∃ c ∈ label.head?, c.isAlpha = true

section Names

variable {c : Char} {cs host : List Char}

theorem ascii_of_isNameChar (h : isNameChar c = true) : c.toNat < 0x80 := by
  simp only [isNameChar, Bool.or_eq_true, beq_iff_eq] at h
  rcases h with ((h | rfl) | rfl) | rfl
  · have := Text.visible_of_isAlphanum h
    omega
  · decide
  · decide
  · decide

theorem isNameChar_toLower (h : isNameChar c = true) : isNameChar c.toLower = true :=
  Text.forall_of_ascii (p := fun c => isNameChar c = true → isNameChar c.toLower = true)
    (by decide +kernel) (ascii_of_isNameChar h) h

theorem not_forbidden_of_isNameChar (h : isNameChar c = true) : isForbiddenDomainChar c = false :=
  Text.forall_of_ascii (p := fun c => isNameChar c = true → isForbiddenDomainChar c = false)
    (by decide +kernel) (ascii_of_isNameChar h) h

theorem IsName.ascii (h : IsName host) : ∀ c ∈ host, c.toNat < 0x80 := fun c hc =>
  ascii_of_isNameChar (h.chars c hc)

/-- A name in lower case is a name. -/
theorem IsName.map_toLower (h : IsName host) : IsName (host.map Char.toLower) := by
  refine ⟨mt List.map_eq_nil_iff.mp h.nonempty, fun c hc => ?_⟩
  obtain ⟨d, hd, rfl⟩ := List.mem_map.mp hc
  exact isNameChar_toLower (h.chars d hd)

theorem plain_of_isNameChar (h : isNameChar c = true) : c ≠ ':' ∧ c ≠ '[' :=
  ⟨fun heq => absurd h (heq ▸ by decide), fun heq => absurd h (heq ▸ by decide)⟩

/-- A text of ASCII is spelled in lower case. -/
theorem spell?_of_ascii (h : ∀ c ∈ cs, c.toNat < 0x80) :
    Domain.spell? cs = some (cs.map Char.toLower) := by
  induction cs with
  | nil => rfl
  | cons c rest ih =>
    obtain ⟨hc, hrest⟩ := List.forall_mem_cons.mp h
    have hrole : Domain.role c = if c.isUpper then .spelled [c.toLower] else .kept := if_pos hc
    rw [Domain.spell?, hrole, ih hrest]
    cases hupper : c.isUpper with
    | true => rfl
    | false =>
      have hsame : c.toLower = c :=
        Text.forall_of_ascii (p := fun c => c.isUpper = false → c.toLower = c)
          (by decide +kernel) hc hupper
      rw [List.map_cons, hsame]
      rfl

theorem mem_addressParts {label : List Char} (h : label ∈ addressParts cs) :
    label ∈ Text.splitWhere (· == '.') cs := by
  unfold addressParts at h
  dsimp only at h
  split at h
  · exact List.dropLast_subset _ h
  · exact h

/-- The part that may be left out at the end is empty. -/
theorem forall_mem_addressParts_iff {p : List Char → Prop} (hnil : p []) :
    (∀ label ∈ addressParts cs, p label) ↔ ∀ label ∈ Text.splitWhere (· == '.') cs, p label := by
  refine ⟨fun h label hlabel => ?_, fun h label hlabel => h label (mem_addressParts hlabel)⟩
  unfold addressParts at h
  dsimp only at h
  split at h
  · rename_i hends
    have hsplit := List.dropLast_append_getLast? [] hends.2
    rw [← hsplit, List.mem_append, List.mem_singleton] at hlabel
    rcases hlabel with hlabel | rfl
    · exact h label hlabel
    · exact hnil
  · exact h label hlabel

/-- The labels of a text of ASCII. -/
theorem isLabel_of_ascii (h : ∀ c ∈ cs, c.toNat < 0x80) : Domain.isLabel cs = true ↔
    (Domain.encodedPrefix <+: cs →
      Domain.isEncodedWord (cs.drop Domain.encodedPrefix.length) = true) := by
  have hascii : Domain.isAscii cs = true := List.all_eq_true.mpr fun c hc => by simpa using h c hc
  rw [Domain.isLabel, ← List.isPrefixOf_iff_prefix]
  split
  · rename_i hencoded
    simp [hencoded]
  · rename_i hplain
    simp [hplain, hascii]

/-- A name is a domain exactly if it is fit in lower case. -/
theorem IsName.isDomain_iff (h : IsName host) :
    isDomain host = true ↔ IsFit (host.map Char.toLower) := by
  have hlower := h.map_toLower
  have hplain : '%' ∉ host := fun hmem => absurd (h.chars '%' hmem) (by decide)
  have hlabels : (∀ label ∈ addressParts (host.map Char.toLower), Domain.isLabel label = true) ↔
      ∀ label ∈ Text.splitWhere (· == '.') (host.map Char.toLower), Domain.isLabel label = true :=
    forall_mem_addressParts_iff rfl
  rw [isDomain, Text.decodeComponent?_of_plain hplain, Option.bind_some, spell?_of_ascii h.ascii]
  dsimp only
  generalize host.map Char.toLower = name at hlower hlabels ⊢
  have hempty : name.isEmpty = false := List.isEmpty_eq_false_iff.mpr hlower.nonempty
  have hallowed : name.any isForbiddenDomainChar = false :=
    List.any_eq_false.mpr fun c hc => by simp [not_forbidden_of_isNameChar (hlower.chars c hc)]
  rw [Text.composed_of_ascii hlower.ascii, hempty, hallowed]
  simp only [Bool.not_false, Bool.true_and, Bool.and_true, Bool.and_eq_true, List.all_eq_true,
    Bool.or_eq_true, Bool.not_eq_true']
  have hencoded : ∀ label ∈ addressParts name, Domain.isLabel label = true ↔
      (Domain.encodedPrefix <+: label →
        Domain.isEncodedWord (label.drop Domain.encodedPrefix.length) = true) :=
    fun label hlabel => isLabel_of_ascii fun c hc =>
      hlower.ascii c (Text.mem_of_mem_splitWhere (mem_addressParts hlabel) c hc).1
  rw [← hlabels]
  constructor
  · rintro ⟨hall, hnumber⟩
    refine ⟨fun label hlabel => (hencoded label hlabel).mp (hall label hlabel), fun hends => ?_⟩
    exact hnumber.resolve_left fun hnot => Bool.false_ne_true (hnot.symm.trans hends)
  · intro hfit
    refine ⟨fun label hlabel => (hencoded label hlabel).mpr (hfit.encoded label hlabel), ?_⟩
    cases hends : endsInNumber name with
    | false => exact .inl rfl
    | true => exact .inr (hfit.number hends)

/-- A name is fit if none of its labels has the prefix and the last one begins with a letter. -/
theorem IsLettered.isFit (h : IsLettered cs) : IsFit cs := by
  refine ⟨fun label hlabel hencoded => absurd hencoded (h.plain label hlabel), fun hends => ?_⟩
  unfold endsInNumber at hends
  split at hends
  · cases hends
  · rename_i part hpart
    obtain ⟨c, hc, hletter⟩ := h.letter part hpart
    obtain ⟨rest, rfl⟩ := List.head?_eq_some_iff.mp hc
    have hdigit : c.isDigit = false := Text.isDigit_of_isAlpha hletter
    have hvalue : ¬ Number.digitValue c < 10 := by simp [Number.digitValue_lt_ten_iff, hdigit]
    have hnumber : addressPart? (c :: rest) = none := by
      unfold addressPart?
      split
      · rfl
      · rename_i hcons
        rw [(List.cons.inj hcons).1] at hletter
        exact absurd hletter (by decide)
      · simp [hvalue]
    simp [hnumber, hdigit] at hends

end Names

section Addresses

variable {cs : List Char}

/-- A part of four numbers. -/
structure IsNumeral (cs : List Char) : Prop where
  nonempty : cs ≠ []
  digits : ∀ c ∈ cs, c.isDigit = true
  leading : cs.length = 1 ∨ cs.head? ≠ some '0'
  bound : Number.digitsValue 10 cs < 256

theorem isDottedTail_iff : isDottedTail cs = true ↔
    (Text.splitWhere (· == '.') cs).length = 4 ∧
      ∀ part ∈ Text.splitWhere (· == '.') cs, IsNumeral part := by
  simp only [isDottedTail, Bool.and_eq_true, Bool.or_eq_true, Bool.not_eq_true', beq_iff_eq,
    bne_iff_ne, List.all_eq_true, List.isEmpty_eq_false_iff, decide_eq_true_eq]
  refine and_congr_right fun _ => forall₂_congr fun part _ => ?_
  exact ⟨fun ⟨⟨⟨hne, hdigits⟩, hzero⟩, hbound⟩ => ⟨hne, hdigits, hzero, hbound⟩,
    fun h => ⟨⟨⟨h.nonempty, h.digits⟩, h.leading⟩, h.bound⟩⟩

theorem IsNumeral.addressPart? (h : IsNumeral cs) :
    addressPart? cs = some (Number.digitsValue 10 cs) := by
  have hall : cs.all (fun c => decide (Number.digitValue c < 10)) = true := by
    refine List.all_eq_true.mpr fun c hc => decide_eq_true ?_
    exact Number.digitValue_lt_ten_iff.mpr (h.digits c hc)
  unfold Web.addressPart?
  split
  · exact absurd rfl h.nonempty
  · rename_i mark rest
    rcases h.leading with hone | hhead
    · cases hone
    · exact absurd rfl hhead
  · exact if_pos hall

theorem eq_point_or_isDigit (h : isDottedTail cs = true) :
    ∀ c ∈ cs, c = '.' ∨ c.isDigit = true := by
  intro c hc
  refine (Text.exists_part_of_mem (p := (· == '.')) hc).imp beq_iff_eq.mp ?_
  rintro ⟨part, hpart, hmem⟩
  exact ((isDottedTail_iff.mp h).2 part hpart).digits c hmem

/-- Four numbers are a name. -/
theorem isName_of_dotted (h : isDottedTail cs = true) : IsName cs := by
  refine ⟨?_, fun c hc => ?_⟩
  · rintro rfl
    exact absurd h (by decide)
  · rcases eq_point_or_isDigit h c hc with rfl | hdigit
    · rfl
    · simp [isNameChar, Char.isAlphanum, hdigit]

theorem addressParts_of_dotted (h : isDottedTail cs = true) :
    addressParts cs = Text.splitWhere (· == '.') cs := by
  obtain ⟨-, hparts⟩ := isDottedTail_iff.mp h
  refine if_neg fun hends => ?_
  exact (hparts [] (List.mem_of_getLast? hends.2)).nonempty rfl

theorem mapM_addressPart? {parts : List (List Char)} (h : ∀ part ∈ parts, IsNumeral part) :
    parts.mapM addressPart? = some (parts.map (Number.digitsValue 10)) := by
  induction parts with
  | nil => rfl
  | cons part rest ih =>
    obtain ⟨hpart, hrest⟩ := List.forall_mem_cons.mp h
    simp [List.mapM_cons, hpart.addressPart?, ih hrest]

/-- Four numbers are an address of numbers. -/
theorem isNumberAddress_of_dotted (h : isDottedTail cs = true) : isNumberAddress cs = true := by
  obtain ⟨hlength, hparts⟩ := isDottedTail_iff.mp h
  have hbound : ∀ n ∈ (Text.splitWhere (· == '.') cs).map (Number.digitsValue 10), n < 256 := by
    intro n hn
    obtain ⟨part, hpart, rfl⟩ := List.mem_map.mp hn
    exact (hparts part hpart).bound
  have hfour := hlength.symm.trans (List.length_map (Number.digitsValue 10)).symm
  unfold isNumberAddress
  rw [addressParts_of_dotted h]
  dsimp only
  rw [mapM_addressPart? hparts]
  generalize (Text.splitWhere (· == '.') cs).map (Number.digitsValue 10) = numbers at hbound hfour ⊢
  have hinit : numbers.dropLast.all (· < 256) = true :=
    List.all_eq_true.mpr fun n hn => decide_eq_true (hbound n (List.dropLast_subset _ hn))
  have hlast : numbers.getLast?.all (fun last => last < Nat.pow 256 (5 - 4)) = true := by
    cases hlast : numbers.getLast? with
    | none => rfl
    | some last => exact decide_eq_true (hbound last (List.mem_of_getLast? hlast))
  dsimp only
  rw [hinit, ← hfour, hlast]
  rfl

theorem isFit_of_dotted (h : isDottedTail cs = true) : IsFit (cs.map Char.toLower) := by
  have hlower : cs.map Char.toLower = cs := by
    refine (List.map_congr_left fun c hc => ?_).trans (List.map_id _)
    exact Text.forall_of_ascii (p := fun c => c = '.' ∨ c.isDigit = true → c.toLower = c)
      (by decide +kernel) ((isName_of_dotted h).ascii c hc) (eq_point_or_isDigit h c hc)
  rw [hlower]
  refine ⟨fun label hlabel hencoded => ?_, fun _ => isNumberAddress_of_dotted h⟩
  have hdigits := ((isDottedTail_iff.mp h).2 label (mem_addressParts hlabel)).digits
  exact absurd (hdigits 'x' (hencoded.subset (by decide))) (by decide)

end Addresses

section Groups

variable {c : Char} {cs before behind : List Char} {parts : List (List Char)} {final : Bool}
variable {places : Nat}

/-- Hexadecimal digits, points and colons. -/
def isGroupChar (c : Char) : Bool := (Text.hexValue? c).isSome || c == '.' || c == ':'

/-- But for the colons these are characters of names. -/
theorem isNameChar_or_of_isGroupChar (h : isGroupChar c = true) :
    isNameChar c = true ∨ c = ':' := by
  simp only [isGroupChar, Bool.or_eq_true, beq_iff_eq] at h
  rcases h with (h | rfl) | rfl
  · exact .inl (by simp [isNameChar, Text.isAlphanum_of_hexValue? h])
  · exact .inl rfl
  · exact .inr rfl

theorem isGroupChar_of_dotted (h : isDottedTail cs = true) : ∀ c ∈ cs, isGroupChar c = true := by
  intro c hc
  rcases eq_point_or_isDigit h c hc with rfl | hdigit
  · rfl
  · simp [isGroupChar, Text.hexValue?, hdigit]

theorem isGroupChar_of_group (h : isGroup cs = true) : ∀ c ∈ cs, isGroupChar c = true := by
  intro c hc
  simp only [isGroup, Bool.and_eq_true, List.all_eq_true] at h
  simp [isGroupChar, h.2 c hc]

theorem isGroupChar_of_places (h : groupPlaces? final parts = some places) :
    ∀ part ∈ parts, ∀ c ∈ part, isGroupChar c = true := by
  induction parts generalizing places with
  | nil => simp
  | cons part rest ih =>
    rw [List.forall_mem_cons]
    cases rest with
    | nil =>
      refine ⟨?_, by simp⟩
      rw [groupPlaces?] at h
      split at h
      · exact isGroupChar_of_group ‹_›
      · split at h
        · rename_i hdotted
          exact isGroupChar_of_dotted (Bool.and_eq_true_iff.mp hdotted).2
        · cases h
    | cons next more =>
      rw [groupPlaces?] at h
      · split at h
        · obtain ⟨n, hn, -⟩ := Option.map_eq_some_iff.mp h
          exact ⟨isGroupChar_of_group ‹_›, ih hn⟩
        · cases h
      · simp

theorem isGroupChar_of_groups (h : groupPlaces? final (groups cs) = some places) :
    ∀ c ∈ cs, isGroupChar c = true := by
  intro c hc
  have hsome : cs.isEmpty = false := List.isEmpty_eq_false_iff.mpr (List.ne_nil_of_mem hc)
  rw [groups, if_neg (by simp [hsome])] at h
  rcases Text.exists_part_of_mem (p := (· == ':')) hc with hcolon | ⟨part, hpart, hmem⟩
  · rw [beq_iff_eq.mp hcolon]
    rfl
  · exact isGroupChar_of_places h part hpart c hmem

theorem splitGap_eq_some (h : splitGap cs = some (before, behind)) :
    cs = before ++ ':' :: ':' :: behind := by
  fun_induction splitGap cs generalizing before with
  | case1 rest =>
    cases h
    rfl
  | case2 c rest hmore ih =>
    obtain ⟨⟨front, back⟩, hgap, hpair⟩ := Option.map_eq_some_iff.mp h
    cases hpair
    rw [ih hgap]
    rfl
  | case3 => cases h

/-- Without colons there are at most two places. -/
theorem groupPlaces?_of_single (cs : List Char) (h : groupPlaces? final [cs] = some places) :
    places ≤ 2 := by
  rw [groupPlaces?] at h
  split at h
  · cases h
    decide
  · split at h
    · cases h
      decide
    · cases h

/-- An address of eight groups is written with hexadecimal digits, points and colons. -/
theorem chars_of_isGroupAddress (h : isGroupAddress cs = true) :
    ':' ∈ cs ∧ ∀ c ∈ cs, isGroupChar c = true := by
  unfold isGroupAddress at h
  split at h
  · rw [beq_iff_eq] at h
    refine ⟨?_, isGroupChar_of_groups h⟩
    by_contra hnone
    have hplain : ∀ c ∈ cs, (c == ':') = false := fun c hc =>
      beq_eq_false_iff_ne.mpr fun heq => hnone (heq ▸ hc)
    have hsingle : Text.splitWhere (· == ':') cs = [cs] := by
      rw [Text.splitWhere_eq_splitOnP, List.splitOnP_eq_singleton hplain]
    unfold groups at h
    split at h
    · cases h
    · rw [hsingle] at h
      exact absurd (groupPlaces?_of_single cs h) (by decide)
  · rename_i before behind hgap
    split at h
    · rename_i a b ha hb
      rw [splitGap_eq_some hgap]
      refine ⟨by simp, fun c hc => ?_⟩
      rcases List.mem_append.mp hc with hc | hc
      · exact isGroupChar_of_groups ha c hc
      · rcases List.mem_cons.mp hc with rfl | hc
        · rfl
        · rcases List.mem_cons.mp hc with rfl | hc
          · rfl
          · exact isGroupChar_of_groups hb c hc
    · cases h

end Groups

end Telemetry.Web
