import Mathlib.Tactic.IntervalCases
import Telemetry.Text.Percent

/-! # What percent encoded text stands for

A percent encoded text is read to the one text that it spells: plain characters stand for
themselves, and octets behind percent signs make up the UTF-8 forms of whole characters. What spells
nothing is refused, and every text is spelled by its encoded form.
-/
namespace Telemetry.Text

section Octets

theorem octets_eq (c : Char) : octets c = (String.utf8EncodeChar c).map UInt8.toNat := by
  have hvalue : c.val.toNat = c.toNat := rfl
  have hc : c.toNat < 1114112 := by
    rcases c.valid with h | h
    · exact Nat.lt_trans h (by decide)
    · exact h.2
  unfold octets String.utf8EncodeChar
  dsimp only
  rw [hvalue]
  generalize c.toNat = n at hc
  split_ifs <;>
    simp only [List.map_cons, List.map_nil, UInt8.toNat_ofNat', List.cons.injEq, and_true] <;> omega

theorem lt_of_mem_octets (c : Char) : ∀ n ∈ octets c, n < 256 := by
  rw [octets_eq]
  intro n hn
  obtain ⟨octet, -, rfl⟩ := List.mem_map.mp hn
  exact octet.toNat_lt

theorem toNat_ofNat {n : Nat} (h : n.isValidChar) : (Char.ofNat n).toNat = n := by
  rw [Char.ofNat, dif_pos h]
  rfl

/-- The octets that hold a code behind their marks: no overlong form, no surrogate, nothing beyond
the last character. -/
inductive Holds (n : Nat) : List Nat → Prop
  | one (hn : n < 0x80) : Holds n [n]
  | two {a b : Nat} (ha : 0xC2 ≤ a ∧ a ≤ 0xDF) (hb : 0x80 ≤ b ∧ b ≤ 0xBF)
      (hn : n = 64 * (a - 0xC0) + (b - 0x80)) : Holds n [a, b]
  | three {a b c : Nat} (ha : 0xE0 ≤ a ∧ a ≤ 0xEF) (hb : 0x80 ≤ b ∧ b ≤ 0xBF)
      (hc : 0x80 ≤ c ∧ c ≤ 0xBF) (hlow : a = 0xE0 → 0xA0 ≤ b) (hhigh : a = 0xED → b ≤ 0x9F)
      (hn : n = 64 * (64 * (a - 0xE0) + (b - 0x80)) + (c - 0x80)) : Holds n [a, b, c]
  | four {a b c d : Nat} (ha : 0xF0 ≤ a ∧ a ≤ 0xF4) (hb : 0x80 ≤ b ∧ b ≤ 0xBF)
      (hc : 0x80 ≤ c ∧ c ≤ 0xBF) (hd : 0x80 ≤ d ∧ d ≤ 0xBF) (hlow : a = 0xF0 → 0x90 ≤ b)
      (hhigh : a = 0xF4 → b ≤ 0x8F)
      (hn : n = 64 * (64 * (64 * (a - 0xF0) + (b - 0x80)) + (c - 0x80)) + (d - 0x80)) :
      Holds n [a, b, c, d]

theorem holds_octets (c : Char) : Holds c.toNat (octets c) := by
  have hc : c.toNat.isValidChar := c.valid
  unfold Nat.isValidChar at hc
  unfold octets
  dsimp only
  generalize c.toNat = n at hc
  split_ifs
  · exact .one (by omega)
  · exact .two (by omega) (by omega) (by omega)
  · exact .three (by omega) (by omega) (by omega) (by omega) (by omega) (by omega)
  · exact .four (by omega) (by omega) (by omega) (by omega) (by omega) (by omega) (by omega)

theorem octets_of_holds {n : Nat} {ns : List Nat} (h : Holds n ns) :
    octets (Char.ofNat n) = ns := by
  have hvalid : n.isValidChar := by
    unfold Nat.isValidChar
    cases h <;> omega
  rw [octets, toNat_ofNat hvalid]
  cases h with
  | one hn => exact if_pos hn
  | two =>
    rw [if_neg (by omega), if_pos (by omega)]
    simp only [List.cons.injEq, and_true]
    omega
  | three =>
    rw [if_neg (by omega), if_neg (by omega), if_pos (by omega)]
    simp only [List.cons.injEq, and_true]
    omega
  | four =>
    rw [if_neg (by omega), if_neg (by omega), if_neg (by omega)]
    simp only [List.cons.injEq, and_true]
    omega

end Octets

section Assembly

variable {a b n : Nat} {p q : Pending} {ns : List Nat} {ps rest : List Piece} {value : List Char}

theorem assemble?_lead (ha : 0x80 ≤ a) (hlead : lead? a = some q) :
    assemble? {} (.octet a :: ps) = assemble? q ps := by
  rw [assemble?, if_pos rfl, if_neg (by omega), hlead]

theorem assemble?_last (hp : p.needed = 1) (hn : p.low ≤ n ∧ n ≤ p.high) :
    assemble? p (.octet n :: ps) =
      (assemble? {} ps).map (Char.ofNat (64 * p.value + (n - 0x80)) :: ·) := by
  rw [assemble?, if_neg (by omega), if_pos hn]
  exact if_pos hp

theorem assemble?_more (hp : 1 < p.needed) (hn : p.low ≤ n ∧ n ≤ p.high) :
    assemble? p (.octet n :: ps) =
      assemble? { needed := p.needed - 1, value := 64 * p.value + (n - 0x80) } ps := by
  rw [assemble?, if_neg (by omega), if_pos hn]
  exact if_neg (by omega)

/-- What a lead octet announces for the octet behind it. -/
def Announces (a needed value b : Nat) : Prop :=
  ∃ q, lead? a = some q ∧ q.needed = needed ∧ q.value = value ∧ q.low ≤ b ∧ b ≤ q.high

theorem announces_two (ha : 0xC2 ≤ a ∧ a ≤ 0xDF) (hb : 0x80 ≤ b ∧ b ≤ 0xBF) :
    Announces a 1 (a - 0xC0) b := ⟨_, if_pos ha, rfl, rfl, hb⟩

theorem announces_three (ha : 0xE0 ≤ a ∧ a ≤ 0xEF) (hb : 0x80 ≤ b ∧ b ≤ 0xBF)
    (hlow : a = 0xE0 → 0xA0 ≤ b) (hhigh : a = 0xED → b ≤ 0x9F) : Announces a 2 (a - 0xE0) b := by
  rw [Announces, lead?, if_neg (by omega)]
  split_ifs with h
  · exact ⟨_, rfl, rfl, by rw [h], hlow h, hb.2⟩
  · exact ⟨_, rfl, rfl, rfl, hb.1, hhigh ‹_›⟩
  · exact ⟨_, rfl, rfl, rfl, hb⟩
  all_goals omega

theorem announces_four (ha : 0xF0 ≤ a ∧ a ≤ 0xF4) (hb : 0x80 ≤ b ∧ b ≤ 0xBF)
    (hlow : a = 0xF0 → 0x90 ≤ b) (hhigh : a = 0xF4 → b ≤ 0x8F) : Announces a 3 (a - 0xF0) b := by
  rw [Announces, lead?, if_neg (by omega), if_neg (by omega), if_neg (by omega), if_neg (by omega)]
  split_ifs with hfirst _ hlast
  · exact ⟨_, rfl, rfl, by rw [hfirst], hlow hfirst, hb.2⟩
  · exact ⟨_, rfl, rfl, rfl, hb⟩
  · exact ⟨_, rfl, rfl, by rw [hlast], hb.1, hhigh hlast⟩
  · omega

/-- The octets of a character are joined to it. -/
theorem assemble?_holds (h : Holds n ns) :
    assemble? {} (ns.map .octet ++ ps) = (assemble? {} ps).map (Char.ofNat n :: ·) := by
  cases h with
  | one hn => exact if_pos hn
  | @two a b ha hb hn =>
    obtain ⟨q, hlead, hneeded, hvalue, hrange⟩ := announces_two ha hb
    calc assemble? {} (.octet a :: .octet b :: ps)
      _ = assemble? q (.octet b :: ps) := assemble?_lead (by omega) hlead
      _ = (assemble? {} ps).map (Char.ofNat n :: ·) := by
        rw [assemble?_last hneeded hrange, hvalue, hn]
  | @three a b c ha hb hc hlow hhigh hn =>
    obtain ⟨q, hlead, hneeded, hvalue, hrange⟩ := announces_three ha hb hlow hhigh
    calc assemble? {} (.octet a :: .octet b :: .octet c :: ps)
      _ = assemble? q (.octet b :: .octet c :: ps) := assemble?_lead (by omega) hlead
      _ = assemble? { needed := 1, value := 64 * (a - 0xE0) + (b - 0x80) } (.octet c :: ps) := by
        rw [assemble?_more (by omega) hrange, hneeded, hvalue]
      _ = (assemble? {} ps).map (Char.ofNat n :: ·) := by rw [assemble?_last rfl hc, hn]
  | @four a b c d ha hb hc hd hlow hhigh hn =>
    obtain ⟨q, hlead, hneeded, hvalue, hrange⟩ := announces_four ha hb hlow hhigh
    calc assemble? {} (.octet a :: .octet b :: .octet c :: .octet d :: ps)
      _ = assemble? q (.octet b :: .octet c :: .octet d :: ps) := assemble?_lead (by omega) hlead
      _ = assemble? { needed := 2, value := 64 * (a - 0xF0) + (b - 0x80) }
          (.octet c :: .octet d :: ps) := by
        rw [assemble?_more (by omega) hrange, hneeded, hvalue]
      _ = assemble? { needed := 1, value := 64 * (64 * (a - 0xF0) + (b - 0x80)) + (c - 0x80) }
          (.octet d :: ps) := assemble?_more Nat.one_lt_two hc
      _ = (assemble? {} ps).map (Char.ofNat n :: ·) := by rw [assemble?_last rfl hd, hn]

/-- What is pending needs an octet in its range. -/
theorem exists_octet (hp : p.needed ≠ 0) (h : assemble? p ps = some value) :
    ∃ n rest, ps = .octet n :: rest ∧ (p.low ≤ n ∧ n ≤ p.high) ∧
      (1 < p.needed →
        assemble? { needed := p.needed - 1, value := 64 * p.value + (n - 0x80) } rest =
          some value) := by
  cases ps with
  | nil => simp [assemble?, hp] at h
  | cons piece rest =>
    cases piece with
    | plain c => simp [assemble?, hp] at h
    | octet n =>
      rw [assemble?, if_neg hp] at h
      by_cases hn : p.low ≤ n ∧ n ≤ p.high
      · refine ⟨n, rest, rfl, hn, fun hmore => ?_⟩
        rwa [if_pos hn, if_neg (by omega)] at h
      · rw [if_neg hn] at h
        cases h

theorem lead?_cases (h : lead? a = some q) :
    (q.needed = 1 ∧ (0xC2 ≤ a ∧ a ≤ 0xDF) ∧ q.low = 0x80 ∧ q.high = 0xBF) ∨
    (q.needed = 2 ∧ (0xE0 ≤ a ∧ a ≤ 0xEF) ∧ (0x80 ≤ q.low ∧ q.high ≤ 0xBF) ∧
      (a = 0xE0 → 0xA0 ≤ q.low) ∧ (a = 0xED → q.high ≤ 0x9F)) ∨
    (q.needed = 3 ∧ (0xF0 ≤ a ∧ a ≤ 0xF4) ∧ (0x80 ≤ q.low ∧ q.high ≤ 0xBF) ∧
      (a = 0xF0 → 0x90 ≤ q.low) ∧ (a = 0xF4 → q.high ≤ 0x8F)) := by
  unfold lead? at h
  split_ifs at h <;> cases h <;> simp <;> omega

/-- Whatever is joined begins with the octets of a character. -/
theorem exists_holds (h : assemble? {} (.octet a :: ps) = some value) :
    ∃ n ns rest, Holds n ns ∧ .octet a :: ps = ns.map .octet ++ rest := by
  by_cases ha : a < 0x80
  · exact ⟨a, [a], ps, .one ha, rfl⟩
  rw [assemble?, if_pos rfl, if_neg ha] at h
  cases hlead : lead? a with
  | none => rw [hlead] at h; cases h
  | some q =>
    rw [hlead] at h
    rcases lead?_cases hlead with ⟨hneeded, ha, hlow, hhigh⟩ | ⟨hneeded, ha, hrange, hlow, hhigh⟩ |
      ⟨hneeded, ha, hrange, hlow, hhigh⟩
    · obtain ⟨b, rest, rfl, hb, -⟩ := exists_octet (by omega) h
      exact ⟨_, [a, b], rest, .two ha (by omega) rfl, rfl⟩
    · obtain ⟨b, rest, rfl, hb, hmore⟩ := exists_octet (by omega) h
      obtain ⟨c, rest, rfl, hc, -⟩ := exists_octet (by simp [hneeded]) (hmore (by omega))
      exact ⟨_, [a, b, c], rest, .three ha (by omega) hc (by omega) (by omega) rfl, rfl⟩
    · obtain ⟨b, rest, rfl, hb, hmore⟩ := exists_octet (by omega) h
      obtain ⟨c, rest, rfl, hc, hlast⟩ := exists_octet (by simp [hneeded]) (hmore (by omega))
      obtain ⟨d, rest, rfl, hd, -⟩ := exists_octet (by simp [hneeded]) (hlast (by simp [hneeded]))
      exact ⟨_, [a, b, c, d], rest, .four ha (by omega) hc hd (by omega) (by omega) rfl, rfl⟩

end Assembly

section Reading

/-- Octets behind percent signs, two hexadecimal digits of either case each. -/
inductive SpellsOctets : List Char → List Nat → Prop
  | nil : SpellsOctets [] []
  | cons {a b : Char} {high low : Nat} {cs : List Char} {ns : List Nat}
      (ha : hexValue? a = some high) (hb : hexValue? b = some low) (h : SpellsOctets cs ns) :
      SpellsOctets ('%' :: a :: b :: cs) ((16 * high + low) :: ns)

/-- A percent encoded text: any character may be given by the octets of its UTF-8 form, and all but
the percent sign may stand for themselves. -/
inductive Encodes : List Char → List Char → Prop
  | nil : Encodes [] []
  | plain {c : Char} {cs value : List Char} (hc : c ≠ '%') (h : Encodes cs value) :
      Encodes (c :: cs) (c :: value)
  | octets {c : Char} {front cs value : List Char}
      (hc : SpellsOctets front ((String.utf8EncodeChar c).map UInt8.toNat))
      (h : Encodes cs value) : Encodes (front ++ cs) (c :: value)

variable {a b c : Char} {cs front value : List Char} {ns : List Nat} {ps : List Piece}

theorem pieces?_plain (hc : c ≠ '%') (cs : List Char) :
    pieces? (c :: cs) = (pieces? cs).map (.plain c :: ·) := by
  rw [pieces?, if_neg hc]
  exact fun _ _ _ h _ => hc h

theorem pieces?_spelled (h : SpellsOctets front ns) (cs : List Char) :
    pieces? (front ++ cs) = (pieces? cs).map (ns.map .octet ++ ·) := by
  induction h with
  | nil => simp
  | cons ha hb h ih =>
    rw [List.cons_append, List.cons_append, List.cons_append, pieces?, ha, hb, ih]
    dsimp only
    rw [Option.map_map]
    rfl

/-- What a text falls into. -/
theorem pieces?_cases (h : pieces? cs = some ps) :
    (cs = [] ∧ ps = []) ∨
    (∃ c rest more, cs = c :: rest ∧ ps = .plain c :: more ∧ c ≠ '%' ∧ pieces? rest = some more) ∨
    (∃ a b high low rest more, cs = '%' :: a :: b :: rest ∧ ps = .octet (16 * high + low) :: more ∧
      hexValue? a = some high ∧ hexValue? b = some low ∧ pieces? rest = some more) := by
  unfold pieces? at h
  split at h
  · cases h
    exact .inl ⟨rfl, rfl⟩
  · rename_i a b rest
    split at h
    · rename_i high low ha hb
      obtain ⟨more, hmore, rfl⟩ := Option.map_eq_some_iff.mp h
      exact .inr (.inr ⟨a, b, high, low, rest, more, rfl, rfl, ha, hb, hmore⟩)
    · cases h
  · rename_i c rest _
    split at h
    · cases h
    · rename_i hc
      obtain ⟨more, hmore, rfl⟩ := Option.map_eq_some_iff.mp h
      exact .inr (.inl ⟨c, rest, more, rfl, rfl, hc, hmore⟩)

theorem exists_spelled (h : pieces? cs = some (ns.map .octet ++ ps)) :
    ∃ front rest, cs = front ++ rest ∧ SpellsOctets front ns ∧ pieces? rest = some ps := by
  induction ns generalizing cs with
  | nil => exact ⟨[], cs, rfl, .nil, h⟩
  | cons n ns ih =>
    rcases pieces?_cases h with ⟨-, hps⟩ | ⟨c, rest, more, -, hps, -⟩ |
      ⟨a, b, high, low, rest, more, rfl, hps, ha, hb, hmore⟩
    · cases hps
    · cases hps
    · obtain ⟨hn, hrest⟩ := List.cons.inj hps
      obtain rfl := Piece.octet.inj hn
      rw [← hrest] at hmore
      obtain ⟨front, last, rfl, hfront, hlast⟩ := ih hmore
      exact ⟨'%' :: a :: b :: front, last, rfl, .cons ha hb hfront, hlast⟩

theorem decodeComponent?_of_encodes (h : Encodes cs value) : decodeComponent? cs = some value := by
  induction h with
  | nil => rfl
  | @plain c cs value hc h ih =>
    obtain ⟨ps, hps, hvalue⟩ := Option.bind_eq_some_iff.mp ih
    rw [decodeComponent?, pieces?_plain hc, hps, Option.map_some, Option.bind_some]
    simp [assemble?, hvalue]
  | @octets c front cs value hc h ih =>
    obtain ⟨ps, hps, hvalue⟩ := Option.bind_eq_some_iff.mp ih
    rw [← octets_eq] at hc
    rw [decodeComponent?, pieces?_spelled hc, hps, Option.map_some, Option.bind_some,
      assemble?_holds (holds_octets c), hvalue, Option.map_some, Char.ofNat_toNat]

/-- A text without percent signs stands for itself. -/
theorem decodeComponent?_of_plain (h : '%' ∉ cs) : decodeComponent? cs = some cs := by
  refine decodeComponent?_of_encodes ?_
  induction cs with
  | nil => exact .nil
  | cons c rest ih =>
    rw [List.mem_cons, not_or] at h
    exact .plain (Ne.symm h.1) (ih h.2)

/-- The induction is on the number of pieces, since a character takes several of them. -/
theorem encodes_of_assembled (hpieces : pieces? cs = some ps)
    (hvalue : assemble? {} ps = some value) : Encodes cs value := by
  induction hlength : ps.length using Nat.strongRecOn generalizing cs ps value with
  | ind length ih =>
    rcases pieces?_cases hpieces with ⟨rfl, rfl⟩ | ⟨c, rest, more, rfl, rfl, hc, hrest⟩ |
      ⟨a, b, high, low, rest, more, -, rfl, -⟩
    · cases hvalue
      exact .nil
    · obtain ⟨tail, htail, rfl⟩ := Option.map_eq_some_iff.mp hvalue
      exact .plain hc (ih _ (hlength ▸ Nat.lt_succ_self _) hrest htail rfl)
    · obtain ⟨n, ns, ps, hn, hps⟩ := exists_holds hvalue
      rw [hps] at hpieces hvalue hlength
      obtain ⟨front, last, rfl, hfront, hlast⟩ := exists_spelled hpieces
      rw [assemble?_holds hn] at hvalue
      obtain ⟨tail, htail, rfl⟩ := Option.map_eq_some_iff.mp hvalue
      have hpos : 0 < ns.length := by cases hn <;> simp
      rw [← octets_of_holds hn, octets_eq] at hfront
      refine .octets hfront (ih ps.length ?_ hlast htail rfl)
      rw [← hlength, List.length_append, List.length_map]
      omega

/-- A text is read exactly to what it spells. -/
theorem decodeComponent?_eq_some_iff : decodeComponent? cs = some value ↔ Encodes cs value := by
  refine ⟨fun h => ?_, decodeComponent?_of_encodes⟩
  obtain ⟨ps, hps, hvalue⟩ := Option.bind_eq_some_iff.mp h
  exact encodes_of_assembled hps hvalue

/-- A text spells at most one text. -/
theorem Encodes.unique {other : List Char} (h : Encodes cs value) (h' : Encodes cs other) :
    value = other :=
  Option.some.inj ((decodeComponent?_of_encodes h).symm.trans (decodeComponent?_of_encodes h'))

end Reading

section Encoding

variable {cs front value : List Char} {ns : List Nat}

/-- What holds of the percent sign and of the digits holds of an encoded character. -/
theorem forall_mem_percentChar {p : Char → Prop} (hmark : p '%') (hdigit : ∀ n < 16, p (hexDigit n))
    (c : Char) : ∀ d ∈ percentChar c, p d := by
  intro d hd
  obtain ⟨n, hn, hd⟩ := List.mem_flatMap.mp hd
  have hlt := lt_of_mem_octets c n hn
  simp only [percentOctet, List.mem_cons, List.not_mem_nil, or_false] at hd
  rcases hd with rfl | rfl | rfl
  · exact hmark
  · exact hdigit _ (by omega)
  · exact hdigit _ (by omega)

theorem hexValue?_hexDigit {n : Nat} (h : n < 16) : hexValue? (hexDigit n) = some n := by
  interval_cases n <;> decide

theorem spellsOctets_percent (h : ∀ n ∈ ns, n < 256) :
    SpellsOctets (ns.flatMap percentOctet) ns := by
  induction ns with
  | nil => exact .nil
  | cons n ns ih =>
    obtain ⟨hn, hns⟩ := List.forall_mem_cons.mp h
    have hcons := SpellsOctets.cons (hexValue?_hexDigit (n := n / 16) (by omega))
      (hexValue?_hexDigit (n := n % 16) (by omega)) (ih hns)
    rwa [Nat.div_add_mod] at hcons

theorem ne_percent_of_isComponentChar {c : Char} (h : isComponentChar c = true) : c ≠ '%' := by
  rintro rfl
  exact absurd h (by decide)

theorem encodes_encodeComponent (cs : List Char) : Encodes (encodeComponent cs) cs := by
  induction cs with
  | nil => exact .nil
  | cons c cs ih =>
    rw [encodeComponent, List.flatMap_cons]
    split
    · exact .plain (ne_percent_of_isComponentChar ‹_›) ih
    · have hspells : SpellsOctets (percentChar c) (octets c) :=
        spellsOctets_percent (lt_of_mem_octets c)
      rw [octets_eq] at hspells
      exact .octets hspells ih

theorem slash_not_mem_encodeComponent (cs : List Char) : '/' ∉ encodeComponent cs := by
  intro hslash
  obtain ⟨c, -, hc⟩ := List.mem_flatMap.mp hslash
  split at hc
  · rename_i hplain
    rw [← List.mem_singleton.mp hc] at hplain
    exact absurd hplain (by decide)
  · exact forall_mem_percentChar (p := (· ≠ '/')) (by decide) (by decide) c '/' hc rfl

theorem Encodes.ne_nil (h : Encodes cs value) (hvalue : value ≠ []) : cs ≠ [] := by
  rintro rfl
  exact hvalue (Option.some.inj (decodeComponent?_of_encodes h)).symm

end Encoding

end Telemetry.Text
