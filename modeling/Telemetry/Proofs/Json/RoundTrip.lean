import Mathlib.Data.List.Forall2
import Mathlib.Tactic.SplitIfs
import Telemetry.Json.Reader
import Telemetry.Json.Writer
import Telemetry.Proofs.Number.RoundTrip

/-! # Values that are written and read again

A text that was written is read as the value that it was written for, but for what JSON cannot say:
a number that is not finite and an absent item become `null`, a zero loses its sign, absent members
are gone, and names that count as places move to the front of their record.
-/
namespace Telemetry.Json

section Texts

/-- The characters of a text are no surrogates, so each stays by itself. -/
theorem joinUnits_toNat (cs : List Char) : joinUnits (cs.map Char.toNat) = cs := by
  have hscalar : ∀ c : Char, ¬ (0xD800 ≤ c.toNat ∧ c.toNat < 0xE000) := by
    intro c hc
    have hvalid := c.valid
    simp only [UInt32.isValidChar, Nat.isValidChar] at hvalid
    simp only [Char.toNat] at hc
    omega
  induction cs with
  | nil => rfl
  | cons c rest ih =>
    cases rest with
    | nil => rw [List.map_cons, List.map_nil, joinUnits, if_neg (hscalar c), Char.ofNat_toNat]
    | cons d more =>
      have hpair : ¬ (0xD800 ≤ c.toNat ∧ c.toNat < 0xDC00 ∧ 0xDC00 ≤ d.toNat ∧ d.toNat < 0xE000) :=
        fun h => hscalar d ⟨by omega, h.2.2.2⟩
      rw [List.map_cons] at ih
      rw [List.map_cons, List.map_cons, joinUnits, if_neg hpair, if_neg (hscalar c), ih,
        Char.ofNat_toNat]

theorem hexUnit?_control : ∀ n < 32,
    hexUnit? '0' '0' (Nat.digitChar (n / 16)) (Nat.digitChar (n % 16)) = some n := by
  decide +kernel

/-- One character is read back from its escape. -/
theorem scan?_escapeChar (units : List Nat) (c : Char) (rest : List Char) :
    scan? units (escapeChar c ++ rest) = scan? (c.toNat :: units) rest := by
  unfold escapeChar
  split_ifs with hquote hslash hline hreturn htab hback hform hcontrol
  · rw [hquote]
    rfl
  · rw [hslash]
    rfl
  · rw [hline]
    rfl
  · rw [hreturn]
    rfl
  · rw [htab]
    rfl
  · rw [hback]
    rfl
  · rw [hform]
    rfl
  · simp only [controlEscape, List.cons_append, List.nil_append]
    rw [scan?, hexUnit?_control _ hcontrol]
  · rw [List.singleton_append, scan?, if_neg]
    · rintro (h | h)
      · exact hcontrol h
      · exact hslash h
    · exact hquote
    · intro a b d e more h
      exact absurd h hslash
    · intro d more h
      exact absurd h hslash

theorem scan?_quote (units : List Nat) (cs rest : List Char) :
    scan? units (cs.flatMap escapeChar ++ '"' :: rest) =
      some ((cs.map Char.toNat).reverse ++ units, rest) := by
  induction cs generalizing units with
  | nil => rfl
  | cons c more ih =>
    rw [List.flatMap_cons, List.append_assoc, scan?_escapeChar, ih, List.map_cons,
      List.reverse_cons, List.append_assoc, List.singleton_append]

theorem text?_quote (s : String) (rest : List Char) :
    text? (s.toList.flatMap escapeChar ++ '"' :: rest) = some (s, rest) := by
  rw [text?, scan?_quote, List.append_nil, Option.map_some]
  dsimp only
  rw [List.reverse_reverse, joinUnits_toNat, String.ofList_toList]

end Texts

section Numbers
open Number (Fits limitBits isPlain magnitudeText decimal? unit)

/-- A magnitude as JSON has it: digits without a superfluous zero, and after them nothing, an
exponent, or a point before another digit. -/
structure IsMagnitude (cs whole tail : List Char) : Prop where
  split : cs = whole ++ tail
  digits : ∀ c ∈ whole, c.isDigit = true
  whole : wholePart? whole = true
  tail : tail = [] ∨ (∃ more, tail = 'e' :: more) ∨
    ∃ c more, tail = '.' :: c :: more ∧ c.isDigit = true

theorem wholePart?_of_head? {cs : List Char} (hne : cs ≠ []) (h : cs.head? ≠ some '0') :
    wholePart? cs = true := by
  unfold wholePart?
  split
  · exact absurd rfl hne
  · exact absurd rfl h
  · rfl

/-- The first digits of a positive number, with any digits behind them. -/
theorem wholePart?_take_append {n k : Nat} (hn : 0 < n) (hk : 0 < k) (back : List Char) :
    wholePart? ((Nat.toDigits 10 n).take k ++ back) = true := by
  obtain ⟨c, rest, hcs⟩ := List.exists_cons_of_ne_nil (Nat.toDigits_ne_nil (n := n) (b := 10))
  obtain ⟨j, rfl⟩ := Nat.exists_eq_succ_of_ne_zero hk.ne'
  have hhead := Number.head?_toDigits hn
  rw [hcs] at hhead ⊢
  rw [List.take_succ_cons, List.cons_append]
  exact wholePart?_of_head? (List.cons_ne_nil _ _) hhead

/-- Every form of the text of a decimal is a magnitude. -/
theorem isMagnitude_layout (d : Decimal) (h : 0 < d.digits) :
    ∃ whole tail, IsMagnitude d.layout whole tail := by
  obtain ⟨n, e⟩ := d
  have hlen : 0 < (Nat.toDigits 10 n).length := Nat.length_toDigits_pos
  -- Behind the first digits of the number there is another one.
  have hdrop : ∀ k < (Nat.toDigits 10 n).length, ∃ c more, (Nat.toDigits 10 n).drop k = c :: more ∧
      c.isDigit = true := by
    intro k hk
    refine ⟨_, _, List.drop_eq_getElem_cons hk, Number.isDigit_of_mem (List.getElem_mem hk)⟩
  unfold Decimal.layout
  dsimp only at h ⊢
  split
  · refine ⟨_, [], (List.append_nil _).symm, fun c hc => ?_, ?_, .inl rfl⟩
    · rcases List.mem_append.mp hc with hc | hc
      · exact Number.isDigit_of_mem hc
      · exact Number.isDigit_of_mem_zeros hc
    · have hw := wholePart?_take_append h hlen (List.replicate e.toNat '0')
      rwa [List.take_length] at hw
  · rename_i hplain
    split
    · obtain ⟨c, more, hmore, hc⟩ := hdrop (((Nat.toDigits 10 n).length + e).toNat) (by omega)
      have hw :=
        wholePart?_take_append h (k := ((Nat.toDigits 10 n).length + e).toNat) (by omega) []
      rw [List.append_nil] at hw
      exact ⟨_, _, rfl, Number.isDigit_of_mem_take n, hw, .inr (.inr ⟨c, more, by rw [hmore], hc⟩)⟩
    · split
      · have hall : ∀ c ∈ List.replicate (-((Nat.toDigits 10 n).length + e)).toNat '0' ++
            Nat.toDigits 10 n, c.isDigit = true := by
          intro c hc
          rcases List.mem_append.mp hc with hc | hc
          · exact Number.isDigit_of_mem_zeros hc
          · exact Number.isDigit_of_mem hc
        obtain ⟨c, more, hmore⟩ := List.exists_cons_of_ne_nil (List.append_ne_nil_of_right_ne_nil
          (List.replicate (-((Nat.toDigits 10 n).length + e)).toNat '0')
          (Nat.toDigits_ne_nil (n := n) (b := 10)))
        rw [hmore] at hall ⊢
        exact ⟨['0'], _, rfl, by simp, rfl, .inr (.inr ⟨c, more, rfl, hall c List.mem_cons_self⟩)⟩
      · have hw := wholePart?_take_append h (k := 1) Nat.one_pos []
        rw [List.append_nil] at hw
        refine ⟨_, _, List.append_assoc _ _ _, Number.isDigit_of_mem_take n, hw, ?_⟩
        split
        · exact .inr (.inl ⟨_, rfl⟩)
        · rename_i hone
          obtain ⟨c, more, hmore, hc⟩ := hdrop 1 (by omega)
          rw [hmore]
          exact .inr (.inr ⟨c, _, rfl, hc⟩)

theorem isMagnitude_magnitudeText (units : Nat) :
    ∃ whole tail, IsMagnitude (magnitudeText units) whole tail := by
  unfold magnitudeText
  split
  · have hdigits : ∀ c ∈ Nat.toDigits 10 (units / unit), c.isDigit = true :=
      fun c => Number.isDigit_of_mem
    refine ⟨_, [], (List.append_nil _).symm, hdigits, ?_, .inl rfl⟩
    rcases Nat.eq_zero_or_pos (units / unit) with hz | hpos
    · rw [hz]
      rfl
    · exact wholePart?_of_head? Nat.toDigits_ne_nil (Number.head?_toDigits hpos)
  · rename_i hsmall
    refine isMagnitude_layout _ (Number.pos_digits_of_halfOf (Number.halfOf_shortest ?_) ?_) <;>
    · by_contra hz
      obtain rfl : units = 0 := by omega
      exact hsmall ⟨Nat.zero_mod _, by rw [Nat.zero_div]; decide⟩

theorem isNumberChar_of_isPlain {c : Char} (h : isPlain c = true) : isNumberChar c = true := by
  simp only [isPlain, Bool.or_eq_true, beq_iff_eq] at h
  simp only [isNumberChar, Bool.or_eq_true, beq_iff_eq]
  tauto

/-- A leading minus sign and the magnitude behind it. -/
def splitSign : List Char → Bool × List Char
  | '-' :: magnitude => (true, magnitude)
  | magnitude => (false, magnitude)

/-- Whether a digit follows the point, if there is a point. -/
def isPointed : List Char → Bool
  | '.' :: c :: _ => c.isDigit
  | '.' :: [] => false
  | _ => true

theorem number?_eq (cs : List Char) :
    number? cs =
      let signed := splitSign (cs.takeWhile isNumberChar)
      if wholePart? (signed.2.takeWhile Char.isDigit) &&
          isPointed (signed.2.dropWhile Char.isDigit) then
        (decimal? signed.1 signed.2).map fun x => (x, cs.dropWhile isNumberChar)
      else none := rfl

theorem splitSign_append {c : Char} (hc : c.isDigit = true) (more : List Char) (negative : Bool) :
    splitSign ((if negative then ['-'] else []) ++ c :: more) = (negative, c :: more) := by
  cases negative with
  | true => rfl
  | false =>
    rw [if_neg Bool.false_ne_true, List.nil_append, splitSign]
    intro rest heq
    rw [(List.cons.inj heq).1] at hc
    exact absurd hc (by decide)

section Reading

variable {cs whole tail : List Char} (hm : IsMagnitude cs whole tail)
include hm

theorem IsMagnitude.opens : ∃ c more, cs = c :: more ∧ c.isDigit = true := by
  obtain ⟨c, more, hwhole⟩ : ∃ c more, whole = c :: more := by
    refine List.exists_cons_of_ne_nil fun hnil => ?_
    have h := hm.whole
    rw [hnil] at h
    cases h
  refine ⟨c, more ++ tail, ?_, hm.digits c (hwhole ▸ List.mem_cons_self)⟩
  rw [hm.split, hwhole, List.cons_append]

theorem IsMagnitude.tail_not_digit : ∀ c ∈ tail.head?, c.isDigit = false := by
  intro c hc
  rcases hm.tail with rfl | ⟨more, rfl⟩ | ⟨d, more, rfl, -⟩ <;> cases hc <;> decide

/-- A magnitude behind an optional sign is read by the reader of numerals. -/
theorem number?_append {rest : List Char} (hplain : ∀ c ∈ cs, isPlain c = true)
    (hrest : ∀ c ∈ rest.head?, isNumberChar c = false) (negative : Bool) :
    number? ((if negative then ['-'] else []) ++ cs ++ rest) =
      (decimal? negative cs).map fun x => (x, rest) := by
  have hbody : ∀ c ∈ (if negative then ['-'] else []) ++ cs, isNumberChar c = true := by
    intro c hc
    refine isNumberChar_of_isPlain ?_
    rcases List.mem_append.mp hc with hc | hc
    · exact Number.isPlain_of_mem_sign negative c hc
    · exact hplain c hc
  have htake : ((if negative then ['-'] else []) ++ cs ++ rest).takeWhile isNumberChar =
      (if negative then ['-'] else []) ++ cs := by
    rw [List.takeWhile_append_of_pos hbody]
    cases rest with
    | nil => simp
    | cons c more => simp [hrest c rfl]
  have hdrop : ((if negative then ['-'] else []) ++ cs ++ rest).dropWhile isNumberChar = rest := by
    rw [List.dropWhile_append_of_pos hbody]
    exact Text.dropWhile_eq_self hrest
  have hwhole : cs.takeWhile Char.isDigit = whole := by
    rw [hm.split]
    exact Number.takeWhile_digits hm.digits hm.tail_not_digit
  have htail : cs.dropWhile Char.isDigit = tail := by
    rw [hm.split]
    exact Number.dropWhile_digits hm.digits hm.tail_not_digit
  have hsign : splitSign ((if negative then ['-'] else []) ++ cs) = (negative, cs) := by
    obtain ⟨c, more, rfl, hc⟩ := hm.opens
    exact splitSign_append hc more negative
  have hpointed : isPointed tail = true := by
    rcases hm.tail with rfl | ⟨more, rfl⟩ | ⟨c, more, rfl, hc⟩
    · rfl
    · rfl
    · exact hc
  rw [number?_eq, htake, hdrop, hsign]
  dsimp only
  rw [hwhole, htail, hm.whole, hpointed, Bool.true_and, if_pos rfl]

end Reading

/-- A sign is put before what the magnitude stands for. -/
theorem decimal?_true (cs : List Char) :
    decimal? true cs = (decimal? false cs).map Number.neg := by
  have hunits : ∀ num den, Number.ofUnits true num den = (Number.ofUnits false num den).neg := by
    intro num den
    unfold Number.ofUnits
    split <;> rfl
  have hdecimal : ∀ digits exponent, Number.ofDecimal true digits exponent =
      (Number.ofDecimal false digits exponent).neg := by
    intro digits exponent
    unfold Number.ofDecimal
    dsimp only
    split
    · exact hunits _ _
    · split
      · rfl
      · exact hunits _ _
  unfold decimal?
  dsimp only
  split <;>
  · rw [apply_ite (Option.map Number.neg), Option.map_none, Option.map_map]
    simp only [Function.comp_def, hdecimal]

theorem decimal?_magnitudeText {units : Nat} (hf : Fits units) (hb : units.log2 < limitBits) :
    decimal? false (magnitudeText units) = some (.finite false units hf hb) := by
  obtain ⟨whole, tail, hm⟩ := isMagnitude_magnitudeText units
  obtain ⟨c, more, hcs, hc⟩ := hm.opens
  have hplain := Number.isPlain_of_mem_magnitudeText units
  have hread := Number.ofText_toText_finite hf hb
  rw [Number.toText, Number.toChars, Bool.false_and, if_neg Bool.false_ne_true, List.nil_append]
    at hread
  rw [hcs] at hread hplain ⊢
  rw [Number.ofText_ofList hc fun d hd => hplain d (List.mem_cons_of_mem _ hd)] at hread
  cases h : decimal? false (c :: more) with
  | none =>
    rw [h] at hread
    cases hread
  | some x =>
    rw [h] at hread
    rw [← hread, Option.getD_some]

/-- What a number is read as: JSON has no sign of zero, and nothing for what is not finite. -/
def receivedNumber (x : Number) : Datum :=
  if x.isFinite then .number (if x.isZero then 0 else x) else .null

theorem number?_toChars {x : Number} (hfin : x.isFinite = true) {rest : List Char}
    (hrest : ∀ c ∈ rest.head?, isNumberChar c = false) :
    number? (x.toChars ++ rest) = some (if x.isZero then 0 else x, rest) := by
  cases x with
  | nan => cases hfin
  | infinity negative => cases hfin
  | finite negative units hf hb =>
    obtain ⟨whole, tail, hm⟩ := isMagnitude_magnitudeText units
    have hread := number?_append hm (Number.isPlain_of_mem_magnitudeText units) hrest
      (negative && units != 0)
    rw [Number.toChars, hread]
    by_cases hzero : units = 0
    · subst hzero
      have hz : (0 : Number) = .finite false 0 hf hb := by
        rw [Number.literal_eq, Number.ofNat_eq (Nat.zero_le _)]
        simp only [Nat.zero_mul]
      rw [bne_self_eq_false, Bool.and_false, decimal?_magnitudeText hf hb, hz]
      rfl
    · have hne : (units != 0) = true := bne_iff_ne.mpr hzero
      have hz : (Number.finite negative units hf hb).isZero = false := by
        simpa [Number.isZero] using hzero
      rw [hne, Bool.and_true, hz, if_neg Bool.false_ne_true]
      cases negative with
      | false => rw [decimal?_magnitudeText hf hb, Option.map_some]
      | true =>
        rw [decimal?_true, decimal?_magnitudeText hf hb]
        rfl

end Numbers

section Members

/-- Different names that are no places stay where they are. -/
theorem arrangeMembers_eq_self {members : List (String × Datum)}
    (hnodup : (members.map (·.1)).Nodup) (hplace : ∀ m ∈ members, place? m.1 = none) :
    arrangeMembers members = members := by
  have hset : ∀ front back : List (String × Datum), ((front ++ back).map (·.1)).Nodup →
      back.foldl (fun ms m => setMember ms m.1 m.2) front = front ++ back := by
    intro front back h
    induction back generalizing front with
    | nil => exact (List.append_nil _).symm
    | cons m rest ih =>
      have hnew : front.any (fun x => x.1 == m.1) = false := by
        rw [List.map_append, List.nodup_append] at h
        rw [List.any_eq_false]
        intro x hx he
        exact h.2.2 _ (List.mem_map_of_mem hx) _ List.mem_cons_self (beq_iff_eq.mp he)
      rw [List.foldl_cons, setMember, if_neg (by rw [hnew]; decide), ih, List.append_assoc,
        List.singleton_append]
      rwa [List.append_assoc, List.singleton_append]
  have hplaces : members.filterMap (fun m => (place? m.1).map fun n => (n, m)) = [] := by
    refine List.filterMap_eq_nil_iff.mpr fun m hm => ?_
    rw [hplace m hm, Option.map_none]
  have hfilter : members.filter (fun m => (place? m.1).isNone) = members := by
    refine List.filter_eq_self.mpr fun m hm => ?_
    rw [hplace m hm, Option.isNone_none]
  have hdistinct := hset [] members hnodup
  rw [List.nil_append] at hdistinct
  rw [arrangeMembers, hdistinct, hplaces, hfilter, List.mergeSort_nil, List.map_nil,
    List.nil_append]

end Members

mutual

/-- What a value is read as after it was written. -/
def received : Datum → Datum
  | .absent => .null
  | .null => .null
  | .flag b => .flag b
  | .number x => receivedNumber x
  | .text s => .text s
  | .list items => .list (receivedItems items)
  | .record members => .record (arrangeMembers (receivedMembers members))

def receivedItems : List Datum → List Datum
  | [] => []
  | item :: rest => received item :: receivedItems rest

def receivedMembers : List (String × Datum) → List (String × Datum)
  | [] => []
  | (_, .absent) :: rest => receivedMembers rest
  | (name, value) :: rest => (name, received value) :: receivedMembers rest

end

section Values

/-- A text that is read as a value, whatever follows that is no part of a number. -/
structure Reads (text : List Char) (d : Datum) : Prop where
  opens : ∃ c more, text = c :: more ∧ isSpace c = false ∧ c ≠ ']'
  value : ∀ fuel rest, 2 * text.length ≤ fuel → (∀ c ∈ rest.head?, isNumberChar c = false) →
    value? fuel (text ++ rest) = some (d, rest)

theorem Reads.intro {c : Char} {more : List Char} {d : Datum} (hspace : isSpace c = false)
    (hclose : c ≠ ']')
    (h : ∀ fuel rest, 2 * (c :: more).length ≤ fuel + 1 →
      (∀ c ∈ rest.head?, isNumberChar c = false) →
      value? (fuel + 1) (c :: more ++ rest) = some (d, rest)) : Reads (c :: more) d := by
  refine ⟨⟨c, more, rfl, hspace, hclose⟩, fun fuel rest hfuel hrest => ?_⟩
  rw [List.length_cons] at hfuel
  obtain ⟨k, rfl⟩ := Nat.exists_eq_succ_of_ne_zero (by omega : fuel ≠ 0)
  exact h k rest hfuel hrest

/-- A text that is read as a member of a record. -/
def ReadsMember (part : List Char) (m : String × Datum) : Prop :=
  ∃ text, part = quote m.1 ++ ':' :: text ∧ Reads text m.2

theorem skip_cons {c : Char} (h : isSpace c = false) (rest : List Char) :
    skip (c :: rest) = c :: rest := List.dropWhile_cons_of_neg (by simp [h])

section Steps

variable {fuel : Nat} {cs rest : List Char} {d : Datum}

theorem items?_comma (h : value? fuel cs = some (d, ',' :: rest)) :
    items? (fuel + 1) cs = (items? fuel rest).map fun read => (d :: read.1, read.2) := by
  rw [items?, h]
  rfl

theorem items?_close (h : value? fuel cs = some (d, ']' :: rest)) :
    items? (fuel + 1) cs = some ([d], rest) := by
  rw [items?, h]
  rfl

theorem members?_quote (name : String) (cs : List Char) :
    members? (fuel + 1) (quote name ++ ':' :: cs) =
      match value? fuel cs with
      | none => none
      | some (value, rest) =>
        match skip rest with
        | ',' :: rest => (members? fuel rest).map fun (ms, rest) => ((name, value) :: ms, rest)
        | '\x7d' :: rest => some ([(name, value)], rest)
        | _ => none := by
  have hname := text?_quote name (':' :: cs)
  have hquote : quote name ++ ':' :: cs =
      '"' :: (name.toList.flatMap escapeChar ++ '"' :: ':' :: cs) := by
    rw [quote, List.cons_append, List.append_assoc, List.singleton_append]
  rw [hquote, members?, skip_cons (by decide)]
  simp only [hname]
  rw [skip_cons (by decide)]
  rfl

theorem members?_comma (name : String) (h : value? fuel cs = some (d, ',' :: rest)) :
    members? (fuel + 1) (quote name ++ ':' :: cs) =
      (members? fuel rest).map fun read => ((name, d) :: read.1, read.2) := by
  rw [members?_quote, h]
  rfl

theorem members?_close (name : String) (h : value? fuel cs = some (d, '\x7d' :: rest)) :
    members? (fuel + 1) (quote name ++ ':' :: cs) = some ([(name, d)], rest) := by
  rw [members?_quote, h]
  rfl

end Steps

/-- Items with commas between them are read one after another. -/
theorem items?_intercalate {parts : List (List Char)} {items : List Datum}
    (h : List.Forall₂ Reads parts items) (hne : parts ≠ []) (fuel : Nat) (rest : List Char)
    (hfuel : 2 * (List.intercalate [','] parts).length < fuel) :
    items? fuel (List.intercalate [','] parts ++ ']' :: rest) = some (items, rest) := by
  induction h generalizing fuel with
  | nil => exact absurd rfl hne
  | @cons part item _ _ hpart hmore ih =>
    obtain ⟨k, rfl⟩ := Nat.exists_eq_succ_of_ne_zero (by omega : fuel ≠ 0)
    cases hmore with
    | nil =>
      rw [List.intercalate_singleton] at hfuel ⊢
      exact items?_close (hpart.value k _ (by omega) (by simp; decide))
    | cons hnext hothers =>
      rw [List.intercalate_cons_cons] at hfuel ⊢
      simp only [List.length_append, List.length_singleton] at hfuel
      rw [List.append_assoc, List.append_assoc, List.singleton_append,
        items?_comma (hpart.value k _ (by omega) (by simp; decide)),
        ih (List.cons_ne_nil _ _) k (by omega), Option.map_some]

/-- Members with commas between them are read one after another. -/
theorem members?_intercalate {parts : List (List Char)} {members : List (String × Datum)}
    (h : List.Forall₂ ReadsMember parts members) (hne : parts ≠ []) (fuel : Nat) (rest : List Char)
    (hfuel : 2 * (List.intercalate [','] parts).length < fuel) :
    members? fuel (List.intercalate [','] parts ++ '\x7d' :: rest) = some (members, rest) := by
  induction h generalizing fuel with
  | nil => exact absurd rfl hne
  | @cons part m _ _ hpart hmore ih =>
    obtain ⟨k, rfl⟩ := Nat.exists_eq_succ_of_ne_zero (by omega : fuel ≠ 0)
    obtain ⟨text, rfl, hvalue⟩ := hpart
    cases hmore with
    | nil =>
      rw [List.intercalate_singleton] at hfuel ⊢
      simp only [List.length_append, List.length_cons] at hfuel
      rw [List.append_assoc, List.cons_append]
      exact members?_close m.1 (hvalue.value k _ (by omega) (by simp; decide))
    | cons hnext hothers =>
      rw [List.intercalate_cons_cons] at hfuel ⊢
      simp only [List.length_append, List.length_cons] at hfuel
      rw [List.append_assoc, List.append_assoc, List.append_assoc, List.cons_append,
        List.singleton_append,
        members?_comma m.1 (hvalue.value k _ (by omega) (by simp; decide)),
        ih (List.cons_ne_nil _ _) k (by omega), Option.map_some]

/-- Parts between brackets in the compact form. -/
theorem enclose_none (left right : Char) {parts : List (List Char)} (hne : parts ≠ []) :
    enclose left right none parts = left :: (List.intercalate [','] parts ++ [right]) := by
  rw [enclose, if_neg (by simpa using hne)]
  simp only [lineBreak, Option.map_none, List.nil_append, List.append_nil]

theorem reads_null : Reads "null".toList .null :=
  .intro rfl (by decide) fun _ _ _ _ => rfl

theorem reads_flag (b : Bool) :
    Reads (if b then "true".toList else "false".toList) (.flag b) := by
  cases b with
  | true => exact .intro rfl (by decide) fun _ _ _ _ => rfl
  | false => exact .intro rfl (by decide) fun _ _ _ _ => rfl

theorem reads_quote (s : String) : Reads (quote s) (.text s) := by
  refine .intro rfl (by decide) fun fuel rest _ _ => ?_
  rw [List.cons_append, List.append_assoc, List.singleton_append, value?, skip_cons (by decide)]
  simp only [text?_quote, Option.map_some]

theorem isSpace_of_isNumberChar {c : Char} (hc : isNumberChar c = true) : isSpace c = false := by
  by_contra h
  simp only [isSpace, Bool.not_eq_false, Bool.or_eq_true, beq_iff_eq] at h
  rcases h with ((rfl | rfl) | rfl) | rfl <;> exact absurd hc (by decide)

theorem value?_number {c : Char} (hc : isNumberChar c = true) (fuel : Nat) (cs : List Char) :
    value? (fuel + 1) (c :: cs) = (number? (c :: cs)).map fun read => (.number read.1, read.2) := by
  rw [value?, skip_cons (isSpace_of_isNumberChar hc)]
  split
  case h_7 => rfl
  all_goals
    rename_i heq
    rw [(List.cons.inj heq).1] at hc
    exact absurd hc (by decide)

theorem reads_numberChars (x : Number) : Reads (numberChars x) (receivedNumber x) := by
  unfold numberChars receivedNumber
  split
  · rename_i hfin
    have hread : ∀ rest, (∀ c ∈ rest.head?, isNumberChar c = false) →
        number? (x.toChars ++ rest) = some (if x.isZero then 0 else x, rest) :=
      fun rest => number?_toChars hfin
    have hplain := Number.isPlain_of_mem_toChars hfin
    obtain ⟨c, more, hcs⟩ : ∃ c more, x.toChars = c :: more := by
      refine List.exists_cons_of_ne_nil fun hnil => ?_
      have h := hread [] (by simp)
      rw [hnil] at h
      cases h
    have hc : isNumberChar c = true := isNumberChar_of_isPlain (hplain c (hcs ▸ List.mem_cons_self))
    have hclose : c ≠ ']' := by
      rintro rfl
      exact absurd hc (by decide)
    rw [hcs] at hread ⊢
    refine .intro (isSpace_of_isNumberChar hc) hclose fun fuel rest _ hrest => ?_
    have h := hread rest hrest
    rw [List.cons_append] at h ⊢
    rw [value?_number hc, h, Option.map_some]
  · exact reads_null

theorem value?_list {c : Char} (hspace : isSpace c = false) (hclose : c ≠ ']') (fuel : Nat)
    (cs : List Char) :
    value? (fuel + 1) ('[' :: c :: cs) =
      (items? fuel (c :: cs)).map fun read => (.list read.1, read.2) := by
  rw [value?, skip_cons (by decide)]
  simp only [skip_cons hspace]
  split
  · rename_i heq
    exact absurd (List.cons.inj heq).1 hclose
  · rfl

theorem value?_record (fuel : Nat) (cs : List Char) :
    value? (fuel + 1) ('\x7b' :: '"' :: cs) =
      (members? fuel ('"' :: cs)).map fun read => (.record (arrangeMembers read.1), read.2) := by
  rw [value?, skip_cons (by decide)]
  simp only [skip_cons (show isSpace '"' = false by decide)]
  rfl

theorem exists_intercalate_cons (part : List Char) (parts : List (List Char)) :
    ∃ back, List.intercalate [','] (part :: parts) = part ++ back := by
  cases parts with
  | nil => exact ⟨[], by rw [List.intercalate_singleton, List.append_nil]⟩
  | cons next others => exact ⟨_, by rw [List.intercalate_cons_cons, List.append_assoc]⟩

theorem reads_list {parts : List (List Char)} {items : List Datum}
    (h : List.Forall₂ Reads parts items) : Reads (enclose '[' ']' none parts) (.list items) := by
  cases parts with
  | nil =>
    cases h
    exact .intro rfl (by decide) fun _ _ _ _ => rfl
  | cons part others =>
    have hne := List.cons_ne_nil part others
    obtain ⟨item, items, hpart, -, rfl⟩ := List.forall₂_cons_left_iff.mp h
    obtain ⟨c, more, rfl, hspace, hclose⟩ := hpart.opens
    obtain ⟨back, hback⟩ := exists_intercalate_cons (c :: more) others
    rw [enclose_none _ _ hne]
    refine .intro rfl (by decide) fun fuel rest hfuel _ => ?_
    simp only [List.length_cons, List.length_append, List.length_nil] at hfuel
    have hread := items?_intercalate h hne fuel rest (by omega)
    rw [hback, List.cons_append, List.cons_append] at hread
    rw [hback, List.cons_append, List.append_assoc, List.singleton_append, List.cons_append,
      List.cons_append, value?_list hspace hclose, hread, Option.map_some]

theorem reads_record {parts : List (List Char)} {members : List (String × Datum)}
    (h : List.Forall₂ ReadsMember parts members) :
    Reads (enclose '\x7b' '\x7d' none parts) (.record (arrangeMembers members)) := by
  cases parts with
  | nil =>
    cases h
    have hnil : arrangeMembers [] = [] := arrangeMembers_eq_self List.nodup_nil (by simp)
    rw [hnil]
    exact .intro rfl (by decide) fun _ _ _ _ => rfl
  | cons part others =>
    have hne := List.cons_ne_nil part others
    obtain ⟨m, members, ⟨text, rfl, -⟩, -, rfl⟩ := List.forall₂_cons_left_iff.mp h
    obtain ⟨back, hback⟩ := exists_intercalate_cons (quote m.1 ++ ':' :: text) others
    rw [enclose_none _ _ hne]
    refine .intro rfl (by decide) fun fuel rest hfuel _ => ?_
    simp only [List.length_cons, List.length_append, List.length_nil] at hfuel
    have hread := members?_intercalate h hne fuel rest (by omega)
    rw [hback, quote, List.cons_append, List.cons_append, List.cons_append] at hread
    rw [hback, quote, List.cons_append, List.append_assoc, List.singleton_append, List.cons_append,
      List.cons_append, List.cons_append, value?_record, hread, Option.map_some]

theorem readsMember_append (name : String) {text : List Char} {d : Datum} (h : Reads text d) :
    ReadsMember (quote name ++ [':'] ++ text) (name, d) :=
  ⟨text, List.append_assoc _ _ _, h⟩

mutual

theorem reads_writeChars (d : Datum) : Reads (writeChars none d) (received d) := by
  cases d with
  | absent => exact reads_null
  | null => exact reads_null
  | flag b => exact reads_flag b
  | number x => exact reads_numberChars x
  | text s => exact reads_quote s
  | list items => exact reads_list (reads_writeItems items)
  | record members => exact reads_record (reads_writeMembers members)

theorem reads_writeItems (items : List Datum) :
    List.Forall₂ Reads (writeItems none items) (receivedItems items) := by
  cases items with
  | nil => exact .nil
  | cons item rest => exact .cons (reads_writeChars item) (reads_writeItems rest)

theorem reads_writeMembers (members : List (String × Datum)) :
    List.Forall₂ ReadsMember (writeMembers none members) (receivedMembers members) := by
  cases members with
  | nil => exact .nil
  | cons m rest =>
    obtain ⟨name, value⟩ := m
    have hrest := reads_writeMembers rest
    have hvalue := readsMember_append name (reads_writeChars value)
    cases value with
    | absent => exact hrest
    | _ => exact .cons hvalue hrest

end

/-- What was written is read as what it says. -/
theorem read?_write (d : Datum) : read? (write d) = some (received d) := by
  have hread :=
    (reads_writeChars d).value (2 * (writeChars none d).length + 2) [] (by omega) (by simp)
  rw [List.append_nil] at hread
  rw [read?, write, String.toList_ofList, hread]
  rfl

end Values

end Telemetry.Json
