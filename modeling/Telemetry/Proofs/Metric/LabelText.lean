import Telemetry.Proofs.Metric.Scrape

/-! # Labels as a text

A value between quotes is written with three escapes, and every backslash that is written belongs
to one of them. So one pass from left to right takes them back, and stops at the closing quote. A
reader that looks for a name, a value between quotes and a separator accepts exactly the texts of
labels, and different labels have different texts.
-/
namespace Telemetry.Metric

section Replacing

/-- Writes a text for every occurrence of a character. -/
def replaceAll (old : Char) (new : List Char) (cs : List Char) : List Char :=
  cs.flatMap fun c => if c = old then new else [c]

/-- Three replacements, each through the whole text that the one before it left. Backslashes come
first, since the others write new ones. -/
def escapeInTurn (value : String) : String :=
  String.ofList (replaceAll '"' ['\\', '"'] (replaceAll '\n' ['\\', 'n']
    (replaceAll '\\' ['\\', '\\'] value.toList)))

theorem replaceAll_flatMap (old : Char) (new : List Char) (f : Char → List Char) (cs : List Char) :
    replaceAll old new (cs.flatMap f) = cs.flatMap fun c => replaceAll old new (f c) :=
  List.flatMap_assoc

/-- In one character the three replacements do not meet. -/
theorem replaceAll_singleton (c : Char) :
    replaceAll '"' ['\\', '"'] (replaceAll '\n' ['\\', 'n'] (replaceAll '\\' ['\\', '\\'] [c])) =
      escapeLabelChar c := by
  rcases isInert_cases c with hinert | rfl | rfl | rfl
  · rw [escapeLabelChar_of_isInert hinert]
    simp only [isInert, Bool.and_eq_true, bne_iff_ne] at hinert
    simp [replaceAll, hinert]
  all_goals rfl

/-- The replacements come to one pass over the characters. -/
theorem escapeInTurn_eq (value : String) : escapeInTurn value = escapeLabel value := by
  have hchars : replaceAll '\\' ['\\', '\\'] value.toList =
      value.toList.flatMap fun c => replaceAll '\\' ['\\', '\\'] [c] := by
    simp [replaceAll]
  rw [escapeInTurn, hchars, replaceAll_flatMap, replaceAll_flatMap, escapeLabel]
  simp only [replaceAll_singleton]

end Replacing

section Values

def withFirst (c : Char) (read : List Char × List Char) : List Char × List Char :=
  (c :: read.1, read.2)

/-- Reads a value as far as it goes, and leaves the rest from the first character that no value is
written with: a quote, a line feed, or a backslash that begins none of the three escapes. -/
def unescape : List Char → List Char × List Char
  | '\\' :: '\\' :: rest => withFirst '\\' (unescape rest)
  | '\\' :: 'n' :: rest => withFirst '\n' (unescape rest)
  | '\\' :: '"' :: rest => withFirst '"' (unescape rest)
  | c :: rest => if isInert c then withFirst c (unescape rest) else ([], c :: rest)
  | [] => ([], [])

theorem unescape_cons {c : Char} (h : isInert c = true) (rest : List Char) :
    unescape (c :: rest) = withFirst c (unescape rest) := by
  have hslash : c ≠ '\\' := by
    rintro rfl
    exact absurd h (by decide)
  rw [unescape, if_pos h]
  all_goals exact fun _ he => absurd he hslash

theorem unescape_escapeLabelChar (c : Char) (rest : List Char) :
    unescape (escapeLabelChar c ++ rest) = withFirst c (unescape rest) := by
  rcases isInert_cases c with hinert | rfl | rfl | rfl
  · rw [escapeLabelChar_of_isInert hinert]
    exact unescape_cons hinert rest
  all_goals rfl

/-- Escaped characters are read one by one, whatever follows them. -/
theorem unescape_append (value rest : List Char) :
    unescape (value.flatMap escapeLabelChar ++ rest) =
      (value ++ (unescape rest).1, (unescape rest).2) := by
  induction value with
  | nil => rfl
  | cons c more ih =>
    rw [List.flatMap_cons, List.append_assoc, unescape_escapeLabelChar, ih]
    rfl

/-- Nothing is lost: what was read is written as it stood before the rest. -/
theorem escape_unescape (cs : List Char) :
    (unescape cs).1.flatMap escapeLabelChar ++ (unescape cs).2 = cs := by
  fun_induction unescape cs with
  | case1 rest ih => simp [withFirst, escapeLabelChar, ih]
  | case2 rest ih => simp [withFirst, escapeLabelChar, ih]
  | case3 rest ih => simp [withFirst, escapeLabelChar, ih]
  | case4 c rest _ _ _ hinert ih =>
    rw [withFirst, List.flatMap_cons, escapeLabelChar_of_isInert hinert, List.append_assoc, ih]
    rfl
  | case5 c rest => rfl
  | case6 => rfl

/-- A whole text read as a value. -/
def unescapeLabel? (text : String) : Option String :=
  if (unescape text.toList).2 = [] then some (String.ofList (unescape text.toList).1) else none

/-- A text is read as a value exactly if it is what the value is escaped to. -/
theorem unescapeLabel?_eq_some_iff (text value : String) :
    unescapeLabel? text = some value ↔ text = escapeLabel value := by
  constructor
  · intro h
    obtain ⟨hall, hvalue⟩ := Option.ite_none_right_eq_some.mp h
    obtain rfl := Option.some.inj hvalue
    have hwhole := escape_unescape text.toList
    rw [hall, List.append_nil] at hwhole
    rw [escapeLabel, String.toList_ofList, hwhole, String.ofList_toList]
  · rintro rfl
    have hread := unescape_append value.toList []
    rw [List.append_nil] at hread
    rw [unescapeLabel?, escapeLabel, String.toList_ofList, hread]
    simp [unescape]

end Values

section Labels

/-- A character that is not taken for what surrounds the name of a label. -/
def isLabelNameChar (c : Char) : Bool := c ∉ ['=', '"', ',', '\x7b', '\x7d', '\n']

def IsLabelName (name : String) : Prop := ∀ c ∈ name.toList, isLabelNameChar c = true

instance (name : String) : Decidable (IsLabelName name) := List.decidableBAll _ _

/-- A name to its equals sign, then a value between quotes. -/
def readPair? (cs : List Char) : Option ((String × String) × List Char) :=
  match cs.dropWhile isLabelNameChar with
  | '=' :: '"' :: rest =>
    match unescape rest with
    | (value, '"' :: more) =>
      some ((String.ofList (cs.takeWhile isLabelNameChar), String.ofList value), more)
    | _ => none
  | _ => none

theorem toList_labelPair_append (label : String × String) (rest : List Char) :
    (labelPair label).toList ++ rest = label.1.toList ++
      '=' :: '"' :: (label.2.toList.flatMap escapeLabelChar ++ '"' :: rest) := by
  rw [toList_labelPair]
  simp

theorem readPair?_labelPair {label : String × String} (h : IsLabelName label.1)
    (rest : List Char) : readPair? ((labelPair label).toList ++ rest) = some (label, rest) := by
  have hequals : ¬ isLabelNameChar '=' = true := by decide
  have hstop : unescape ('"' :: rest) = ([], '"' :: rest) := rfl
  rw [toList_labelPair_append, readPair?, List.takeWhile_append_of_pos h,
    List.takeWhile_cons_of_neg hequals, List.dropWhile_append_of_pos h,
    List.dropWhile_cons_of_neg hequals]
  simp [unescape_append, hstop]

theorem eq_labelPair_of_readPair? {cs rest : List Char} {label : String × String}
    (h : readPair? cs = some (label, rest)) :
    IsLabelName label.1 ∧ cs = (labelPair label).toList ++ rest := by
  have hsplit := List.takeWhile_append_dropWhile (p := isLabelNameChar) (l := cs)
  unfold readPair? at h
  split at h
  · rename_i quoted hdrop
    split at h
    · rename_i value more hvalue
      obtain ⟨rfl, rfl⟩ := Prod.mk.inj (Option.some.inj h)
      have hquoted := escape_unescape quoted
      rw [hvalue] at hquoted
      rw [hdrop, ← hquoted] at hsplit
      rw [toList_labelPair_append, String.toList_ofList, String.toList_ofList]
      refine ⟨fun c hc => ?_, hsplit.symm⟩
      rw [String.toList_ofList] at hc
      exact List.mem_takeWhile_imp hc
    · cases h
  · cases h

theorem length_lt_of_readPair? {cs rest : List Char} {label : String × String}
    (h : readPair? cs = some (label, rest)) : rest.length < cs.length := by
  obtain ⟨-, rfl⟩ := eq_labelPair_of_readPair? h
  rw [toList_labelPair]
  simp only [List.length_append, List.length_cons]
  omega

/-- Labels with commas between them, up to the closing brace. -/
def readPairs? (cs : List Char) : Option (List (String × String)) :=
  match h : readPair? cs with
  | some (label, ['\x7d']) => some [label]
  | some (label, ',' :: rest) =>
    have : rest.length < cs.length := (Nat.lt_succ_self _).trans (length_lt_of_readPair? h)
    (readPairs? rest).map (label :: ·)
  | _ => none
termination_by cs.length

def AreNamed (labels : List (String × String)) : Prop := ∀ label ∈ labels, IsLabelName label.1

instance (labels : List (String × String)) : Decidable (AreNamed labels) :=
  List.decidableBAll _ _

theorem labelChars_cons (mark : Char) (label : String × String) (rest : List (String × String))
    (tail : List Char) : labelChars mark (label :: rest) tail =
      mark :: ((labelPair label).toList ++ labelChars ',' rest tail) := by
  rw [toList_labelPair_append, labelChars]

theorem readPairs?_of_last {cs : List Char} {label : String × String}
    (h : readPair? cs = some (label, ['\x7d'])) : readPairs? cs = some [label] := by
  rw [readPairs?]
  split <;> simp_all

theorem readPairs?_of_comma {cs rest : List Char} {label : String × String}
    (h : readPair? cs = some (label, ',' :: rest)) :
    readPairs? cs = (readPairs? rest).map (label :: ·) := by
  rw [readPairs?]
  split <;> simp_all

/-- Labels are read exactly from what stands behind the mark in front of them. -/
theorem readPairs?_eq_some_iff (cs : List Char) (labels : List (String × String)) :
    readPairs? cs = some labels ↔
      AreNamed labels ∧ labelChars ',' labels ['\x7d'] = ',' :: cs := by
  constructor
  · intro h
    fun_induction readPairs? cs generalizing labels with
    | case1 cs label hlabel =>
      obtain rfl := Option.some.inj h
      obtain ⟨hname, rfl⟩ := eq_labelPair_of_readPair? hlabel
      exact ⟨by simpa [AreNamed] using hname, labelChars_cons ..⟩
    | case2 cs label rest hlabel _ ih =>
      obtain ⟨more, hmore, rfl⟩ := Option.map_eq_some_iff.mp h
      obtain ⟨hname, rfl⟩ := eq_labelPair_of_readPair? hlabel
      obtain ⟨hnames, hrest⟩ := ih more hmore
      refine ⟨List.forall_mem_cons.mpr ⟨hname, hnames⟩, ?_⟩
      rw [labelChars_cons, hrest]
    | case3 => cases h
  · rintro ⟨hnames, hchars⟩
    induction labels generalizing cs with
    | nil => cases hchars
    | cons label more ih =>
      obtain ⟨hname, hmore⟩ := List.forall_mem_cons.mp hnames
      rw [labelChars_cons] at hchars
      obtain rfl := (List.cons.inj hchars).2
      have hlabel := readPair?_labelPair hname (labelChars ',' more ['\x7d'])
      cases more with
      | nil => exact readPairs?_of_last hlabel
      | cons next rest =>
        rw [labelChars_cons ',' next] at hlabel
        have hread := ih _ hmore (labelChars_cons ..)
        rw [labelChars_cons ',' next, readPairs?_of_comma hlabel, hread, Option.map_some]

/-- No braces are no labels. -/
def readLabelsText? (text : String) : Option (List (String × String)) :=
  match text.toList with
  | [] => some []
  | '\x7b' :: rest => readPairs? rest
  | _ => none

theorem toList_labelsText (label : String × String) (rest : List (String × String)) :
    (labelsText (label :: rest)).toList = labelChars '\x7b' (label :: rest) ['\x7d'] := by
  rw [← cons_toList_intercalate]
  simp [labelsText]

theorem readLabelsText?_eq_some_iff (text : String) (labels : List (String × String)) :
    readLabelsText? text = some labels ↔ AreNamed labels ∧ text = labelsText labels := by
  have hempty : text.toList = [] ↔ text = labelsText [] := String.toList_eq_nil_iff
  unfold readLabelsText?
  constructor
  · intro h
    split at h
    · rename_i hnil
      obtain rfl := Option.some.inj h
      exact ⟨List.forall_mem_nil _, hempty.mp hnil⟩
    · rename_i rest htext
      obtain ⟨hnames, hchars⟩ := (readPairs?_eq_some_iff _ _).mp h
      refine ⟨hnames, String.toList_inj.mp ?_⟩
      cases labels with
      | nil => cases hchars
      | cons label more =>
        rw [labelChars_cons] at hchars
        rw [htext, toList_labelsText, labelChars_cons, (List.cons.inj hchars).2]
    · cases h
  · rintro ⟨hnames, rfl⟩
    cases labels with
    | nil => rfl
    | cons label more =>
      rw [toList_labelsText, labelChars_cons]
      exact (readPairs?_eq_some_iff _ _).mpr ⟨hnames, labelChars_cons ..⟩

theorem newline_not_mem_labelsText {labels : List (String × String)} (h : AreNamed labels) :
    '\n' ∉ (labelsText labels).toList := by
  have hname : ∀ label ∈ labels, '\n' ∉ label.1.toList := by
    intro label hl hc
    exact absurd (h label hl _ hc) (by decide)
  cases labels with
  | nil => exact List.not_mem_nil
  | cons label more =>
    rw [toList_labelsText]
    exact newline_not_mem_labelChars hname (by decide) (by decide)

end Labels

/-- Labels with such names are written on one line. It is read as these labels, and no other text
is, so other labels have other texts, the same names with other values among them. A value is
escaped by three replacements one after the other, and what reads as the value is only the outcome
of these. -/
theorem labels_are_decodable {labels : List (String × String)} (h : AreNamed labels) :
    readLabelsText? (labelsText labels) = some labels ∧
      (∀ text, readLabelsText? text = some labels → text = labelsText labels) ∧
      '\n' ∉ (labelsText labels).toList ∧
      (∀ others, AreNamed others → labelsText others = labelsText labels → others = labels) ∧
      ∀ value, escapeInTurn value = escapeLabel value ∧
        ∀ text, unescapeLabel? text = some value ↔ text = escapeInTurn value := by
  have hread := (readLabelsText?_eq_some_iff _ _).mpr ⟨h, rfl⟩
  refine ⟨hread, fun text htext => ((readLabelsText?_eq_some_iff _ _).mp htext).2,
    newline_not_mem_labelsText h, fun others hothers hsame => ?_, fun value => ?_⟩
  · have hother := (readLabelsText?_eq_some_iff _ _).mpr ⟨hothers, rfl⟩
    rw [hsame, hread] at hother
    exact (Option.some.inj hother).symm
  · rw [escapeInTurn_eq]
    exact ⟨rfl, fun text => unescapeLabel?_eq_some_iff text value⟩

/-- A backslash before an `n` and a line feed, and a name that ends in a backslash. -/
theorem labels_are_decodable_of_backslashes :
    let labels := [("path", "\\n\n\"\x7d"), ("a\\", "\\"), ("", "\\\"")]
    AreNamed labels ∧
      labelsText labels = "\x7bpath=\"\\\\n\\n\\\"\x7d\",a\\=\"\\\\\",=\"\\\\\\\"\"\x7d" ∧
      readLabelsText? (labelsText labels) = some labels := by
  intro labels
  have hnames : AreNamed labels := by decide +kernel
  exact ⟨hnames, by decide +kernel, (labels_are_decodable hnames).1⟩

end Telemetry.Metric
