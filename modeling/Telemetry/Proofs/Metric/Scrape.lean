import Mathlib.Data.List.Nodup
import Telemetry.Metric.Exposition
import Telemetry.Metric.Name
import Telemetry.Proofs.Number.Numeral
import Telemetry.Text.Split

/-! # Reading an exposition

A scraper splits the text at its line feeds and passes over comments. What quotes separate on a
line are in turn label names and label values; in a value each backslash stands before a character
that is meant literally or for a line feed. Every series that can be printed is read back.
-/
namespace Telemetry.Metric

/-- A line that is no comment. -/
structure Series where
  name : String
  labels : List (String × String)
  value : String
  deriving DecidableEq

def Series.text (s : Series) : String := series s.name s.labels s.value

def addFirst (front : List Char) : List (List Char) → List (List Char)
  | [] => [front]
  | part :: parts => (front ++ part) :: parts

def unescapeChar (c : Char) : Char := if c = 'n' then '\n' else c

/-- The parts of a line between its quotes, with every escaped character read. -/
def quotedParts : List Char → List (List Char)
  | [] => [[]]
  | '"' :: rest => [] :: quotedParts rest
  | '\\' :: c :: rest => addFirst [unescapeChar c] (quotedParts rest)
  | c :: rest => addFirst [c] (quotedParts rest)

/-- The name of a label between the mark in front of it and the equals sign. -/
def labelName? (mark : Char) (part : List Char) : Option String :=
  if part.head? = some mark ∧ part.getLast? = some '=' then
    some (String.ofList part.tail.dropLast)
  else none

def readLabels? (mark : Char) : List (List Char) → Option (List (String × String) × List Char)
  | [] => none
  | [rest] => some ([], rest)
  | part :: value :: parts =>
    (labelName? mark part).bind fun name =>
      (readLabels? ',' parts).map fun read => ((name, String.ofList value) :: read.1, read.2)

/-- What stands between labels and a value; the brace only where there are labels. -/
def closing (labels : List (String × String)) : List Char :=
  if labels = [] then [' '] else ['\x7d', ' ']

def readValue? (labels : List (String × String)) (rest : List Char) : Option String :=
  if (closing labels).isPrefixOf rest then
    some (String.ofList (rest.drop (closing labels).length))
  else none

def readSeries? (line : List Char) : Option Series :=
  match quotedParts line with
  | [] => none
  | part :: parts =>
    (readLabels? '\x7b' (part.dropWhile isNameChar :: parts)).bind fun read =>
      (readValue? read.1 read.2).map fun value =>
        { name := String.ofList (part.takeWhile isNameChar), labels := read.1, value := value }

def isSilent (line : List Char) : Bool := line.head? = none || line.head? = some '#'

/-- All series of a text in order, if each of its lines can be read. -/
def scrape? (text : String) : Option (List Series) :=
  ((Text.splitWhere (· == '\n') text.toList).filter fun line => !isSilent line).mapM readSeries?

def readNat? (s : String) : Option Nat :=
  if s.toList ≠ [] ∧ s.toList.all Char.isDigit then some (Number.digitsValue 10 s.toList) else none

/-- The whole numbers of one name, each with the values of its labels. -/
def samples? (name : String) (doc : List Series) : Option (List (LabelKey × Nat)) :=
  (doc.filter fun s => s.name = name).mapM fun s =>
    (readNat? s.value).map fun n => (s.labels.map (·.2), n)

def keysOf (name : String) (doc : List Series) : List LabelKey :=
  (doc.filter fun s => s.name = name).map fun s => s.labels.map (·.2)

theorem keysOf_of_samples? {name : String} {doc : List Series} {rows : List (LabelKey × Nat)}
    (h : samples? name doc = some rows) : keysOf name doc = rows.map (·.1) := by
  unfold samples? at h
  unfold keysOf
  generalize doc.filter (fun s => s.name = name) = found at h ⊢
  induction found generalizing rows with
  | nil =>
    obtain rfl := Option.some.inj h
    rfl
  | cons s rest ih =>
    rw [List.mapM_cons] at h
    obtain ⟨row, hrow, h⟩ := Option.bind_eq_some_iff.mp h
    obtain ⟨more, hmore, h⟩ := Option.bind_eq_some_iff.mp h
    obtain ⟨n, -, rfl⟩ := Option.map_eq_some_iff.mp hrow
    obtain rfl := Option.some.inj h
    rw [List.map_cons, List.map_cons, ih hmore]

section Inert

/-- A character that stands for itself inside and outside of quotes. -/
def isInert (c : Char) : Bool := c != '"' && c != '\\' && c != '\n'

theorem isInert_cases (c : Char) : isInert c = true ∨ c = '"' ∨ c = '\\' ∨ c = '\n' := by
  by_cases h : isInert c = true
  · exact .inl h
  · simp only [isInert, Bool.and_eq_true, bne_iff_ne, not_and_or, not_not, or_assoc] at h
    exact .inr h

theorem escapeLabelChar_of_isInert {c : Char} (h : isInert c = true) : escapeLabelChar c = [c] := by
  simp only [isInert, Bool.and_eq_true, bne_iff_ne] at h
  rw [escapeLabelChar, if_neg h.1.2, if_neg h.2, if_neg h.1.1]

theorem escape_of_isInert {cs : List Char} (h : ∀ c ∈ cs, isInert c = true) :
    cs.flatMap escapeLabelChar = cs := by
  induction cs with
  | nil => rfl
  | cons c rest ih =>
    rw [List.flatMap_cons, escapeLabelChar_of_isInert (h c List.mem_cons_self),
      ih fun d hd => h d (List.mem_cons_of_mem _ hd), List.singleton_append]

theorem isInert_of_isNameChar {c : Char} (h : isNameChar c = true) : isInert c = true := by
  rcases isInert_cases c with hinert | rfl | rfl | rfl
  · exact hinert
  all_goals exact absurd h (by decide)

theorem isInert_of_isPlain {c : Char} (h : Number.isPlain c = true) : isInert c = true := by
  rcases isInert_cases c with hinert | rfl | rfl | rfl
  · exact hinert
  all_goals exact absurd h (by decide)

end Inert

section Parts

theorem quotedParts_cons {c : Char} (h : isInert c = true) (rest : List Char) :
    quotedParts (c :: rest) = addFirst [c] (quotedParts rest) := by
  rw [quotedParts]
  · rintro rfl
    exact absurd h (by decide)
  · rintro d more rfl
    exact absurd h (by decide)

theorem addFirst_cons (front part : List Char) (parts : List (List Char)) :
    addFirst front (part :: parts) = (front ++ part) :: parts := rfl

theorem addFirst_addFirst (front more : List Char) (parts : List (List Char)) :
    addFirst front (addFirst more parts) = addFirst (front ++ more) parts := by
  cases parts <;> simp [addFirst]

theorem quotedParts_ne_nil (cs : List Char) : quotedParts cs ≠ [] := by
  have hadd : ∀ front parts, addFirst front parts ≠ [] := by
    intro front parts
    cases parts <;> simp [addFirst]
  unfold quotedParts
  split
  · simp
  · simp
  · exact hadd _ _
  · exact hadd _ _

theorem addFirst_nil (cs : List Char) : addFirst [] (quotedParts cs) = quotedParts cs := by
  obtain ⟨part, parts, h⟩ := List.exists_cons_of_ne_nil (quotedParts_ne_nil cs)
  rw [h, addFirst_cons, List.nil_append]

theorem quotedParts_escapeLabelChar (c : Char) (rest : List Char) :
    quotedParts (escapeLabelChar c ++ rest) = addFirst [c] (quotedParts rest) := by
  rcases isInert_cases c with hinert | rfl | rfl | rfl
  · rw [escapeLabelChar_of_isInert hinert]
    exact quotedParts_cons hinert rest
  all_goals rfl

theorem quotedParts_escape (cs rest : List Char) :
    quotedParts (cs.flatMap escapeLabelChar ++ rest) = addFirst cs (quotedParts rest) := by
  induction cs with
  | nil => exact (addFirst_nil rest).symm
  | cons c more ih =>
    rw [List.flatMap_cons, List.append_assoc, quotedParts_escapeLabelChar, ih, addFirst_addFirst,
      List.singleton_append]

theorem quotedParts_isInert {cs : List Char} (h : ∀ c ∈ cs, isInert c = true)
    (rest : List Char) : quotedParts (cs ++ rest) = addFirst cs (quotedParts rest) := by
  have he := quotedParts_escape cs rest
  rwa [escape_of_isInert h] at he

theorem quotedParts_quote (cs rest : List Char) :
    quotedParts (cs.flatMap escapeLabelChar ++ '"' :: rest) = cs :: quotedParts rest := by
  rw [quotedParts_escape, quotedParts, addFirst_cons, List.append_nil]

end Parts

section Labels

def labelChars (mark : Char) : List (String × String) → List Char → List Char
  | [], tail => tail
  | label :: rest, tail =>
    mark :: (label.1.toList ++ '=' :: '"' :: (label.2.toList.flatMap escapeLabelChar ++
      '"' :: labelChars ',' rest tail))

theorem toList_labelPair (label : String × String) :
    (labelPair label).toList =
      label.1.toList ++ '=' :: '"' :: (label.2.toList.flatMap escapeLabelChar ++ ['"']) := by
  simp [labelPair, escapeLabel]

theorem cons_toList_intercalate (mark : Char) (label : String × String)
    (rest : List (String × String)) (tail : List Char) :
    mark :: ((String.intercalate "," ((label :: rest).map labelPair)).toList ++ tail) =
      labelChars mark (label :: rest) tail := by
  induction rest generalizing mark label with
  | nil =>
    rw [List.map_singleton, String.intercalate_singleton, toList_labelPair, labelChars, labelChars]
    simp
  | cons next rest ih =>
    have hnext := ih ',' next
    rw [List.map_cons] at hnext
    rw [List.map_cons, List.map_cons, String.intercalate_cons_cons, labelChars, ← hnext,
      String.toList_append, String.toList_append, toList_labelPair]
    simp

theorem toList_text (s : Series) :
    s.text.toList = s.name.toList ++ labelChars '\x7b' s.labels (closing s.labels ++ s.value.toList) := by
  obtain ⟨name, labels, value⟩ := s
  cases labels with
  | nil => simp [Series.text, series, labelsText, labelChars, closing]
  | cons label rest =>
    rw [← cons_toList_intercalate]
    simp [Series.text, series, labelsText, closing]

end Labels

section Reading

/-- A series whose names are names and whose value needs no quotes. Nothing is asked of the values
of its labels. -/
structure Readable (s : Series) : Prop where
  name : ∀ c ∈ s.name.toList, isNameChar c = true
  labels : ∀ label ∈ s.labels, ∀ c ∈ label.1.toList, isNameChar c = true
  value : ∀ c ∈ s.value.toList, isInert c = true

theorem labelName?_mark (mark : Char) (name : String) :
    labelName? mark (mark :: (name.toList ++ ['='])) = some name := by
  have hlast : (mark :: (name.toList ++ ['='])).getLast? = some '=' := by
    rw [← List.cons_append, List.getLast?_concat]
  rw [labelName?, if_pos ⟨rfl, hlast⟩, List.tail_cons, List.dropLast_concat, String.ofList_toList]

/-- Labels are read back, whatever their values are. -/
theorem readLabels?_labelChars {labels : List (String × String)}
    (h : ∀ label ∈ labels, ∀ c ∈ label.1.toList, isNameChar c = true) {mark : Char}
    (hmark : isInert mark = true) {tail : List Char} (htail : ∀ c ∈ tail, isInert c = true) :
    readLabels? mark (quotedParts (labelChars mark labels tail)) = some (labels, tail) := by
  induction labels generalizing mark with
  | nil =>
    have hparts := quotedParts_isInert htail []
    rw [List.append_nil] at hparts
    rw [labelChars, hparts, quotedParts, addFirst_cons, List.append_nil, readLabels?]
  | cons label rest ih =>
    have hfront : ∀ c ∈ mark :: (label.1.toList ++ ['=']), isInert c = true := by
      intro c hc
      simp only [List.mem_cons, List.mem_append, List.not_mem_nil, or_false] at hc
      rcases hc with rfl | hc | rfl
      · exact hmark
      · exact isInert_of_isNameChar (h label List.mem_cons_self c hc)
      · decide
    have hname := quotedParts_isInert hfront
      ('"' :: (label.2.toList.flatMap escapeLabelChar ++ '"' :: labelChars ',' rest tail))
    have hcomma : isInert ',' = true := by decide
    have hrest := ih (fun l hl => h l (List.mem_cons_of_mem _ hl)) hcomma
    rw [quotedParts, quotedParts_quote, addFirst_cons, List.append_nil] at hname
    have hline : labelChars mark (label :: rest) tail = mark :: (label.1.toList ++ ['=']) ++
        '"' :: (label.2.toList.flatMap escapeLabelChar ++ '"' :: labelChars ',' rest tail) := by
      simp [labelChars]
    rw [hline, hname, readLabels?, labelName?_mark, Option.bind_some, hrest, Option.map_some,
      String.ofList_toList]

theorem isInert_closing (labels : List (String × String)) :
    ∀ c ∈ closing labels, isInert c = true := by
  unfold closing
  split <;> exact List.all_eq_true.mp (by decide)

theorem readValue?_closing (labels : List (String × String)) (value : String) :
    readValue? labels (closing labels ++ value.toList) = some value := by
  rw [readValue?, if_pos (by simp), List.drop_left, String.ofList_toList]

theorem isInert_tail {s : Series} (h : Readable s) :
    ∀ c ∈ closing s.labels ++ s.value.toList, isInert c = true := by
  intro c hc
  rcases List.mem_append.mp hc with hc | hc
  · exact isInert_closing s.labels c hc
  · exact h.value c hc

/-- What follows the name begins with a character that no name has. -/
theorem labelChars_head (s : Series) : ∃ c rest,
    labelChars '\x7b' s.labels (closing s.labels ++ s.value.toList) = c :: rest ∧
      isInert c = true ∧ isNameChar c = false ∧ c ≠ '#' := by
  obtain ⟨name, labels, value⟩ := s
  cases labels with
  | nil => exact ⟨' ', value.toList, rfl, by decide⟩
  | cons label rest => exact ⟨'\x7b', _, rfl, by decide⟩

/-- Every readable series is read back from its line. -/
theorem readSeries?_text {s : Series} (h : Readable s) :
    readSeries? s.text.toList = some s := by
  obtain ⟨c, rest, hhead, hc, hname, -⟩ := labelChars_head s
  have hbrace : isInert '\x7b' = true := by decide
  have hread := readLabels?_labelChars h.labels hbrace (isInert_tail h)
  obtain ⟨part, parts, hparts⟩ := List.exists_cons_of_ne_nil (quotedParts_ne_nil rest)
  -- The mark behind the name opens the first part, so that the name ends before it.
  have hfirst : quotedParts (labelChars '\x7b' s.labels (closing s.labels ++ s.value.toList)) =
      (c :: part) :: parts := by
    have hsingle : ∀ d ∈ [c], isInert d = true := by simpa using hc
    have hone := quotedParts_isInert hsingle rest
    rw [hhead]
    rw [hparts, addFirst_cons] at hone
    exact hone
  have hline := quotedParts_isInert (fun c hc => isInert_of_isNameChar (h.name c hc))
    (labelChars '\x7b' s.labels (closing s.labels ++ s.value.toList))
  rw [hfirst, addFirst_cons] at hline
  rw [hfirst] at hread
  have htake : (s.name.toList ++ c :: part).takeWhile isNameChar = s.name.toList := by
    rw [List.takeWhile_append_of_pos h.name, List.takeWhile_cons_of_neg (by simp [hname]),
      List.append_nil]
  have hdrop : (s.name.toList ++ c :: part).dropWhile isNameChar = c :: part := by
    rw [List.dropWhile_append_of_pos h.name, List.dropWhile_cons_of_neg (by simp [hname])]
  rw [readSeries?, toList_text, hline]
  dsimp only
  rw [hdrop, hread, Option.bind_some, readValue?_closing, Option.map_some, htake,
    String.ofList_toList]

/-- A label value that closes its quotes and braces and begins a line of its own. -/
example : readSeries? "hits\x7bpath=\"/a\\\"\x7d 1\\nhits\"\x7d 7".toList =
    some ⟨"hits", [("path", "/a\"\x7d 1\nhits")], "7"⟩ := by
  decide +kernel

end Reading

section Documents

theorem not_newline_of_isInert {c : Char} (h : isInert c = true) : c ≠ '\n' := by
  rintro rfl
  exact absurd h (by decide)

theorem newline_not_mem_escape (cs : List Char) : '\n' ∉ cs.flatMap escapeLabelChar := by
  intro h
  obtain ⟨c, -, hc⟩ := List.mem_flatMap.mp h
  rcases isInert_cases c with hinert | rfl | rfl | rfl
  · rw [escapeLabelChar_of_isInert hinert] at hc
    exact not_newline_of_isInert hinert (List.mem_singleton.mp hc).symm
  all_goals exact absurd hc (by decide)

theorem newline_not_mem_labelChars {labels : List (String × String)}
    (h : ∀ label ∈ labels, '\n' ∉ label.1.toList) {mark : Char} (hmark : mark ≠ '\n')
    {tail : List Char} (htail : '\n' ∉ tail) : '\n' ∉ labelChars mark labels tail := by
  induction labels generalizing mark with
  | nil => exact htail
  | cons label rest ih =>
    have hcomma : ',' ≠ '\n' := by decide
    have hrest := ih (fun l hl => h l (List.mem_cons_of_mem _ hl)) hcomma
    have hname := h label List.mem_cons_self
    have hvalue := newline_not_mem_escape label.2.toList
    simp [labelChars, hname, hvalue, hrest, hmark.symm]

theorem newline_not_mem_text {s : Series} (h : Readable s) : '\n' ∉ s.text.toList := by
  have hbrace : '\x7b' ≠ '\n' := by decide
  have hnames : ∀ name : String, (∀ c ∈ name.toList, isNameChar c = true) → '\n' ∉ name.toList :=
    fun _ hname hc => not_newline_of_isInert (isInert_of_isNameChar (hname _ hc)) rfl
  have htail : '\n' ∉ closing s.labels ++ s.value.toList :=
    fun hc => not_newline_of_isInert (isInert_tail h _ hc) rfl
  rw [toList_text, List.mem_append]
  rintro (hc | hc)
  · exact hnames _ h.name hc
  · exact newline_not_mem_labelChars (fun l hl => hnames _ (h.labels l hl)) hbrace htail hc

theorem isSilent_text {s : Series} (h : Readable s) : isSilent s.text.toList = false := by
  obtain ⟨c, rest, hhead, -, -, hc⟩ := labelChars_head s
  rw [toList_text, hhead, isSilent]
  cases hn : s.name.toList with
  | nil => simp [hc]
  | cons d more =>
    have hd : d ≠ '#' := by
      rintro rfl
      have hname := h.name '#' (hn ▸ List.mem_cons_self)
      exact absurd hname (by decide)
    simp [hd]

theorem splitWhere_lines {lines : List String} (h : ∀ line ∈ lines, '\n' ∉ line.toList) :
    Text.splitWhere (· == '\n') (String.intercalate "\n" (lines ++ [""])).toList =
      lines.map String.toList ++ [[]] := by
  induction lines with
  | nil => rfl
  | cons line rest ih =>
    have hne : rest ++ [""] ≠ [] := by simp
    have hline : ∀ c ∈ line.toList, (c == '\n') = false := by
      intro c hc
      rw [beq_eq_false_iff_ne]
      rintro rfl
      exact h line List.mem_cons_self hc
    have htext : (String.intercalate "\n" (line :: rest ++ [""])).toList =
        line.toList ++ '\n' :: (String.intercalate "\n" (rest ++ [""])).toList := by
      rw [List.cons_append, String.intercalate_cons_of_ne_nil hne]
      simp
    rw [htext, Text.splitWhere_append hline rfl,
      ih fun l hl => h l (List.mem_cons_of_mem _ hl), List.map_cons, List.cons_append]

/-- A family of the text: its comments, the names that it uses with the names of their labels, and
its series. -/
structure Block where
  head : List String
  schema : List (String × List String)
  rows : List Series

def Block.names (b : Block) : List String := b.schema.map (·.1)

def Block.lines (b : Block) : List String := b.head ++ b.rows.map Series.text

/-- A block that is read back. Its keys are strictly increasing under each name, but for the bounds
of buckets, which are in the order of numbers. -/
structure Block.Sound (b : Block) : Prop where
  head : ∀ line ∈ b.head, isSilent line.toList = true ∧ '\n' ∉ line.toList
  readable : ∀ s ∈ b.rows, Readable s
  schema : ∀ s ∈ b.rows, (s.name, s.labels.map (·.1)) ∈ b.schema
  distinct : (b.rows.map fun s => (s.name, s.labels)).Nodup
  ordered : ∀ entry ∈ b.schema, "le" ∉ entry.2 →
    (keysOf entry.1 b.rows).Pairwise fun a b => compareKeys a b < 0

theorem Block.Sound.named {b : Block} (h : b.Sound) : ∀ s ∈ b.rows, s.name ∈ b.names :=
  fun s hs => List.mem_map_of_mem (h.schema s hs)

variable {blocks : List Block}

theorem schema_blocks (h : ∀ b ∈ blocks, b.Sound) : ∀ s ∈ blocks.flatMap Block.rows,
    (s.name, s.labels.map (·.1)) ∈ blocks.flatMap Block.schema := by
  intro s hs
  obtain ⟨b, hb, hs⟩ := List.mem_flatMap.mp hs
  exact List.mem_flatMap.mpr ⟨b, hb, (h b hb).schema s hs⟩

theorem newline_not_mem_lines (h : ∀ b ∈ blocks, b.Sound) :
    ∀ line ∈ blocks.flatMap Block.lines, '\n' ∉ line.toList := by
  intro line hline
  obtain ⟨b, hb, hline⟩ := List.mem_flatMap.mp hline
  rcases List.mem_append.mp hline with hline | hline
  · exact ((h b hb).head line hline).2
  · obtain ⟨s, hs, rfl⟩ := List.mem_map.mp hline
    exact newline_not_mem_text ((h b hb).readable s hs)

theorem filter_lines {b : Block} (h : b.Sound) :
    ((b.lines.map String.toList).filter fun line => !isSilent line) =
      b.rows.map fun s => s.text.toList := by
  have hhead : (b.head.map String.toList).filter (fun line => !isSilent line) = [] := by
    rw [List.filter_eq_nil_iff]
    intro line hline
    obtain ⟨text, htext, rfl⟩ := List.mem_map.mp hline
    simp [(h.head text htext).1]
  have hrows : (b.rows.map fun s => s.text.toList).filter (fun line => !isSilent line) =
      b.rows.map fun s => s.text.toList := by
    rw [List.filter_eq_self]
    intro line hline
    obtain ⟨s, hs, rfl⟩ := List.mem_map.mp hline
    simp [isSilent_text (h.readable s hs)]
  rw [Block.lines, List.map_append, List.filter_append, hhead, List.nil_append, List.map_map]
  exact hrows

theorem filter_isSilent {b : Block} (h : b.Sound) :
    (b.lines.map String.toList).filter isSilent = b.head.map String.toList := by
  have hhead : (b.head.map String.toList).filter isSilent = b.head.map String.toList := by
    rw [List.filter_eq_self]
    intro line hline
    obtain ⟨text, htext, rfl⟩ := List.mem_map.mp hline
    exact (h.head text htext).1
  have hrows : (b.rows.map fun s => s.text.toList).filter isSilent = [] := by
    rw [List.filter_eq_nil_iff]
    intro line hline
    obtain ⟨s, hs, rfl⟩ := List.mem_map.mp hline
    simp [isSilent_text (h.readable s hs)]
  rw [Block.lines, List.map_append, List.filter_append, hhead, List.map_map]
  refine (congrArg (b.head.map String.toList ++ ·) hrows).trans ?_
  rw [List.append_nil]

/-- The lines that are passed over are the comments of the blocks. -/
theorem silent_blocks (h : ∀ b ∈ blocks, b.Sound) :
    (Text.splitWhere (· == '\n')
        (String.intercalate "\n" (blocks.flatMap Block.lines ++ [""])).toList).filter isSilent =
      (blocks.flatMap Block.head).map String.toList ++ [[]] := by
  have hfilter : ((blocks.flatMap Block.lines).map String.toList).filter isSilent =
      (blocks.flatMap Block.head).map String.toList := by
    rw [List.map_flatMap, List.filter_flatMap, List.map_flatMap]
    exact List.flatMap_congr fun b hb => filter_isSilent (h b hb)
  rw [splitWhere_lines (newline_not_mem_lines h), List.filter_append, hfilter]
  rfl

theorem mapM_readSeries? {rows : List Series} (h : ∀ s ∈ rows, Readable s) :
    (rows.map fun s => s.text.toList).mapM readSeries? = some rows := by
  induction rows with
  | nil => rfl
  | cons s rest ih =>
    rw [List.map_cons, List.mapM_cons, readSeries?_text (h s List.mem_cons_self),
      ih fun t ht => h t (List.mem_cons_of_mem _ ht)]
    rfl

/-- A text of sound blocks is read back as the series of its blocks. -/
theorem scrape?_blocks (h : ∀ b ∈ blocks, b.Sound) :
    scrape? (String.intercalate "\n" (blocks.flatMap Block.lines ++ [""])) =
      some (blocks.flatMap Block.rows) := by
  have hfilter : (((blocks.flatMap Block.lines).map String.toList).filter
      fun line => !isSilent line) = (blocks.flatMap Block.rows).map fun s => s.text.toList := by
    rw [List.map_flatMap, List.filter_flatMap, List.map_flatMap]
    exact List.flatMap_congr fun b hb => filter_lines (h b hb)
  have hread : ∀ s ∈ blocks.flatMap Block.rows, Readable s := by
    intro s hs
    obtain ⟨b, hb, hs⟩ := List.mem_flatMap.mp hs
    exact (h b hb).readable s hs
  have hlast : ([[]] : List (List Char)).filter (fun line => !isSilent line) = [] := rfl
  rw [scrape?, splitWhere_lines (newline_not_mem_lines h), List.filter_append, hfilter, hlast,
    List.append_nil, mapM_readSeries? hread]

theorem length_lines (blocks : List Block) : (blocks.flatMap Block.lines).length =
    (blocks.flatMap Block.head).length + (blocks.flatMap Block.rows).length := by
  induction blocks with
  | nil => rfl
  | cons b rest ih =>
    simp only [List.flatMap_cons, List.length_append, ih, Block.lines, List.length_map]
    omega

theorem filter_block (h : ∀ b ∈ blocks, b.Sound) (hnames : (blocks.flatMap Block.names).Nodup)
    {b : Block} (hb : b ∈ blocks) {name : String} (hname : name ∈ b.names) :
    (blocks.flatMap Block.rows).filter (fun s => s.name = name) =
      b.rows.filter fun s => s.name = name := by
  -- A name that no block declares has no series.
  have hempty : ∀ rest : List Block, (∀ b ∈ rest, b.Sound) →
      name ∉ rest.flatMap Block.names →
      (rest.flatMap Block.rows).filter (fun s => s.name = name) = [] := by
    intro rest hrest hnot
    rw [List.filter_eq_nil_iff]
    intro s hs he
    obtain ⟨b, hb, hs⟩ := List.mem_flatMap.mp hs
    have hmem := (hrest b hb).named s hs
    rw [of_decide_eq_true he] at hmem
    exact hnot (List.mem_flatMap.mpr ⟨b, hb, hmem⟩)
  induction blocks with
  | nil => cases hb
  | cons a rest ih =>
    rw [List.flatMap_cons] at hnames
    obtain ⟨-, hrest, hdisjoint⟩ := List.nodup_append'.mp hnames
    have hsound : ∀ b ∈ rest, b.Sound := fun b hb => h b (List.mem_cons_of_mem _ hb)
    rw [List.flatMap_cons, List.filter_append]
    rcases List.mem_cons.mp hb with rfl | hb
    · rw [hempty rest hsound (hdisjoint hname), List.append_nil]
    · have hone : name ∉ [a].flatMap Block.names := by
        rw [List.flatMap_singleton]
        exact fun ha => hdisjoint ha (List.mem_flatMap.mpr ⟨b, hb, hname⟩)
      have ha := hempty [a] (by simpa using h a List.mem_cons_self) hone
      rw [List.flatMap_singleton] at ha
      rw [ha, List.nil_append, ih hsound hrest hb]

theorem samples?_block (h : ∀ b ∈ blocks, b.Sound) (hnames : (blocks.flatMap Block.names).Nodup)
    {b : Block} (hb : b ∈ blocks) {name : String} (hname : name ∈ b.names) :
    samples? name (blocks.flatMap Block.rows) = samples? name b.rows := by
  rw [samples?, filter_block h hnames hb hname, samples?]

theorem ordered_blocks (h : ∀ b ∈ blocks, b.Sound) (hnames : (blocks.flatMap Block.names).Nodup) :
    ∀ entry ∈ blocks.flatMap Block.schema, "le" ∉ entry.2 →
      (keysOf entry.1 (blocks.flatMap Block.rows)).Pairwise fun a b => compareKeys a b < 0 := by
  intro entry he hle
  obtain ⟨b, hb, he⟩ := List.mem_flatMap.mp he
  have hname : entry.1 ∈ b.names := List.mem_map_of_mem he
  rw [keysOf, filter_block h hnames hb hname]
  exact (h b hb).ordered entry he hle

/-- No two series of a text of sound blocks have the same name and labels. -/
theorem nodup_blocks (h : ∀ b ∈ blocks, b.Sound) (hnames : (blocks.flatMap Block.names).Nodup) :
    ((blocks.flatMap Block.rows).map fun s => (s.name, s.labels)).Nodup := by
  obtain ⟨-, hdisjoint⟩ := List.nodup_flatMap.mp hnames
  rw [List.map_flatMap, List.nodup_flatMap]
  refine ⟨fun b hb => (h b hb).distinct, ?_⟩
  refine hdisjoint.imp_of_mem fun {a b} ha hb hab => ?_
  intro pair hpa hpb
  obtain ⟨s, hs, rfl⟩ := List.mem_map.mp hpa
  obtain ⟨t, ht, he⟩ := List.mem_map.mp hpb
  have hname : t.name = s.name := congrArg Prod.fst he
  exact hab ((h a ha).named s hs) (hname ▸ (h b hb).named t ht)

end Documents

end Telemetry.Metric
