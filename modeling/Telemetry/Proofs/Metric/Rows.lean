import Telemetry.Proofs.Metric.Buckets
import Telemetry.Proofs.Metric.Order
import Telemetry.Proofs.Metric.Scrape

/-! # The series of a family

A family is printed as a block of comments and series that a scraper reads back: the values of the
labels are the keys, and the numbers are the counts.
-/
namespace Telemetry.Metric
open Telemetry.Number (isPlain)

section Values

theorem mem_of_mem_stripZeros {cs : List Char} {c : Char} (h : c ∈ stripZeros cs) : c ∈ cs := by
  unfold stripZeros at h
  dsimp only at h
  split at h
  · exact Text.mem_of_mem_dropEndWhile ((List.dropLast_sublist _).mem h)
  · exact Text.mem_of_mem_dropEndWhile h

theorem isPlain_valueText (x : Number) : ∀ c ∈ (valueText x).toList, isPlain c = true := by
  have hzero : ∀ c ∈ "0".toList, isPlain c = true := List.all_eq_true.mp (by decide)
  unfold valueText
  split
  · rename_i hfin
    dsimp only
    split
    · exact hzero
    · intro c hc
      rw [String.toList_ofList] at hc
      exact Number.isPlain_of_mem_toFixedChars hfin 6 c (mem_of_mem_stripZeros hc)
  · exact hzero

theorem toList_toString_nat (n : Nat) : (toString n).toList = Nat.toDigits 10 n := by
  rw [Nat.toString_eq_ofList_toDigits, String.toList_ofList]

theorem readNat?_toString (n : Nat) : readNat? (toString n) = some n := by
  have hdigits : (Nat.toDigits 10 n).all Char.isDigit = true :=
    List.all_eq_true.mpr fun _ => Number.isDigit_of_mem
  rw [readNat?, toList_toString_nat, if_pos ⟨Nat.toDigits_ne_nil, hdigits⟩,
    Number.digitsValue_toDigits]

end Values

section Labels

theorem map_fst_pairLabels (names : List String) (key : LabelKey) :
    (pairLabels names key).map (·.1) = names := by
  induction names generalizing key with
  | nil => rfl
  | cons name rest ih => cases key <;> simp [pairLabels, ih]

theorem map_snd_pairLabels {names : List String} {key : LabelKey}
    (h : key.length = names.length) : (pairLabels names key).map (·.2) = key := by
  induction names generalizing key with
  | nil => exact (List.eq_nil_of_length_eq_zero h).symm
  | cons name rest ih =>
    cases key with
    | nil => cases h
    | cons value more => simp [pairLabels, ih (Nat.succ.inj h)]

/-- Names of series and labels are names, so that no label can be mistaken. -/
structure Family.Sound (f : Family) : Prop where
  name : ∀ c ∈ f.name.toList, isNameChar c = true
  labels : ∀ label ∈ f.labels, ∀ c ∈ label.toList, isNameChar c = true

variable {f : Family} (hf : f.Sound)
include hf

theorem Family.Sound.pairLabels (key : LabelKey) :
    ∀ label ∈ pairLabels f.labels key, ∀ c ∈ label.1.toList, isNameChar c = true := by
  intro label hl
  have hmem : label.1 ∈ (Metric.pairLabels f.labels key).map (·.1) := List.mem_map_of_mem hl
  rw [map_fst_pairLabels] at hmem
  exact hf.labels label.1 hmem

theorem Family.Sound.newline : '\n' ∉ f.name.toList := fun hc =>
  not_newline_of_isInert (isInert_of_isNameChar (hf.name _ hc)) rfl

omit hf in
theorem newline_not_mem_escapeHelp (value : String) : '\n' ∉ (escapeHelp value).toList := by
  rw [escapeHelp, String.toList_ofList]
  intro h
  obtain ⟨c, -, hc⟩ := List.mem_flatMap.mp h
  unfold escapeHelpChar at hc
  split at hc
  · simp at hc
  · split at hc
    · simp at hc
    · rename_i hline
      exact hline (List.mem_singleton.mp hc).symm

/-- The comments of a family are two lines. -/
theorem Family.Sound.headLines {kind : String} (hkind : '\n' ∉ kind.toList) :
    ∀ line ∈ headLines f kind, isSilent line.toList = true ∧ '\n' ∉ line.toList := by
  have hname := hf.newline
  have hhelp := newline_not_mem_escapeHelp f.help
  intro line hl
  simp only [Metric.headLines, List.mem_cons, List.not_mem_nil, or_false] at hl
  rcases hl with rfl | rfl <;> simp [isSilent, hname, hhelp, hkind]

end Labels

/-- Rows that carry whole numbers are read as their keys with these numbers. -/
theorem samples?_eq {α : Type} {doc : List Series} {name : String} {items : List α}
    {row : α → Series} (result : α → LabelKey × Nat)
    (hdoc : doc.filter (fun s => s.name = name) = items.map row)
    (hrow : ∀ a ∈ items, (row a).labels.map (·.2) = (result a).1 ∧
      (row a).value = toString (result a).2) : samples? name doc = some (items.map result) := by
  rw [samples?, hdoc]
  clear hdoc
  induction items with
  | nil => rfl
  | cons a rest ih =>
    obtain ⟨hkey, hvalue⟩ := hrow a List.mem_cons_self
    rw [List.map_cons, List.mapM_cons, ih fun b hb => hrow b (List.mem_cons_of_mem _ hb), hkey,
      hvalue, readNat?_toString]
    rfl

/-- Keys in strictly increasing order, one value for each label. -/
structure Keyed (f : Family) (keys : List LabelKey) : Prop where
  length : ∀ key ∈ keys, key.length = f.labels.length
  increasing : keys.Pairwise fun a b => compareKeys a b < 0

theorem Keyed.nodup {f : Family} {keys : List LabelKey} (h : Keyed f keys) : keys.Nodup := by
  refine h.increasing.imp fun {a b} hab he => ?_
  have hzero := (compareKeys_eq_zero_iff a b).mpr he
  omega

theorem keyed_mergeSort {f : Family} {keys : List LabelKey} (hnodup : keys.Nodup)
    (hlen : ∀ key ∈ keys, key.length = f.labels.length) : Keyed f (keys.mergeSort keyLe) :=
  ⟨fun key hkey => hlen key (List.mem_mergeSort.mp hkey), pairwise_mergeSort_keyLe hnodup⟩

def plainBlock (f : Family) (kind : String) (samples : List (LabelKey × String)) : Block :=
  { head := headLines f kind
    schema := [(f.name, f.labels)]
    rows := samples.map fun s => ⟨f.name, pairLabels f.labels s.1, s.2⟩ }

section Plain

variable {f : Family} {samples : List (LabelKey × String)}

theorem filter_plainBlock (f : Family) (kind : String) (samples : List (LabelKey × String)) :
    (plainBlock f kind samples).rows.filter (fun s => s.name = f.name) =
      samples.map fun s => ⟨f.name, pairLabels f.labels s.1, s.2⟩ := by
  rw [plainBlock, List.filter_eq_self]
  intro s hs
  obtain ⟨sample, -, rfl⟩ := List.mem_map.mp hs
  exact decide_eq_true rfl

variable (h : Keyed f (samples.map (·.1)))
include h

theorem keysOf_plainBlock (kind : String) :
    keysOf f.name (plainBlock f kind samples).rows = samples.map (·.1) := by
  rw [keysOf, filter_plainBlock, List.map_map]
  refine List.map_congr_left fun s hs => ?_
  exact map_snd_pairLabels (h.length s.1 (List.mem_map_of_mem hs))

theorem plainBlock_sound (hf : f.Sound) {kind : String} (hkind : '\n' ∉ kind.toList)
    (htext : ∀ s ∈ samples, ∀ c ∈ s.2.toList, isPlain c = true) :
    (plainBlock f kind samples).Sound := by
  have hkeys := keysOf_plainBlock h kind
  refine ⟨hf.headLines hkind, fun s hs => ?_, fun s hs => ?_, ?_, fun entry he _ => ?_⟩
  · obtain ⟨sample, hsample, rfl⟩ := List.mem_map.mp hs
    exact ⟨hf.name, hf.pairLabels sample.1,
      fun c hc => isInert_of_isPlain (htext sample hsample c hc)⟩
  · obtain ⟨sample, -, rfl⟩ := List.mem_map.mp hs
    simp [plainBlock, map_fst_pairLabels]
  · -- The keys are read off the labels, and the keys are distinct.
    refine List.Nodup.of_map (fun pair => pair.2.map (·.2)) ?_
    have hnodup := h.nodup
    rw [← hkeys, keysOf, filter_plainBlock] at hnodup
    rw [List.map_map]
    exact hnodup
  · rw [List.mem_singleton.mp he, hkeys]
    exact h.increasing

end Plain

theorem samples?_plainBlock {f : Family} {items : List (LabelKey × Nat)}
    (h : Keyed f (items.map (·.1))) (kind : String) :
    samples? f.name (plainBlock f kind (items.map fun i => (i.1, toString i.2))).rows =
      some items := by
  have hdoc := filter_plainBlock f kind (items.map fun i => (i.1, toString i.2))
  rw [List.map_map] at hdoc
  have hread := samples?_eq id hdoc fun i hi =>
    ⟨map_snd_pairLabels (h.length i.1 (List.mem_map_of_mem hi)), rfl⟩
  rw [hread, List.map_id]

def bucketRow (f : Family) (key : LabelKey) (bucket : String × String) : Series :=
  ⟨f.name ++ "_bucket", pairLabels f.labels key ++ [("le", bucket.1)], bucket.2⟩

def Printed.rows (f : Family) (key : LabelKey) (p : Printed) : List Series :=
  p.buckets.map (bucketRow f key) ++
    [⟨f.name ++ "_sum", pairLabels f.labels key, p.sum⟩,
      ⟨f.name ++ "_count", pairLabels f.labels key, p.count⟩]

theorem Printed.lines_eq (f : Family) (key : LabelKey) (p : Printed) :
    p.lines f key = (p.rows f key).map Series.text := by
  simp [Printed.lines, Printed.rows, bucketRow, Series.text, Function.comp_def]

/-- Texts that a line can hold, with one bucket for each text of a bound. -/
structure Printed.Sound (p : Printed) : Prop where
  bounds : (p.buckets.map (·.1)).Nodup
  buckets : ∀ b ∈ p.buckets, ∀ c ∈ b.2.toList, isInert c = true
  sum : ∀ c ∈ p.sum.toList, isInert c = true
  count : ∀ c ∈ p.count.toList, isInert c = true

def histogramBlock (f : Family) (items : List (LabelKey × Printed)) : Block :=
  { head := headLines f "histogram"
    schema := [(f.name ++ "_bucket", f.labels ++ ["le"]), (f.name ++ "_sum", f.labels),
      (f.name ++ "_count", f.labels)]
    rows := items.flatMap fun item => item.2.rows f item.1 }

section Histogram

variable {f : Family} {items : List (LabelKey × Printed)}

theorem filter_bucketRows (key : LabelKey) (buckets : List (String × String)) (name : String) :
    (buckets.map (bucketRow f key)).filter (fun s => s.name = name) =
      if f.name ++ "_bucket" = name then buckets.map (bucketRow f key) else [] := by
  have hname : ∀ s ∈ buckets.map (bucketRow f key), s.name = f.name ++ "_bucket" := by
    intro s hs
    obtain ⟨b, -, rfl⟩ := List.mem_map.mp hs
    rfl
  split
  · rename_i h
    rw [List.filter_eq_self]
    exact fun s hs => decide_eq_true ((hname s hs).trans h)
  · rename_i h
    rw [List.filter_eq_nil_iff]
    exact fun s hs he => h ((hname s hs).symm.trans (of_decide_eq_true he))

theorem filter_bucket (key : LabelKey) (p : Printed) :
    (p.rows f key).filter (fun s => s.name = f.name ++ "_bucket") =
      p.buckets.map (bucketRow f key) := by
  rw [Printed.rows, List.filter_append, filter_bucketRows, if_pos rfl]
  simp

theorem filter_sum (key : LabelKey) (p : Printed) :
    (p.rows f key).filter (fun s => s.name = f.name ++ "_sum") =
      [⟨f.name ++ "_sum", pairLabels f.labels key, p.sum⟩] := by
  rw [Printed.rows, List.filter_append, filter_bucketRows, if_neg (by simp)]
  simp

theorem filter_count (key : LabelKey) (p : Printed) :
    (p.rows f key).filter (fun s => s.name = f.name ++ "_count") =
      [⟨f.name ++ "_count", pairLabels f.labels key, p.count⟩] := by
  rw [Printed.rows, List.filter_append, filter_bucketRows, if_neg (by simp)]
  simp

theorem mem_rows {key : LabelKey} {p : Printed} {s : Series} (hs : s ∈ p.rows f key) :
    (∃ b ∈ p.buckets, s = bucketRow f key b) ∨
      s = ⟨f.name ++ "_sum", pairLabels f.labels key, p.sum⟩ ∨
      s = ⟨f.name ++ "_count", pairLabels f.labels key, p.count⟩ := by
  rcases List.mem_append.mp hs with hs | hs
  · obtain ⟨b, hb, rfl⟩ := List.mem_map.mp hs
    exact .inl ⟨b, hb, rfl⟩
  · simpa using Or.inr (a := ∃ b ∈ p.buckets, s = bucketRow f key b) hs

theorem readable_rows (hf : f.Sound) {key : LabelKey} {p : Printed} (hp : p.Sound) {s : Series}
    (hs : s ∈ p.rows f key) : Readable s := by
  have hsuffix : ∀ suffix : String, suffix.toList.all isNameChar = true →
      ∀ c ∈ (f.name ++ suffix).toList, isNameChar c = true := by
    intro suffix h c hc
    rw [String.toList_append] at hc
    rcases List.mem_append.mp hc with hc | hc
    · exact hf.name c hc
    · exact List.all_eq_true.mp h c hc
  rcases mem_rows hs with ⟨b, hb, rfl⟩ | rfl | rfl
  · refine ⟨hsuffix _ (by decide), fun label hl => ?_, hp.buckets b hb⟩
    rcases List.mem_append.mp hl with hl | hl
    · exact hf.pairLabels key label hl
    · rw [List.mem_singleton.mp hl]
      have hle : "le".toList.all isNameChar = true := by decide
      exact List.all_eq_true.mp hle
  · exact ⟨hsuffix _ (by decide), hf.pairLabels key, hp.sum⟩
  · exact ⟨hsuffix _ (by decide), hf.pairLabels key, hp.count⟩

/-- A series tells the key that it belongs to. -/
theorem key_of_mem_rows {key : LabelKey} (hkey : key.length = f.labels.length) {p : Printed}
    {s : Series} (hs : s ∈ p.rows f key) :
    (s.labels.map (·.2)).take f.labels.length = key := by
  have hmap := map_snd_pairLabels hkey
  rcases mem_rows hs with ⟨b, -, rfl⟩ | rfl | rfl
  · simp [bucketRow, hmap, ← hkey]
  · simp [hmap, ← hkey]
  · simp [hmap, ← hkey]

theorem nodup_rows (key : LabelKey) {p : Printed} (h : (p.buckets.map (·.1)).Nodup) :
    ((p.rows f key).map fun s => (s.name, s.labels)).Nodup := by
  have hbuckets : (p.buckets.map fun b =>
      (f.name ++ "_bucket", pairLabels f.labels key ++ [("le", b.1)])).Nodup := by
    refine List.Nodup.of_map (fun pair => (pair.2.getLast?.map (·.2)).getD "") ?_
    rw [List.map_map]
    simpa [Function.comp_def] using h
  have hname : ∀ pair ∈ p.buckets.map fun b =>
      (f.name ++ "_bucket", pairLabels f.labels key ++ [("le", b.1)]),
      pair.1 = f.name ++ "_bucket" := by
    intro pair hp
    obtain ⟨b, -, rfl⟩ := List.mem_map.mp hp
    rfl
  rw [Printed.rows, List.map_append, List.map_map]
  refine hbuckets.append (by simp) fun pair hp hq => ?_
  have hfirst := hname pair hp
  simp only [List.map_cons, List.map_nil, List.mem_cons, List.not_mem_nil, or_false] at hq
  rcases hq with rfl | rfl <;> simp at hfirst

theorem keysOf_histogramBlock {name : String} (hrows : ∀ item ∈ items,
    ((item.2.rows f item.1).filter fun s => s.name = name).map
      (fun s => s.labels.map (·.2)) = [item.1]) :
    keysOf name (histogramBlock f items).rows = items.map (·.1) := by
  rw [keysOf, histogramBlock, List.filter_flatMap, List.map_flatMap, List.flatMap_congr hrows,
    List.map_eq_flatMap]

variable (h : Keyed f (items.map (·.1)))
include h

theorem histogramBlock_sound (hf : f.Sound) (hitems : ∀ item ∈ items, item.2.Sound) :
    (histogramBlock f items).Sound := by
  have hlength : ∀ item ∈ items, item.1.length = f.labels.length :=
    fun item hitem => h.length item.1 (List.mem_map_of_mem hitem)
  refine ⟨hf.headLines (by decide), fun s hs => ?_, fun s hs => ?_, ?_, fun entry he hle => ?_⟩
  · obtain ⟨item, hitem, hs⟩ := List.mem_flatMap.mp hs
    exact readable_rows hf (hitems item hitem) hs
  · obtain ⟨item, -, hs⟩ := List.mem_flatMap.mp hs
    rcases mem_rows hs with ⟨b, -, rfl⟩ | rfl | rfl <;>
      simp [histogramBlock, bucketRow, map_fst_pairLabels]
  · rw [histogramBlock, List.map_flatMap, List.nodup_flatMap]
    refine ⟨fun item hitem => nodup_rows item.1 (hitems item hitem).bounds, ?_⟩
    refine (List.pairwise_map.mp h.nodup).imp_of_mem fun {a b} ha hb hne pair hpa hpb => ?_
    obtain ⟨s, hs, rfl⟩ := List.mem_map.mp hpa
    obtain ⟨t, ht, he⟩ := List.mem_map.mp hpb
    have hlabels : t.labels = s.labels := congrArg Prod.snd he
    have hka := key_of_mem_rows (hlength a ha) hs
    have hkb := key_of_mem_rows (hlength b hb) ht
    rw [hlabels] at hkb
    exact hne (hka.symm.trans hkb)
  · have hkeys : keysOf entry.1 (histogramBlock f items).rows = items.map (·.1) := by
      simp only [histogramBlock, List.mem_cons, List.not_mem_nil, or_false] at he
      rcases he with rfl | rfl | rfl
      · exact absurd (List.mem_append_right f.labels List.mem_cons_self) hle
      · refine keysOf_histogramBlock fun item hitem => ?_
        rw [filter_sum, List.map_singleton, map_snd_pairLabels (hlength item hitem)]
      · refine keysOf_histogramBlock fun item hitem => ?_
        rw [filter_count, List.map_singleton, map_snd_pairLabels (hlength item hitem)]
    rw [hkeys]
    exact h.increasing

end Histogram

section Exact

variable {f : Family} {keys : List LabelKey} {bounds values : LabelKey → List Number}

/-- The texts of series that are told by their bounds and values. -/
def exactItems (keys : List LabelKey) (bounds values : LabelKey → List Number) :
    List (LabelKey × Printed) :=
  keys.map fun key => (key, exactPrinted (bounds key) (values key))

variable (h : Keyed f keys)
include h

/-- The buckets are read with the bound behind the key. -/
theorem samples?_bucket :
    samples? (f.name ++ "_bucket") (histogramBlock f (exactItems keys bounds values)).rows =
      some (keys.flatMap fun key => (bucketCounts (bounds key) (values key)).map fun b =>
        (key ++ [b.1], b.2)) := by
  have hdoc : (histogramBlock f (exactItems keys bounds values)).rows.filter
      (fun s => s.name = f.name ++ "_bucket") =
      (keys.flatMap fun key => (bucketCounts (bounds key) (values key)).map fun b => (key, b)).map
        fun a => bucketRow f a.1 (a.2.1, toString a.2.2) := by
    rw [histogramBlock, exactItems, List.flatMap_map, List.filter_flatMap, List.map_flatMap]
    refine List.flatMap_congr fun key _ => ?_
    rw [filter_bucket, exactPrinted, List.map_map, List.map_map]
    rfl
  have hread := samples?_eq (fun a => (a.1 ++ [a.2.1], a.2.2)) hdoc fun a ha => by
    obtain ⟨key, hkey, ha⟩ := List.mem_flatMap.mp ha
    obtain ⟨b, -, rfl⟩ := List.mem_map.mp ha
    exact ⟨by simp [bucketRow, map_snd_pairLabels (h.length key hkey)], rfl⟩
  rw [hread, List.map_flatMap]
  simp only [List.map_map, Function.comp_def]

theorem samples?_count :
    samples? (f.name ++ "_count") (histogramBlock f (exactItems keys bounds values)).rows =
      some (keys.map fun key => (key, (values key).length)) := by
  have hdoc : (histogramBlock f (exactItems keys bounds values)).rows.filter
      (fun s => s.name = f.name ++ "_count") =
      keys.map fun key =>
        ⟨f.name ++ "_count", pairLabels f.labels key, toString (values key).length⟩ := by
    rw [histogramBlock, exactItems, List.flatMap_map, List.filter_flatMap, List.map_eq_flatMap]
    exact List.flatMap_congr fun key _ => filter_count key _
  exact samples?_eq _ hdoc fun key hkey => ⟨map_snd_pairLabels (h.length key hkey), rfl⟩

end Exact

end Telemetry.Metric
