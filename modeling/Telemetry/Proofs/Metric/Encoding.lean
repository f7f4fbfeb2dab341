import Telemetry.Proofs.Json.RoundTrip
import Telemetry.Proofs.Metric.History

/-! # Series by the text of their labels

The labels of a series may be written as one text, and series looked up by it. No two tuples share
a text, whatever their labels contain, so a store that keeps series by text gives the same counters
and the same snapshot.
-/
namespace Telemetry.Metric

def encodeKey (key : LabelKey) : String := Json.write (.list (key.map .text))

theorem receivedItems_text (key : LabelKey) :
    Json.receivedItems (key.map .text) = key.map .text := by
  induction key with
  | nil => rfl
  | cons label rest ih => simp [Json.receivedItems, Json.received, ih]

theorem read?_encodeKey (key : LabelKey) :
    Json.read? (encodeKey key) = some (.list (key.map .text)) := by
  rw [encodeKey, Json.read?_write, Json.received, receivedItems_text]

theorem encodeKey_injective : Function.Injective encodeKey := by
  intro a b hab
  have hread : some (Datum.list (a.map .text)) = some (Datum.list (b.map .text)) := by
    calc some (Datum.list (a.map .text)) = Json.read? (encodeKey a) := (read?_encodeKey a).symm
      _ = Json.read? (encodeKey b) := congrArg Json.read? hab
      _ = some (.list (b.map .text)) := read?_encodeKey b
  have htext : Function.Injective Datum.text := by
    intro s t hst
    exact Datum.text.inj hst
  exact List.map_injective_iff.mpr htext (Datum.list.inj (Option.some.inj hread))

/-- Counters by metric and by the text of their tuples, each with its tuple. -/
abbrev Coded := Table String (Table String (LabelKey × Number))

namespace Coded

/-- The tuple that came first stays. -/
def add (key : LabelKey) (amount : Number) : Option (LabelKey × Number) → LabelKey × Number
  | none => (key, amount.truncate)
  | some (first, value) => (first, value + amount.truncate)

def increment (t : Coded) (metric : String) (key : LabelKey) (amount : Number) : Coded :=
  Table.alter t metric fun family => (family.getD []).alter (encodeKey key) (add key amount)

def apply (t : Coded) : Change → Coded
  | .increment metric key amount => t.increment metric key amount
  | .observe .. => t

def applyAll (t : Coded) (changes : List Change) : Coded := changes.foldl apply t

def counter (t : Coded) (metric : String) (key : LabelKey) : Number :=
  ((((Table.get? t metric).getD []).get? (encodeKey key)).map Prod.snd).getD 0

def snapshot (t : Coded) : Table String (Table LabelKey Number) :=
  (t.filter fun family => family.1 ≠ reservedName).map fun family =>
    (family.1, family.2.map Prod.snd)

end Coded

def codedFamily (series : Table LabelKey Number) : Table String (LabelKey × Number) :=
  series.map fun e => (encodeKey e.1, e)

def coded (counters : Table String (Table LabelKey Number)) : Coded :=
  counters.map fun f => (f.1, codedFamily f.2)

section Coded

variable (s : Store)

theorem codedFamily_alter (series : Table LabelKey Number) (key : LabelKey) (amount : Number) :
    (codedFamily series).alter (encodeKey key) (Coded.add key amount) =
      codedFamily (series.alter key fun old => addAmount old amount) := by
  apply Table.alter_map encodeKey_injective
  intro old
  cases old <;> rfl

theorem coded_increment (metric : String) (key : LabelKey) (amount : Number) :
    (coded s.counters).increment metric key amount =
      coded (s.increment metric key amount).counters := by
  apply Table.alter_map Function.injective_id
  intro old
  cases old with
  | none => exact codedFamily_alter [] key amount
  | some series => exact codedFamily_alter series key amount

theorem coded_applyAll (changes : List Change) :
    (coded s.counters).applyAll changes = coded (s.applyAll changes).counters := by
  induction changes generalizing s with
  | nil => rfl
  | cons c rest ih =>
    have hstep : (coded s.counters).apply c = coded (s.apply c).counters := by
      cases c with
      | increment metric key amount => exact coded_increment s metric key amount
      | observe metric key value bounds => rfl
    exact (congrArg (fun t => Coded.applyAll t rest) hstep).trans (ih (s.apply c))

theorem counter_coded (metric : String) (key : LabelKey) :
    (coded s.counters).counter metric key = s.counter metric key := by
  have hfamily : (Table.get? (coded s.counters) metric).getD [] =
      codedFamily (family s.counters metric) := by
    refine (congrArg (fun t => Option.getD t [])
      (Table.get?_map Function.injective_id s.counters metric)).trans ?_
    cases h : s.counters.get? metric <;> simp [family, h, codedFamily]
  rw [Coded.counter, hfamily, codedFamily, Table.get?_map encodeKey_injective, Store.counter_eq]
  cases (family s.counters metric).get? key <;> rfl

theorem snapshot_coded : (coded s.counters).snapshot = s.snapshot.counters := by
  simp [Coded.snapshot, coded, codedFamily, Store.snapshot, List.filter_map, Function.comp_def]

end Coded

end Telemetry.Metric
