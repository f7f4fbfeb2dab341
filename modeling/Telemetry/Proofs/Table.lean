import Mathlib.Algebra.BigOperators.Group.List.Basic
import Mathlib.Algebra.GroupWithZero.Nat
import Mathlib.Data.List.Dedup
import Mathlib.Data.List.Induction
import Telemetry.Table

/-! # Tables as functions on their keys

Changing a table keeps its keys distinct, so that a table is decided by the list of its keys
together with what a look-up finds.
-/
namespace Telemetry.Table

variable {κ α : Type} [DecidableEq κ]

theorem get?_alter (t : Table κ α) (key other : κ) (f : Option α → α) :
    (t.alter key f).get? other = if key = other then some (f (t.get? key)) else t.get? other := by
  by_cases h : key = other
  · subst h
    rw [if_pos rfl]
    exact get?_alter_self t key f
  · rw [if_neg h]
    exact get?_alter_of_ne t f h

theorem keys_alter (t : Table κ α) (key : κ) (f : Option α → α) :
    (t.alter key f).keys = if key ∈ t.keys then t.keys else t.keys ++ [key] := by
  by_cases h : key ∈ t.keys
  · rw [if_pos h]
    exact keys_alter_of_mem t f h
  · rw [if_neg h]
    exact keys_alter_of_not_mem t f h

/-- A change is decided by what it makes of the value that is there. -/
theorem alter_congr (t : Table κ α) (key : κ) {f g : Option α → α}
    (h : f (t.get? key) = g (t.get? key)) : t.alter key f = t.alter key g := by
  induction t with
  | nil => exact congrArg (fun v => [(key, v)]) h
  | cons entry rest ih =>
    by_cases hk : entry.1 = key
    · have hv : f (some entry.2) = g (some entry.2) := by simpa [get?, hk] using h
      simp [alter, hk, hv]
    · have hrest : f (get? rest key) = g (get? rest key) := by simpa [get?, hk] using h
      simp [alter, hk, ih hrest]

theorem nodup_keys_alter {t : Table κ α} (h : t.keys.Nodup) (key : κ) (f : Option α → α) :
    (t.alter key f).keys.Nodup := by
  rw [keys_alter]
  split
  · exact h
  · rename_i hk
    exact h.append (List.nodup_singleton key) (by simpa using hk)

/-- A table with distinct keys lists them with what a look-up finds. -/
theorem eq_map_keys {t : Table κ α} (h : t.keys.Nodup) {f : κ → α}
    (hf : ∀ key ∈ t.keys, t.get? key = some (f key)) : t = t.keys.map fun key => (key, f key) := by
  induction t with
  | nil => rfl
  | cons entry rest ih =>
    obtain ⟨key, value⟩ := entry
    obtain ⟨hkey, hrest⟩ := List.nodup_cons.mp h
    have hv : value = f key := by
      have hk := hf key (List.mem_cons_self ..)
      simpa [get?] using hk
    have htail := ih hrest fun other ho => by
      have hne : key ≠ other := fun e => hkey (e ▸ ho)
      have hk := hf other (List.mem_cons_of_mem _ ho)
      rwa [get?, if_neg hne] at hk
    conv_lhs => rw [htail]
    rw [hv]
    rfl

theorem mem_of_get? {t : Table κ α} {key : κ} {v : α} (h : t.get? key = some v) :
    (key, v) ∈ t := by
  induction t with
  | nil => cases h
  | cons entry rest ih =>
    rw [get?] at h
    split at h
    · rename_i hk
      rw [← hk, ← Option.some.inj h]
      exact List.mem_cons_self
    · exact List.mem_cons_of_mem _ (ih h)

theorem get?_of_mem {t : Table κ α} (hnodup : t.keys.Nodup) {e : κ × α} (he : e ∈ t) :
    t.get? e.1 = some e.2 := by
  induction t with
  | nil => cases he
  | cons entry rest ih =>
    obtain ⟨key, value⟩ := entry
    obtain ⟨hkey, hrest⟩ := List.nodup_cons.mp hnodup
    rw [get?]
    rcases List.mem_cons.mp he with rfl | hmem
    · rw [if_pos rfl]
    · have hne : key ≠ e.1 := by
        rintro rfl
        have hmap : e.1 ∈ rest.map (·.1) := List.mem_map_of_mem hmem
        exact hkey hmap
      rw [if_neg hne]
      exact ih hrest hmem

theorem mem_keys_iff (t : Table κ α) (key : κ) : key ∈ t.keys ↔ (t.get? key).isSome = true := by
  induction t with
  | nil => simp [keys, get?]
  | cons entry rest ih =>
    rw [get?, keys, List.map_cons, List.mem_cons]
    by_cases h : entry.1 = key
    · simp [h]
    · rw [if_neg h, ← ih]
      exact or_iff_right fun he => h he.symm

theorem get?_erase (t : Table κ α) (key other : κ) :
    (t.erase key).get? other = if key = other then none else t.get? other := by
  induction t with
  | nil => simp [erase, get?]
  | cons entry rest ih =>
    by_cases hkey : entry.1 = key
    · have hdrop : erase (entry :: rest) key = erase rest key :=
        List.filter_cons_of_neg (by simp [hkey])
      rw [hdrop, ih, get?, hkey]
      split <;> rfl
    · have hkeep : erase (entry :: rest) key = entry :: erase rest key :=
        List.filter_cons_of_pos (by simpa using hkey)
      rw [hkeep, get?, get?, ih]
      by_cases hentry : entry.1 = other
      · rw [if_pos hentry, if_pos hentry, if_neg fun he => hkey (hentry.trans he.symm)]
      · rw [if_neg hentry, if_neg hentry]

section Entries

variable {β : Type} (add : Option α → β → α)

/-- Enters keyed amounts into a table one after another. -/
def enterAll (t : Table κ α) (entries : List (κ × β)) : Table κ α :=
  entries.foldl (fun t e => t.alter e.1 fun old => add old e.2) t

def entriesAt (key : κ) (entries : List (κ × β)) : List β :=
  (entries.filter fun e => e.1 = key).map (·.2)

theorem entriesAt_append (key : κ) (first second : List (κ × β)) :
    entriesAt key (first ++ second) = entriesAt key first ++ entriesAt key second := by
  rw [entriesAt, List.filter_append, List.map_append]
  rfl

theorem entriesAt_eq_nil_iff (key : κ) (entries : List (κ × β)) :
    entriesAt key entries = [] ↔ key ∉ entries.map (·.1) := by
  rw [entriesAt, List.map_eq_nil_iff, List.filter_eq_nil_iff, List.mem_map]
  constructor
  · rintro h ⟨e, he, hk⟩
    exact h e he (by simpa using hk)
  · intro h e he hk
    exact h ⟨e, he, by simpa using hk⟩

theorem enterAll_concat (t : Table κ α) (entries : List (κ × β)) (e : κ × β) :
    t.enterAll add (entries ++ [e]) =
      (t.enterAll add entries).alter e.1 fun old => add old e.2 := by
  simp [enterAll]

/-- A look-up finds what the amounts entered under its key have made, in order. -/
theorem get?_enterAll (t : Table κ α) (entries : List (κ × β)) (key : κ) :
    (t.enterAll add entries).get? key =
      (entriesAt key entries).foldl (fun old b => some (add old b)) (t.get? key) := by
  induction entries generalizing t with
  | nil => rfl
  | cons e rest ih =>
    refine (ih (t.alter e.1 fun old => add old e.2)).trans ?_
    rw [get?_alter]
    by_cases h : e.1 = key
    · simp [entriesAt, h]
    · simp [entriesAt, h]

/-- The different keys of a list in order of first use. -/
def distinct (keys : List κ) : List κ := keys.eraseDups

theorem mem_distinct {key : κ} {keys : List κ} : key ∈ distinct keys ↔ key ∈ keys :=
  List.mem_eraseDups

theorem distinct_concat (keys : List κ) (key : κ) :
    distinct (keys ++ [key]) =
      if key ∈ keys then distinct keys else distinct keys ++ [key] := by
  unfold distinct
  rw [List.eraseDups_append]
  by_cases h : key ∈ keys
  · simp [h, List.removeAll]
  · simp [h, List.removeAll, List.eraseDups_cons]

theorem keys_enterAll (entries : List (κ × β)) :
    (enterAll add ([] : Table κ α) entries).keys = distinct (entries.map (·.1)) := by
  induction entries using List.reverseRecOn with
  | nil => rfl
  | append_singleton before e ih =>
    rw [enterAll_concat, keys_alter, ih, List.map_append, List.map_singleton, distinct_concat]
    simp only [mem_distinct]

theorem nodup_keys_enterAll {t : Table κ α} (h : t.keys.Nodup) (entries : List (κ × β)) :
    (t.enterAll add entries).keys.Nodup := by
  induction entries generalizing t with
  | nil => exact h
  | cons e rest ih => exact ih (nodup_keys_alter h e.1 _)

theorem nodup_distinct (keys : List κ) : (distinct keys).Nodup := by
  have h := nodup_keys_enterAll (fun (_ : Option Unit) (_ : Unit) => ()) (t := ([] : Table κ Unit))
    List.nodup_nil (keys.map fun key => (key, ()))
  rwa [keys_enterAll, List.map_map, Function.comp_def, List.map_id'] at h

/-- A sum over distinct keys gains an amount where its key is among them. -/
theorem sum_map_add_at {keys : List κ} (h : keys.Nodup) (g : κ → Nat) (key : κ) (amount : Nat) :
    (keys.map fun k => g k + if key = k then amount else 0).sum =
      (keys.map g).sum + if key ∈ keys then amount else 0 := by
  induction keys with
  | nil => rfl
  | cons k rest ih =>
    obtain ⟨hk, hrest⟩ := List.nodup_cons.mp h
    rw [List.map_cons, List.sum_cons, ih hrest, List.map_cons, List.sum_cons]
    by_cases he : key = k
    · subst he
      simp [hk]
      omega
    · simp [he]
      omega

/-- Adding up by key first and over the keys then is adding up all entries. -/
theorem sum_by_key (entries : List (κ × Nat)) (p : κ → Bool) :
    (((distinct (entries.map (·.1))).filter p).map fun key => (entriesAt key entries).sum).sum =
      ((entries.filter fun e => p e.1).map (·.2)).sum := by
  induction entries using List.reverseRecOn with
  | nil => rfl
  | append_singleton before e ih =>
    -- The new entry adds to its own key, and a key that is new had no amount before.
    have hat : ∀ key, (entriesAt key (before ++ [e])).sum =
        (entriesAt key before).sum + if e.1 = key then e.2 else 0 := by
      intro key
      rw [entriesAt_append, List.sum_append]
      by_cases h : e.1 = key <;> simp [entriesAt, h]
    have hold : (((distinct ((before ++ [e]).map (·.1))).filter p).map fun key =>
        (entriesAt key before).sum).sum = ((before.filter fun e => p e.1).map (·.2)).sum := by
      rw [← ih, List.map_append, List.map_singleton, distinct_concat]
      split
      · rfl
      · rename_i h
        have hz := (entriesAt_eq_nil_iff e.1 before).mpr h
        by_cases hp : p e.1 <;> simp [hp, hz]
    have hmem : e.1 ∈ ((distinct ((before ++ [e]).map (·.1))).filter p) ↔ p e.1 = true := by
      simp [List.mem_filter, mem_distinct]
    simp only [hat]
    rw [sum_map_add_at ((nodup_distinct _).filter p), hold]
    simp only [hmem]
    rw [List.filter_append, List.map_append, List.sum_append]
    by_cases hp : p e.1 <;> simp [hp]

end Entries

section Growth

variable {β : Type} (add : Option α → β → α) (P : α → Prop) (R : α → α → Prop)

/-- An amount that makes values with `P`, and of a value with `P` one that is related to it. -/
structure Raises (b : β) : Prop where
  first : P (add none b)
  next : ∀ v, P v → P (add (some v) b) ∧ R v (add (some v) b)

variable {add P R} (hrefl : ∀ v, P v → R v v) (htrans : ∀ u v w, R u v → R v w → R u w)
include hrefl htrans

theorem foldl_raises {v : α} (hv : P v) {bs : List β} (h : ∀ b ∈ bs, Raises add P R b) :
    ∃ w, bs.foldl (fun old b => some (add old b)) (some v) = some w ∧ P w ∧ R v w := by
  induction bs generalizing v with
  | nil => exact ⟨v, rfl, hv, hrefl v hv⟩
  | cons b rest ih =>
    obtain ⟨hnext, hle⟩ := (h b List.mem_cons_self).next v hv
    obtain ⟨w, hw, hwP, hwR⟩ := ih hnext fun b hb => h b (List.mem_cons_of_mem _ hb)
    exact ⟨w, hw, hwP, htrans _ _ _ hle hwR⟩

/-- In a longer history every key is still there with a value that is related to the old one. -/
theorem enterAll_raises {before more : List (κ × β)}
    (h : ∀ e ∈ before ++ more, Raises add P R e.2) {e : κ × α}
    (he : e ∈ enterAll add [] before) :
    P e.2 ∧ ∃ w, (e.1, w) ∈ enterAll add [] (before ++ more) ∧ P w ∧ R e.2 w := by
  have hentries : ∀ entries : List (κ × β), (∀ e ∈ entries, Raises add P R e.2) →
      ∀ b ∈ entriesAt e.1 entries, Raises add P R b := by
    intro entries hall b hb
    obtain ⟨entry, hentry, rfl⟩ := List.mem_map.mp hb
    exact hall entry (List.mem_filter.mp hentry).1
  have hbefore := hentries before fun e he => h e (List.mem_append_left _ he)
  have hmore := hentries more fun e he => h e (List.mem_append_right _ he)
  have hnodup : (enterAll add ([] : Table κ α) before).keys.Nodup :=
    nodup_keys_enterAll add (t := []) List.nodup_nil before
  have hget := get?_of_mem hnodup he
  rw [get?_enterAll] at hget
  -- The value is what the first amount under the key has become.
  have hvalue : P e.2 := by
    cases hfirst : entriesAt e.1 before with
    | nil =>
      rw [hfirst] at hget
      cases hget
    | cons b rest =>
      rw [hfirst] at hget hbefore
      obtain ⟨w, hw, hwP, -⟩ := foldl_raises hrefl htrans (hbefore b List.mem_cons_self).first
        fun b hb => hbefore b (List.mem_cons_of_mem _ hb)
      obtain rfl := Option.some.inj (hw.symm.trans hget)
      exact hwP
  obtain ⟨w, hw, hwP, hwR⟩ := foldl_raises hrefl htrans hvalue hmore
  refine ⟨hvalue, w, mem_of_get? ?_, hwP, hwR⟩
  rw [get?_enterAll, entriesAt_append, List.foldl_append, hget, hw]

end Growth

section Turned

variable {ι β : Type} [DecidableEq ι] {f : κ → ι} (hf : Function.Injective f) {h : κ × α → β}
include hf

theorem get?_map (t : Table κ α) (key : κ) :
    get? (t.map fun e => (f e.1, h e)) (f key) = (t.get? key).map fun v => h (key, v) := by
  induction t with
  | nil => rfl
  | cons entry rest ih =>
    by_cases hkey : entry.1 = key
    · subst hkey
      simp [get?]
    · have hne : f entry.1 ≠ f key := hf.ne hkey
      simpa [get?, hkey, hne] using ih

/-- A change that respects what the entries are turned into. -/
theorem alter_map (t : Table κ α) (key : κ) {change : Option α → α} {changed : Option β → β}
    (hchange : ∀ old, changed (old.map fun v => h (key, v)) = h (key, change old)) :
    alter (t.map fun e => (f e.1, h e)) (f key) changed =
      (t.alter key change).map fun e => (f e.1, h e) := by
  induction t with
  | nil => simp [alter, ← hchange]
  | cons entry rest ih =>
    by_cases hkey : entry.1 = key
    · subst hkey
      simp [alter, ← hchange]
    · have hne : f entry.1 ≠ f key := hf.ne hkey
      simpa [alter, hkey, hne] using ih

end Turned

end Telemetry.Table
