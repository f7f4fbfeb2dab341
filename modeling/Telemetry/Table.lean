/-! # Tables in order of first use

A table is a list of keys with values. Changing the value of a key keeps its place, and a new
key goes to the end, so the order of a table is the order in which its keys were first used.
-/
namespace Telemetry

abbrev Table (κ α : Type) := List (κ × α)

namespace Table

variable {κ α : Type} [DecidableEq κ]

def get? : Table κ α → κ → Option α
  | [], _ => none
  | (k, v) :: rest, key => if k = key then some v else get? rest key

/-- Replaces the value of a key by a function of what was there. -/
def alter : Table κ α → κ → (Option α → α) → Table κ α
  | [], key, f => [(key, f none)]
  | (k, v) :: rest, key, f =>
    if k = key then (k, f (some v)) :: rest else (k, v) :: alter rest key f

/-- Removes a key with its value. -/
def erase (t : Table κ α) (key : κ) : Table κ α := t.filter fun entry => decide (entry.1 ≠ key)

def keys (t : Table κ α) : List κ := t.map (·.1)

theorem get?_alter_self (t : Table κ α) (key : κ) (f : Option α → α) :
    (t.alter key f).get? key = some (f (t.get? key)) := by
  induction t with
  | nil => simp [alter, get?]
  | cons entry rest ih =>
    by_cases h : entry.1 = key <;> simp [alter, get?, h, ih]

theorem get?_alter_of_ne (t : Table κ α) {key other : κ} (f : Option α → α) (h : key ≠ other) :
    (t.alter key f).get? other = t.get? other := by
  induction t with
  | nil => simp [alter, get?, h]
  | cons entry rest ih =>
    by_cases hk : entry.1 = key
    · simp [alter, get?, hk, h]
    · by_cases ho : entry.1 = other <;> simp [alter, get?, hk, ho, ih, h.symm]

theorem keys_alter_of_mem (t : Table κ α) {key : κ} (f : Option α → α) (h : key ∈ t.keys) :
    (t.alter key f).keys = t.keys := by
  induction t with
  | nil => simp [keys] at h
  | cons entry rest ih =>
    by_cases hk : entry.1 = key
    · simp [alter, keys, hk]
    · have hrest : key ∈ keys rest := by
        rcases List.mem_cons.mp h with h | h
        · exact absurd h.symm hk
        · exact h
      simpa [alter, keys, hk] using ih hrest

theorem keys_alter_of_not_mem (t : Table κ α) {key : κ} (f : Option α → α) (h : key ∉ t.keys) :
    (t.alter key f).keys = t.keys ++ [key] := by
  induction t with
  | nil => simp [alter, keys]
  | cons entry rest ih =>
    have hk : entry.1 ≠ key := fun e => h (e ▸ List.mem_cons_self)
    have hrest : key ∉ keys rest := fun m => h (List.mem_cons_of_mem _ m)
    simpa [alter, keys, hk] using ih hrest

theorem keys_erase (t : Table κ α) (key : κ) :
    (t.erase key).keys = t.keys.filter fun k => decide (k ≠ key) := by
  simp [keys, erase, List.filter_map, Function.comp_def]

end Table

end Telemetry
