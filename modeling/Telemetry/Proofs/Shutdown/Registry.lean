import Telemetry.Proofs.Table
import Telemetry.Shutdown

/-! # What a history leaves in the registry

A registered name keeps the place at which it entered and holds the hook that was registered last.
After every history the registry lists these names once each in the order in which they entered,
each with its hook.
-/
namespace Telemetry.Shutdown

variable {σ : Type}

/-- The name that a change registers. -/
def Change.name? : Change σ → Option String
  | .register name _ => some name
  | .withdraw _ => none
  | .reset => none

/-- The names of all registrations, in the order of their numbers. -/
def namesOf (changes : List (Change σ)) : List String := changes.filterMap Change.name?

/-- What a registered name holds: how many changes there were before it entered, and the number
and the hook of its latest registration. -/
structure Tenure (σ : Type) where
  entered : Nat
  number : Nat
  hook : Hook σ

/-- What the changes have left under a name. The latest change comes first. -/
def tenure? (name : String) : List (Change σ) → Option (Tenure σ)
  | [] => none
  | .register other hook :: earlier =>
    if other = name then
      some {
        entered := ((tenure? name earlier).map (·.entered)).getD earlier.length
        number := (namesOf earlier).length
        hook := hook }
    else tenure? name earlier
  | .withdraw number :: earlier =>
    if (namesOf earlier.reverse)[number]? = some name then none else tenure? name earlier
  | .reset :: _ => none

/-- What a history has left under a name. -/
def held? (changes : List (Change σ)) (name : String) : Option (Tenure σ) :=
  tenure? name changes.reverse

/-- The place of a registered name. Any other name would enter after all changes. -/
def place (changes : List (Change σ)) (name : String) : Nat :=
  ((held? changes name).map (·.entered)).getD changes.length

section Steps

variable (changes : List (Change σ)) (name other : String)

theorem namesOf_concat (c : Change σ) :
    namesOf (changes ++ [c]) = namesOf changes ++ c.name?.toList := by
  rw [namesOf, List.filterMap_append]
  cases h : c.name? <;> simp [namesOf, h]

theorem held?_register (hook : Hook σ) :
    held? (changes ++ [.register other hook]) name =
      if other = name then
        some { entered := place changes name, number := (namesOf changes).length, hook := hook }
      else held? changes name := by
  have hlength : (namesOf changes.reverse).length = (namesOf changes).length := by
    rw [namesOf, List.filterMap_reverse, List.length_reverse, namesOf]
  rw [held?, List.reverse_concat, tenure?, hlength, List.length_reverse]
  rfl

theorem held?_withdraw (number : Nat) :
    held? (changes ++ [.withdraw number]) name =
      if (namesOf changes)[number]? = some name then none else held? changes name := by
  rw [held?, List.reverse_concat, tenure?, List.reverse_reverse]
  rfl

theorem held?_reset : held? (changes ++ [.reset]) name = none := by
  rw [held?, List.reverse_concat, tenure?]

theorem History.after_concat (c : Change σ) :
    History.after (changes ++ [c]) = (History.after changes).apply c := by
  rw [History.after, List.foldl_concat, ← History.after]

end Steps

/-- The registry of a history holds what the changes have left, in the order of entry. -/
structure Keeps (changes : List (Change σ)) (h : History σ) : Prop where
  names : h.names = namesOf changes
  nodup : h.registry.keys.Nodup
  get? : ∀ name, h.registry.get? name = (held? changes name).map (·.hook)
  entered : ∀ name held, held? changes name = some held → held.entered < changes.length
  order : h.registry.keys.Pairwise fun a b => place changes a < place changes b

namespace Keeps

variable {changes : List (Change σ)} {h : History σ} (hk : Keeps changes h)
include hk

theorem mem_keys_iff (name : String) :
    name ∈ h.registry.keys ↔ ∃ held, held? changes name = some held := by
  rw [Table.mem_keys_iff, hk.get?, Option.isSome_map, Option.isSome_iff_exists]

theorem place_lt {name : String} (hname : name ∈ h.registry.keys) :
    place changes name < changes.length := by
  obtain ⟨held, hheld⟩ := (hk.mem_keys_iff name).mp hname
  rw [place, hheld]
  exact hk.entered name held hheld

/-- The order is kept by a change that moves none of the names that stay. -/
theorem order_of_sublist {more : List (Change σ)} {keys : List String}
    (hsub : keys.Sublist h.registry.keys)
    (hplace : ∀ name ∈ keys, place more name = place changes name) :
    keys.Pairwise fun a b => place more a < place more b := by
  refine (hk.order.sublist hsub).imp_of_mem fun ha hb hlt => ?_
  rw [hplace _ ha, hplace _ hb]
  exact hlt

theorem register (name : String) (hook : Hook σ) :
    Keeps (changes ++ [.register name hook]) (h.apply (.register name hook)) := by
  have hplace : ∀ other ∈ h.registry.keys,
      place (changes ++ [.register name hook]) other = place changes other := by
    intro other hother
    obtain ⟨held, hheld⟩ := (hk.mem_keys_iff other).mp hother
    rw [place, held?_register]
    by_cases he : name = other
    · rw [if_pos he]
      rfl
    · rw [if_neg he, place, hheld]
      rfl
  refine ⟨?_, Table.nodup_keys_alter hk.nodup _ _, fun other => ?_, fun other held hheld => ?_, ?_⟩
  · rw [namesOf_concat, History.apply, hk.names]
    rfl
  · rw [History.apply, Registry.register, Table.get?_alter, held?_register, hk.get?]
    split <;> rfl
  · have hbound : place changes other ≤ changes.length := by
      cases hbefore : held? changes other with
      | none =>
        rw [place, hbefore]
        exact Nat.le_refl _
      | some before =>
        rw [place, hbefore]
        exact Nat.le_of_lt (hk.entered other before hbefore)
    rw [held?_register] at hheld
    rw [List.length_append, List.length_singleton]
    split at hheld
    · obtain rfl := Option.some.inj hheld
      exact Nat.lt_succ_of_le hbound
    · exact Nat.lt_succ_of_lt (hk.entered other held hheld)
  · rw [History.apply, Registry.register, Table.keys_alter]
    split
    · exact hk.order_of_sublist (List.Sublist.refl _) hplace
    -- A new name enters behind all others.
    · rename_i hnew
      refine List.pairwise_append.mpr
        ⟨hk.order_of_sublist (List.Sublist.refl _) hplace, List.pairwise_singleton _ _, ?_⟩
      intro a ha b hb
      obtain rfl := List.mem_singleton.mp hb
      have hnone : held? changes b = none := by
        rw [← Option.not_isSome_iff_eq_none, Option.isSome_iff_exists]
        exact fun hheld => hnew ((hk.mem_keys_iff b).mpr hheld)
      have hlast : place (changes ++ [.register b hook]) b = changes.length := by
        rw [place, held?_register, if_pos rfl, place, hnone]
        rfl
      rw [hplace a ha, hlast]
      exact hk.place_lt ha

theorem withdraw (number : Nat) :
    Keeps (changes ++ [.withdraw number]) (h.apply (.withdraw number)) := by
  have hnames : namesOf (changes ++ [.withdraw number]) = namesOf changes := by
    rw [namesOf_concat]
    exact List.append_nil _
  have hentered : ∀ name held, held? (changes ++ [.withdraw number]) name = some held →
      held.entered < (changes ++ [Change.withdraw (σ := σ) number]).length := by
    intro name held hheld
    rw [held?_withdraw] at hheld
    split at hheld
    · cases hheld
    · rw [List.length_append]
      exact Nat.lt_succ_of_lt (hk.entered name held hheld)
  have hplace : ∀ name held, (namesOf changes)[number]? ≠ some name →
      held? changes name = some held →
      place (changes ++ [.withdraw number]) name = place changes name := by
    intro name held hne hheld
    rw [place, held?_withdraw, if_neg hne, place, hheld]
    rfl
  cases hname : (namesOf changes)[number]? with
  | none =>
    have hsame : h.apply (.withdraw number) = h := by rw [History.apply, hk.names, hname]
    rw [hsame]
    refine ⟨hk.names.trans hnames.symm, hk.nodup, fun name => ?_, hentered, ?_⟩
    · rw [held?_withdraw, hname, if_neg (Option.some_ne_none name).symm]
      exact hk.get? name
    · refine hk.order_of_sublist (List.Sublist.refl _) fun name hmem => ?_
      obtain ⟨held, hheld⟩ := (hk.mem_keys_iff name).mp hmem
      exact hplace name held (hname ▸ (Option.some_ne_none name).symm) hheld
  | some own =>
    have herase : h.apply (.withdraw number) = { h with registry := h.registry.erase own } := by
      rw [History.apply, hk.names, hname]
      rfl
    rw [herase]
    refine ⟨hk.names.trans hnames.symm, ?_, fun name => ?_, hentered, ?_⟩
    · rw [Table.keys_erase]
      exact hk.nodup.filter _
    · rw [Table.get?_erase, held?_withdraw, hname, hk.get?]
      simp only [Option.some.injEq]
      split <;> rfl
    · rw [Table.keys_erase]
      refine hk.order_of_sublist List.filter_sublist fun name hmem => ?_
      obtain ⟨hin, hne⟩ := List.mem_filter.mp hmem
      obtain ⟨held, hheld⟩ := (hk.mem_keys_iff name).mp hin
      have hother : own ≠ name := fun he => of_decide_eq_true hne he.symm
      exact hplace name held (hname ▸ fun he => hother (Option.some.inj he)) hheld

theorem reset : Keeps (changes ++ [.reset]) (h.apply .reset) where
  names := by
    rw [namesOf_concat, History.apply, hk.names]
    exact (List.append_nil _).symm
  nodup := List.nodup_nil
  get? name := by rw [held?_reset]; rfl
  entered name held hheld := by
    rw [held?_reset] at hheld
    cases hheld
  order := List.Pairwise.nil

end Keeps

/-- The registry of every history holds what the changes have left. -/
theorem keeps_after (changes : List (Change σ)) : Keeps changes (History.after changes) := by
  induction changes using List.reverseRecOn with
  | nil =>
    refine ⟨rfl, List.nodup_nil, fun _ => rfl, fun name held hheld => ?_, List.Pairwise.nil⟩
    cases hheld
  | append_singleton changes c ih =>
    rw [History.after_concat]
    cases c with
    | register name hook => exact ih.register name hook
    | withdraw number => exact ih.withdraw number
    | reset => exact ih.reset

end Telemetry.Shutdown
