import Telemetry.Proofs.Shutdown.Registry

/-! # Withdrawals reach as far as their name

A withdrawal takes away whatever its name holds. It therefore does what its own registration calls
for exactly where that registration is the latest of its name, or where the name holds nothing.
-/
namespace Telemetry.Shutdown

variable {σ : Type}

/-- Registrations keep their numbers. -/
theorem namesOf_append {changes : List (Change σ)} {number : Nat} {name : String}
    (h : (namesOf changes)[number]? = some name) (more : List (Change σ)) :
    (namesOf (changes ++ more))[number]? = some name := by
  obtain ⟨hlt, -⟩ := List.getElem?_eq_some_iff.mp h
  rw [namesOf, List.filterMap_append]
  exact (List.getElem?_append_left hlt).trans h

/-- What a name holds is the hook of one of its own registrations. -/
theorem namesOf_number (changes : List (Change σ)) {name : String} {held : Tenure σ}
    (h : held? changes name = some held) : (namesOf changes)[held.number]? = some name := by
  induction changes using List.reverseRecOn generalizing held with
  | nil => cases h
  | append_singleton changes c ih =>
    have hearlier : held? changes name = some held →
        (namesOf (changes ++ [c]))[held.number]? = some name :=
      fun hheld => namesOf_append (ih hheld) [c]
    cases c with
    | register other hook =>
      rw [held?_register] at h
      split at h
      · rename_i he
        obtain rfl := Option.some.inj h
        rw [namesOf_concat, he]
        exact List.getElem?_concat_length
      · exact hearlier h
    | withdraw number =>
      rw [held?_withdraw] at h
      split at h
      · cases h
      · exact hearlier h
    | reset =>
      rw [held?_reset] at h
      cases h

/-- The registry of a history without the registration of a number, if that is still in it. -/
def withoutOwn (changes : List (Change σ)) (number : Nat) : Registry σ :=
  (History.after changes).registry.filter fun e =>
    !(held? changes e.1).any fun held => held.number = number

section Withdrawal

variable {changes : List (Change σ)} {number : Nat} {name : String}

theorem History.apply_withdraw (hname : (namesOf changes)[number]? = some name) :
    (History.after changes).apply (.withdraw number) =
      { History.after changes with registry := (History.after changes).registry.erase name } := by
  have hnames : (History.after changes).names[number]? = some name := by
    rw [(keeps_after changes).names]
    exact hname
  rw [History.apply, hnames]
  rfl

/-- A name holds nothing after one of its withdrawals until it is registered again. -/
theorem held?_after_withdraw (hname : (namesOf changes)[number]? = some name)
    {more : List (Change σ)} (hmore : ∀ c ∈ more, c.name? ≠ some name) :
    held? (changes ++ .withdraw number :: more) name = none := by
  induction more using List.reverseRecOn with
  | nil => rw [held?_withdraw, if_pos hname]
  | append_singleton more c ih =>
    have hbefore := ih fun c hc => hmore c (List.mem_append_left _ hc)
    rw [← List.cons_append, ← List.append_assoc]
    cases c with
    | register other hook =>
      have hother : other ≠ name := fun he =>
        hmore _ (List.mem_append_right _ List.mem_cons_self) (congrArg some he)
      rw [held?_register, if_neg hother]
      exact hbefore
    | withdraw number =>
      rw [held?_withdraw]
      split
      · rfl
      · exact hbefore
    | reset => exact held?_reset _ _

theorem erase_eq_self_iff :
    (History.after changes).registry.erase name = (History.after changes).registry ↔
      held? changes name = none := by
  have hk := (keeps_after changes).mem_keys_iff name
  rw [Table.erase, List.filter_eq_self, ← Option.not_isSome_iff_eq_none, Option.isSome_iff_exists,
    ← hk]
  constructor
  · intro hall hmem
    obtain ⟨e, he, rfl⟩ := List.mem_map.mp hmem
    exact of_decide_eq_true (hall e he) rfl
  · intro hnot e he
    exact decide_eq_true fun heq => hnot (heq ▸ List.mem_map_of_mem he)

theorem erase_eq_withoutOwn_iff (hname : (namesOf changes)[number]? = some name) :
    (History.after changes).registry.erase name = withoutOwn changes number ↔
      ∀ held, held? changes name = some held → held.number = number := by
  have hk := keeps_after changes
  constructor
  · intro heq held hheld
    by_contra hne
    -- The hook of a later registration is kept on the one side only.
    have hget := hk.get? name
    rw [hheld] at hget
    have hown : (name, held.hook) ∈ withoutOwn changes number := by
      refine List.mem_filter.mpr ⟨Table.mem_of_get? hget, ?_⟩
      simp [hheld, hne]
    rw [← heq] at hown
    exact of_decide_eq_true (List.mem_filter.mp hown).2 rfl
  · intro hown
    refine List.filter_congr fun e he => ?_
    obtain ⟨held, hheld⟩ := (hk.mem_keys_iff e.1).mp (List.mem_map_of_mem he)
    rw [hheld, Option.any_some, ← decide_not]
    refine decide_eq_decide.mpr (not_congr ⟨fun heq => ?_, fun hnumber => ?_⟩)
    · exact hown held (heq ▸ hheld)
    · have hfirst := namesOf_number changes hheld
      rw [hnumber, hname] at hfirst
      exact (Option.some.inj hfirst).symm

end Withdrawal

/-- A withdrawal takes away what its name holds and nothing else. That is its own registration
exactly where no later one has taken the name over. A second withdrawal changes nothing exactly
where the name holds nothing, and it holds nothing as long as it has not been registered again. -/
theorem withdrawal_goes_by_name (changes : List (Change σ)) (number : Nat) (name : String)
    (hname : (namesOf changes)[number]? = some name) :
    let h := History.after changes
    (h.apply (.withdraw number)).registry = h.registry.filter (fun e => e.1 ≠ name) ∧
    ((h.apply (.withdraw number)).registry = withoutOwn changes number ↔
      ∀ held, held? changes name = some held → held.number = number) ∧
    ∀ more,
      let again := changes ++ .withdraw number :: more
      let later := History.after again
      ((later.apply (.withdraw number)).registry = later.registry ↔ held? again name = none) ∧
      ((∀ c ∈ more, c.name? ≠ some name) → held? again name = none) := by
  intro h
  have happly : (h.apply (.withdraw number)).registry = h.registry.erase name :=
    congrArg History.registry (History.apply_withdraw hname)
  refine ⟨happly, ?_, fun more => ⟨?_, held?_after_withdraw hname⟩⟩
  · rw [happly]
    exact erase_eq_withoutOwn_iff hname
  · rw [History.apply_withdraw (namesOf_append hname (.withdraw number :: more))]
    exact erase_eq_self_iff

/-- A hook that does nothing. -/
def idle : Hook Unit := fun _ s => { state := s }

/-- A name that was registered, withdrawn and registered again loses its second registration to a
second withdrawal of the first. -/
theorem withdrawal_goes_by_name_twice :
    let again : List (Change Unit) :=
      [.register "flush" idle, .register "cache" idle] ++
        .withdraw 0 :: [.register "flush" idle, .withdraw 1]
    let later := History.after again
    (later.apply (.withdraw 0)).registry ≠ later.registry := by
  intro again later hsame
  have htwice := (withdrawal_goes_by_name [.register "flush" idle, .register "cache" idle] 0 "flush"
    rfl).2.2 [.register "flush" idle, .withdraw 1]
  have hnone : held? again "flush" = none := htwice.1.mp hsame
  exact absurd hnone (Option.some_ne_none _)

/-- The withdrawal of a registration that was replaced takes the replacement away. -/
theorem stale_withdrawal_removes_successor :
    let changes : List (Change Unit) := [.register "flush" idle, .register "flush" idle]
    let h := History.after changes
    (held? changes "flush").map (·.number) = some 1 ∧ h.registry.keys = ["flush"] ∧
      (h.apply (.withdraw 0)).registry = [] := by
  exact ⟨rfl, rfl, rfl⟩

end Telemetry.Shutdown
