/-! # Splitting texts

Splitting keeps every part, the empty ones too: one more part than there are separators.
-/
namespace Telemetry.Text

/-- The parts between the characters of a class. -/
def splitWhere (p : Char → Bool) : List Char → List (List Char)
  | [] => [[]]
  | c :: rest =>
    if p c then [] :: splitWhere p rest
    else match splitWhere p rest with
      | part :: parts => (c :: part) :: parts
      | [] => [[c]]

theorem splitWhere_eq_splitOnP (p : Char → Bool) (cs : List Char) :
    splitWhere p cs = cs.splitOnP p := by
  induction cs with
  | nil => rw [splitWhere, List.splitOnP_nil]
  | cons c rest ih =>
    rw [splitWhere, List.splitOnP_cons_eq_if_modifyHead, ih]
    cases hsplit : rest.splitOnP p with
    | nil => exact absurd hsplit (List.splitOnP_ne_nil p rest)
    | cons part parts => rfl

theorem splitWhere_ne_nil (p : Char → Bool) (cs : List Char) : splitWhere p cs ≠ [] := by
  rw [splitWhere_eq_splitOnP]
  exact List.splitOnP_ne_nil p cs

theorem splitWhere_append {p : Char → Bool} {part : List Char} (h : ∀ c ∈ part, p c = false)
    {c : Char} (hc : p c = true) (rest : List Char) :
    splitWhere p (part ++ c :: rest) = part :: splitWhere p rest := by
  rw [splitWhere_eq_splitOnP, splitWhere_eq_splitOnP]
  exact List.splitOnP_append_cons_of_forall_mem h c hc rest

/-- A part of a text has its characters from the text, and none of them separates. -/
theorem mem_of_mem_splitWhere {p : Char → Bool} {cs part : List Char}
    (hpart : part ∈ splitWhere p cs) : ∀ c ∈ part, c ∈ cs ∧ p c = false := by
  induction cs generalizing part with
  | nil =>
    rw [splitWhere, List.mem_singleton] at hpart
    simp [hpart]
  | cons d rest ih =>
    have hmore : ∀ part ∈ splitWhere p rest, ∀ c ∈ part, c ∈ d :: rest ∧ p c = false :=
      fun part hpart c hc => ⟨List.mem_cons_of_mem _ (ih hpart c hc).1, (ih hpart c hc).2⟩
    rw [splitWhere] at hpart
    split at hpart
    · rcases List.mem_cons.mp hpart with rfl | hpart
      · simp
      · exact hmore part hpart
    · rename_i hd
      split at hpart
      · rename_i first parts hsplit
        rw [hsplit, List.forall_mem_cons] at hmore
        rcases List.mem_cons.mp hpart with rfl | hpart
        · intro c hc
          rcases List.mem_cons.mp hc with rfl | hc
          · exact ⟨List.mem_cons_self, by simpa using hd⟩
          · exact hmore.1 c hc
        · exact hmore.2 part hpart
      · rename_i hsplit
        exact absurd hsplit (splitWhere_ne_nil p rest)

/-- Every character of a text separates or is in a part. -/
theorem exists_part_of_mem {p : Char → Bool} {cs : List Char} {c : Char} (h : c ∈ cs) :
    p c = true ∨ ∃ part ∈ splitWhere p cs, c ∈ part := by
  induction cs with
  | nil => cases h
  | cons d rest ih =>
    rw [splitWhere]
    split
    · rename_i hd
      rcases List.mem_cons.mp h with rfl | h
      · exact .inl hd
      · refine (ih h).imp_right ?_
        rintro ⟨part, hpart, hc⟩
        exact ⟨part, List.mem_cons_of_mem _ hpart, hc⟩
    · split
      · rename_i first parts hsplit
        rcases List.mem_cons.mp h with rfl | h
        · exact .inr ⟨c :: first, List.mem_cons_self, List.mem_cons_self⟩
        · refine (ih h).imp_right ?_
          rintro ⟨part, hpart, hc⟩
          rw [hsplit, List.mem_cons] at hpart
          rcases hpart with rfl | hpart
          · exact ⟨d :: part, List.mem_cons_self, List.mem_cons_of_mem _ hc⟩
          · exact ⟨part, List.mem_cons_of_mem _ hpart, hc⟩
      · rename_i hsplit
        exact absurd hsplit (splitWhere_ne_nil p rest)

end Telemetry.Text
