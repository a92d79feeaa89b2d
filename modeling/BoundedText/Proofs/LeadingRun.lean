namespace BoundedText.LeadingRun

variable {α : Type} {inside : α → Bool}

theorem split_append {run rest : List α} (within : ∀ item ∈ run, inside item = true)
    (ending : ∀ item ∈ rest.head?, inside item = false) :
    (run ++ rest).takeWhile inside = run ∧ (run ++ rest).dropWhile inside = rest := by
  rw [List.takeWhile_append_of_pos within, List.dropWhile_append_of_pos within]
  cases rest with
  | nil => simp
  | cons item rest => simp [ending item rfl]

theorem exists_split (inside : α → Bool) (items : List α) :
    ∃ run rest, run ++ rest = items ∧ (∀ item ∈ run, inside item = true) ∧
      ∀ item ∈ rest.head?, inside item = false := by
  refine ⟨items.takeWhile inside, items.dropWhile inside, List.takeWhile_append_dropWhile, ?_, ?_⟩
  · exact List.all_eq_true.mp List.all_takeWhile
  · intro item first
    obtain ⟨rest, found⟩ := List.head?_eq_some_iff.mp first
    have head := List.head_dropWhile_not (p := inside) (l := items) (by simp [found])
    simpa only [found, List.head_cons] using head

theorem length_lt_of_dropWhile {items rest : List α} {item : α} (found : items.dropWhile inside = item :: rest) :
    rest.length < items.length := by
  have dropped := (List.dropWhile_sublist inside (l := items)).length_le
  rw [found, List.length_cons] at dropped
  omega

section Stop

variable [BEq α] [LawfulBEq α] {stop : α} {front : List α}

theorem takeWhile_ne_append (plain : stop ∉ front) (rest : List α) :
    (front ++ rest).takeWhile (· != stop) = front ++ rest.takeWhile (· != stop) := by
  apply List.takeWhile_append_of_pos
  intro item member
  have other : item ≠ stop := fun same => plain (same ▸ member)
  simpa using other

theorem dropWhile_ne_append (plain : stop ∉ front) (rest : List α) :
    (front ++ rest).dropWhile (· != stop) = rest.dropWhile (· != stop) := by
  apply List.dropWhile_append_of_pos
  intro item member
  have other : item ≠ stop := fun same => plain (same ▸ member)
  simpa using other

theorem takeWhile_ne_of_not_mem (plain : stop ∉ front) : front.takeWhile (· != stop) = front := by
  have whole := takeWhile_ne_append plain []
  rwa [List.takeWhile_nil, List.append_nil] at whole

theorem dropWhile_ne_of_not_mem (plain : stop ∉ front) : front.dropWhile (· != stop) = [] := by
  have nothing := dropWhile_ne_append plain []
  rwa [List.dropWhile_nil, List.append_nil] at nothing

theorem takeWhile_ne_cons (stop : α) (rest : List α) : (stop :: rest).takeWhile (· != stop) = [] := by
  simp

theorem dropWhile_ne_cons (stop : α) (rest : List α) : (stop :: rest).dropWhile (· != stop) = stop :: rest := by
  simp

theorem takeWhile_ne_append_cons (plain : stop ∉ front) (rest : List α) :
    (front ++ stop :: rest).takeWhile (· != stop) = front := by
  rw [takeWhile_ne_append plain, takeWhile_ne_cons, List.append_nil]

theorem dropWhile_ne_append_cons (plain : stop ∉ front) (rest : List α) :
    (front ++ stop :: rest).dropWhile (· != stop) = stop :: rest := by
  rw [dropWhile_ne_append plain, dropWhile_ne_cons]

end Stop

end BoundedText.LeadingRun
