/-!
**Dictionaries with text keys,** as lists of pairs. A key that is put or erased stands nowhere else
in the list, so dictionaries built from `[]` have each key at most once.

Main statements: what `get?` finds after `put` (`get?_put`), `erase` (`get?_erase`) and `update`
(`get?_update`).
-/

namespace DeviceAuth

/-- Values by key. -/
abbrev Dictionary (α : Type) := List (String × α)

namespace Dictionary

variable {α : Type}

/-- The value of a key. -/
def get? (key : String) : Dictionary α → Option α
  | [] => none
  | (other, value) :: rest => if other = key then some value else get? key rest

/-- The dictionary without a key. -/
def erase (key : String) (dictionary : Dictionary α) : Dictionary α :=
  dictionary.filter fun entry => entry.1 ≠ key

/-- The dictionary with a value for a key, in place of any other. -/
def put (key : String) (value : α) (dictionary : Dictionary α) : Dictionary α :=
  (key, value) :: erase key dictionary

/-- The dictionary with the value of a key changed, if there is one. -/
def update (key : String) (change : α → α) (dictionary : Dictionary α) : Dictionary α :=
  dictionary.map fun entry => if entry.1 = key then (entry.1, change entry.2) else entry

/-- The values, in the order of the list. -/
def values (dictionary : Dictionary α) : List α :=
  dictionary.map Prod.snd

theorem get?_erase (key other : String) (dictionary : Dictionary α) :
    get? other (erase key dictionary) = if other = key then none else get? other dictionary := by
  induction dictionary with
  | nil => simp [erase, get?]
  | cons entry rest ih =>
    obtain ⟨name, value⟩ := entry
    simp only [erase] at ih
    by_cases same : name = key
    · subst same
      by_cases found : other = name <;> simp_all [erase, get?, eq_comm]
    · by_cases found : name = other <;> simp_all [erase, get?]

/-- A key that was put has the value that was put; other keys are as before. -/
theorem get?_put (key other : String) (value : α) (dictionary : Dictionary α) :
    get? other (put key value dictionary) =
      if other = key then some value else get? other dictionary := by
  by_cases same : other = key
  · simp [put, get?, same]
  · have differs : ¬ key = other := fun equal => same equal.symm
    simp [put, get?, get?_erase, same, differs]

/-- A key that was updated has the changed value; other keys are as before. -/
theorem get?_update (key other : String) (change : α → α) (dictionary : Dictionary α) :
    get? other (update key change dictionary) =
      if other = key then (get? other dictionary).map change else get? other dictionary := by
  induction dictionary with
  | nil => simp [update, get?]
  | cons entry rest ih =>
    obtain ⟨name, value⟩ := entry
    simp only [update] at ih
    by_cases same : name = key
    · subst same
      by_cases found : other = name <;> simp_all [update, get?, eq_comm]
    · by_cases found : name = other <;> simp_all [update, get?]

/-! ### Entries -/

theorem mem_of_get? {key : String} {value : α} {dictionary : Dictionary α}
    (found : dictionary.get? key = some value) : (key, value) ∈ dictionary := by
  induction dictionary with
  | nil => cases found
  | cons entry rest ih =>
    obtain ⟨name, held⟩ := entry
    simp only [get?] at found
    split at found
    · next same =>
      cases found
      exact same ▸ List.mem_cons_self
    · exact List.mem_cons_of_mem _ (ih found)

theorem not_mem_of_get? {key : String} {value : α} {dictionary : Dictionary α}
    (absent : dictionary.get? key = none) : (key, value) ∉ dictionary := by
  induction dictionary with
  | nil => exact List.not_mem_nil
  | cons entry rest ih =>
    obtain ⟨name, held⟩ := entry
    simp only [get?] at absent
    split at absent
    · cases absent
    · next different =>
      intro member
      rcases List.mem_cons.mp member with equal | later
      · cases equal
        exact different rfl
      · exact ih absent later

/-- An entry after `put` is the one that was put, or was there. -/
theorem mem_put {key other : String} {value held : α} {dictionary : Dictionary α}
    (member : (other, held) ∈ dictionary.put key value) :
    (other, held) ∈ dictionary ∨ other = key ∧ held = value := by
  rcases List.mem_cons.mp member with equal | later
  · cases equal
    exact .inr ⟨rfl, rfl⟩
  · exact .inl (List.mem_filter.mp later).1

/-- An entry after `update` was there, or is the change of one that was. -/
theorem mem_update {key other : String} {value : α} {change : α → α} {dictionary : Dictionary α}
    (member : (other, value) ∈ dictionary.update key change) :
    ∃ held, (other, held) ∈ dictionary ∧
      (other = key ∧ value = change held ∨ other ≠ key ∧ value = held) := by
  obtain ⟨⟨name, held⟩, inside, equal⟩ := List.mem_map.mp member
  simp only at equal
  split at equal <;> cases equal
  · next same => exact ⟨_, inside, .inl ⟨same, rfl⟩⟩
  · next different => exact ⟨_, inside, .inr ⟨different, rfl⟩⟩

end Dictionary

end DeviceAuth
