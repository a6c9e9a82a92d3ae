/-!
**Sequences of steps that can fail.** What the outcome of a sequence says of its first step, and of
what follows.
-/

namespace DeviceAuth

variable {ε α β : Type} {first : Except ε α} {rest : α → Except ε β}

/-- A sequence that succeeds has succeeded first, and then in what follows. -/
theorem Except.of_bind_eq_ok {value : β} (succeeded : first >>= rest = .ok value) :
    ∃ midway, first = .ok midway ∧ rest midway = .ok value := by
  rcases first with _ | midway
  · cases succeeded
  · exact ⟨midway, rfl, succeeded⟩

/-- A sequence that fails has failed first, or in what follows. -/
theorem Except.of_bind_eq_error {error : ε} (failed : first >>= rest = .error error) :
    first = .error error ∨ ∃ midway, first = .ok midway ∧ rest midway = .error error := by
  rcases first with _ | midway
  · cases failed
    exact .inl rfl
  · exact .inr ⟨midway, rfl, failed⟩

/-- What succeeds with its errors reworded succeeds by itself. -/
theorem Except.of_mapError_eq_ok {ε' : Type} {reword : ε → ε'} {value : α}
    (succeeded : first.mapError reword = .ok value) : first = .ok value := by
  rcases first with _ | value
  · cases succeeded
  · cases succeeded
    rfl

/-- A value that is changed is the change of a value. -/
theorem Except.of_map_eq_ok {change : α → β} {value : β} (succeeded : first.map change = .ok value) :
    ∃ original, first = .ok original ∧ change original = value := by
  rcases first with _ | original
  · cases succeeded
  · exact ⟨original, rfl, Except.ok.inj succeeded⟩

/-- What fails with its value changed fails by itself. -/
theorem Except.of_map_eq_error {change : α → β} {error : ε}
    (failed : first.map change = .error error) : first = .error error := by
  rcases first with _ | original
  · cases failed
    rfl
  · cases failed

end DeviceAuth
