import DeviceAuth.Proofs.Circuit.Growth
import DeviceAuth.Proofs.Circuit.Statement

/-!
**The hash of variables is the hash of their values.** In any circuit, whatever constraints it has
by then, hidden variables that hold any number of inputs are hashed by 330 constraints for each
input (`hash_of_variables`). The values that are computed for the products satisfy these
constraints, and the output has the hash of the inputs. Conversely any values that satisfy them,
honest or not, give the output the hash of what the variables hold.

The constraints that were there play no part in either direction: a hash adds the same on top of
them as without them (`hashOf_above`), and without them the draft is solved from the start.
-/

namespace DeviceAuth.Circuit

/-! ### Variables and their values -/

/-- Hidden variables, as combinations. -/
def hiddenAt (indices : List Nat) : List Combination :=
  indices.map fun index => Combination.ofWire (.hidden index)

/-- The assignment that is computed from given values, by constraints that bind further variables to
products. -/
def Values.computed (values : Values) (added : List Constraint) : Assignment :=
  (added.reverse.foldl Values.extend values).assignment

theorem value_hiddenAt (assignment : Assignment) (indices : List Nat) :
    (hiddenAt indices).map (Combination.value assignment) =
      indices.map fun index => assignment (.hidden index) := by
  rw [hiddenAt, List.map_map]
  exact List.map_congr_left fun index _ => value_ofWire assignment (.hidden index)

section Held

variable {values : Values} {indices : List Nat} {inputs : List Scalar}

/-- Variables that hold something are there. -/
theorem below_of_held (held : indices.map (values.hidden[·]?) = inputs.map some) :
    ∀ index ∈ indices, index < values.hidden.size := by
  intro index member
  have value : values.hidden[index]? ∈ inputs.map some :=
    held ▸ List.mem_map_of_mem member
  obtain ⟨input, _, same⟩ := List.mem_map.mp value
  exact (Array.getElem?_eq_some_iff.mp same.symm).1

theorem within_hiddenAt (held : indices.map (values.hidden[·]?) = inputs.map some) :
    ∀ block ∈ hiddenAt indices, block.Within values.hidden.size := by
  intro block member
  obtain ⟨index, there, rfl⟩ := List.mem_map.mp member
  exact .hidden (below_of_held held index there)

/-- Variables hold what they held, whatever is computed from it. -/
theorem computed_of_held (held : indices.map (values.hidden[·]?) = inputs.map some)
    (added : List Constraint) :
    indices.map (fun index => values.computed added (.hidden index)) = inputs := by
  have kept : ∀ index ∈ indices,
      values.computed added (.hidden index) = values.hidden[index]?.getD 0 := by
    intro index there
    have same := hidden_complete values ⟨0, 0, added⟩ (below_of_held held index there)
    change (values.complete ⟨0, 0, added⟩).hidden.getD index 0 = _
    rw [Array.getD_eq_getD_getElem?, same]
  calc indices.map (fun index => values.computed added (.hidden index))
      = indices.map (fun index => values.hidden[index]?.getD 0) := List.map_congr_left kept
    _ = (indices.map (values.hidden[·]?)).map (·.getD 0) := by rw [List.map_map]; rfl
    _ = inputs := by
        rw [held, List.map_map]
        exact List.map_id inputs

end Held

/-! ### The hash -/

/-- **The variables with these inputs are hashed,** by constraints on top of those that were
there. -/
structure HashesVariables (draft : Draft) (values : Values) (indices : List Nat)
    (inputs : List Scalar) (added : List Constraint) : Prop where
  constraints :
    (hashOf (hiddenAt indices) draft).2.constraints = added ++ draft.constraints
  count : added.length = 330 * inputs.length
  /-- The computed assignment keeps the inputs, and satisfies what was added. -/
  given : indices.map (fun index => values.computed added (.hidden index)) = inputs
  satisfied : ∀ constraint ∈ added, constraint.Holds (values.computed added)
  output : (hashOf (hiddenAt indices) draft).1.value (values.computed added) = Mimc.hash inputs
  /-- Whatever an assignment makes of the variables, it makes the hash of it of the output. -/
  sound : ∀ assignment : Assignment, assignment .one = 1 →
    (∀ constraint ∈ added, constraint.Holds assignment) →
      (hashOf (hiddenAt indices) draft).1.value assignment =
        Mimc.hash (indices.map fun index => assignment (.hidden index))

/-- **The hash of variables,** for any inputs, in any circuit of which the hidden variables have
values. -/
theorem hash_of_variables {draft : Draft} {values : Values} {indices : List Nat}
    {inputs : List Scalar} (valued : values.hidden.size = draft.hiddenCount)
    (held : indices.map (values.hidden[·]?) = inputs.map some) :
    ∃ added, HashesVariables draft values indices inputs added := by
  -- The circuit without its constraints, which is solved, and what the hash makes of it.
  let bare := Draft.start draft.sharedCount values.hidden.size
  let built := hashOf (hiddenAt indices) bare
  have start : Solved values bare := Solved.start values draft.sharedCount
  have within : ∀ block ∈ hiddenAt indices, block.Within bare.hiddenCount := within_hiddenAt held
  have above : hashOf (hiddenAt indices) draft = (built.1, built.2.above draft.constraints) := by
    have whole : draft = bare.above draft.constraints := by
      simp only [bare, Draft.start, Draft.above, valued, List.nil_append]
    rw [whole, hashOf_above]
    rfl
  have length : (hiddenAt indices).length = inputs.length := by
    rw [hiddenAt, List.length_map]
    simpa using congrArg List.length held
  refine ⟨built.2.constraints, ?_, ?_, computed_of_held held _, ?_, ?_, ?_⟩
  · rw [above]
    rfl
  · have grown := (grown_hashOf (hiddenAt indices) bare).constraints
    rw [length] at grown
    exact grown.trans (Nat.zero_add _)
  · exact (solved_hashOf start _ within).solved.satisfied
  · have computed := computed_hashOf start _ within
    rw [value_hiddenAt] at computed
    rw [above]
    exact computed.trans (congrArg Mimc.hash (computed_of_held held _))
  · intro assignment one satisfied
    rw [above, ← value_hiddenAt]
    exact (value_hashOf one _ bare satisfied).1

/-- Three inputs, two of them in one variable, in a circuit that has a constraint. -/
theorem hash_of_variables_square :
    (Values.mk #[] #[3, 9]).hidden.size =
        ((Draft.start 0 1).multiply (.ofWire (.hidden 0)) (.ofWire (.hidden 0))).2.hiddenCount ∧
      [0, 1, 0].map ((Values.mk #[] #[3, 9]).hidden[·]?) = ([3, 9, 3] : List Scalar).map some ∧
      ∃ added, HashesVariables
        ((Draft.start 0 1).multiply (.ofWire (.hidden 0)) (.ofWire (.hidden 0))).2
        (Values.mk #[] #[3, 9]) [0, 1, 0] [3, 9, 3] added :=
  ⟨rfl, rfl, hash_of_variables rfl rfl⟩

end DeviceAuth.Circuit
