import DeviceAuth.Circuit.Basic

/-!
**What a draft demands, and when its computed values meet it.**

* `satisfied_multiply`, `satisfied_equate`: an assignment satisfies a draft with one more product or
  equation exactly when it satisfies the draft before and the product or equation holds.
* `Within count`: a combination or constraint mentions no hidden variable from `count` on. Its value
  does not change when later hidden variables get theirs.
* `Solved initial draft`: the values computed from the initial ones satisfy the draft. A product
  keeps this whatever it multiplies (`Solved.multiply`); an equation keeps it if its two sides have
  the same computed value (`Solved.equate`).
-/

namespace DeviceAuth.Circuit

/-! ### One constraint more -/

@[simp] theorem value_ofWire (assignment : Assignment) (wire : Wire) :
    (Combination.ofWire wire).value assignment = assignment wire := by
  simp only [Combination.ofWire, Combination.value]
  grind

/-- A constant is a multiple of the constant one. -/
theorem value_ofScalar {assignment : Assignment} (one : assignment .one = 1) (constant : Scalar) :
    (Combination.ofScalar constant).value assignment = constant := by
  simp only [Combination.ofScalar, Combination.value, one]
  grind

/-- An assignment satisfies a product if the new variable has the product as its value. -/
theorem satisfied_multiply (draft : Draft) (left right : Combination) (assignment : Assignment) :
    (draft.multiply left right).2.Satisfied assignment ↔
      left.value assignment * right.value assignment = assignment (.hidden draft.hiddenCount) ∧
        draft.Satisfied assignment := by
  simp only [Draft.multiply, Draft.Satisfied, List.forall_mem_cons, Constraint.Holds, value_ofWire]

/-- An assignment satisfies an equation if both sides have the same value. -/
theorem satisfied_equate (draft : Draft) (first second : Combination) {assignment : Assignment}
    (one : assignment .one = 1) :
    (draft.equate first second).Satisfied assignment ↔
      first.value assignment = second.value assignment ∧ draft.Satisfied assignment := by
  simp only [Draft.equate, Draft.Satisfied, List.forall_mem_cons, Constraint.Holds, value_ofWire,
    Combination.value_add, Combination.value_scale, Combination.value, one]
  have difference : (first.value assignment + -1 * second.value assignment) * 1 = 0 ↔
      first.value assignment = second.value assignment := by
    constructor <;> intro equal <;> grind
  rw [difference]

/-! ### Variables that are not there yet -/

/-- A combination of variables of which the hidden ones come before a number. -/
def Combination.Within (count : Nat) (combination : Combination) : Prop :=
  ∀ factor index, (factor, Wire.hidden index) ∈ combination → index < count

namespace Combination.Within

variable {count larger : Nat} {first second : Combination}

theorem mono (within : first.Within count) (le : count ≤ larger) : first.Within larger :=
  fun factor index member => Nat.lt_of_lt_of_le (within factor index member) le

theorem nil : Combination.Within count [] :=
  fun _ _ member => nomatch member

theorem shared (index : Nat) : (Combination.ofWire (.shared index)).Within count := by
  simp [Combination.Within, Combination.ofWire]

theorem hidden {index : Nat} (below : index < count) :
    (Combination.ofWire (.hidden index)).Within count := by
  intro factor other member
  simp only [Combination.ofWire, List.mem_singleton, Prod.mk.injEq, Wire.hidden.injEq] at member
  omega

theorem one : (Combination.ofWire .one).Within count := by
  simp [Combination.Within, Combination.ofWire]

theorem constant (value : Scalar) : (Combination.ofScalar value).Within count := by
  simp [Combination.Within, Combination.ofScalar]

theorem addTerm {factor : Scalar} {wire : Wire} (within : first.Within count)
    (inside : ∀ index, wire = .hidden index → index < count) :
    (Combination.addTerm factor wire first).Within count := by
  induction first with
  | nil =>
    intro other index member
    simp only [Combination.addTerm, List.mem_singleton, Prod.mk.injEq] at member
    exact inside index member.2.symm
  | cons term rest ih =>
    obtain ⟨leading, head⟩ := term
    have restWithin : Combination.Within count rest :=
      fun factor index member => within factor index (List.mem_cons_of_mem _ member)
    unfold Combination.addTerm
    split
    · next same =>
      intro other index member
      rcases List.mem_cons.mp member with equal | later
      · cases equal
        exact inside index same.symm
      · exact restWithin other index later
    · intro other index member
      rcases List.mem_cons.mp member with equal | later
      · exact within other index (equal ▸ List.mem_cons_self)
      · exact ih restWithin other index later

theorem add (firstWithin : first.Within count) (secondWithin : second.Within count) :
    (first.add second).Within count := by
  induction second generalizing first with
  | nil => exact firstWithin
  | cons term rest ih =>
    obtain ⟨factor, wire⟩ := term
    have restWithin : Combination.Within count rest :=
      fun factor index member => secondWithin factor index (List.mem_cons_of_mem _ member)
    refine ih (firstWithin.addTerm fun index same => ?_) restWithin
    subst same
    exact secondWithin factor index List.mem_cons_self

theorem scale (factor : Scalar) (within : first.Within count) :
    (first.scale factor).Within count := by
  intro other index member
  obtain ⟨⟨inner, wire⟩, inside, equal⟩ := List.mem_map.mp member
  cases equal
  exact within inner index inside

/-- Assignments that agree on the variables of a combination give it the same value. -/
theorem value_congr {assignment other : Assignment} (within : first.Within count)
    (one : other .one = assignment .one)
    (shared : ∀ index, other (.shared index) = assignment (.shared index))
    (hidden : ∀ index < count, other (.hidden index) = assignment (.hidden index)) :
    first.value other = first.value assignment := by
  induction first with
  | nil => rfl
  | cons term rest ih =>
    obtain ⟨factor, wire⟩ := term
    have restWithin : Combination.Within count rest :=
      fun factor index member => within factor index (List.mem_cons_of_mem _ member)
    have here : other wire = assignment wire := by
      cases wire with
      | one => exact one
      | shared index => exact shared index
      | hidden index => exact hidden index (within factor index List.mem_cons_self)
    simp only [Combination.value, here, ih restWithin]

end Combination.Within

/-- A constraint between combinations of which the hidden variables come before a number. -/
structure Constraint.Within (count : Nat) (constraint : Constraint) : Prop where
  left : constraint.left.Within count
  right : constraint.right.Within count
  output : constraint.output.Within count

/-! ### Computed values -/

/-- A constraint pushes at most one value. -/
theorem extend_eq (values : Values) (constraint : Constraint) :
    values.extend constraint = values ∨
      ∃ product, values.extend constraint =
        { values with hidden := values.hidden.push product } := by
  unfold Values.extend
  split
  · exact .inr ⟨_, rfl⟩
  · exact .inl rfl

/-- Public variables keep their values. -/
theorem shared_complete (values : Values) (draft : Draft) :
    (values.complete draft).shared = values.shared := by
  unfold Values.complete
  generalize draft.constraints.reverse = constraints
  induction constraints generalizing values with
  | nil => rfl
  | cons constraint rest ih =>
    rw [List.foldl_cons, ih]
    rcases extend_eq values constraint with same | ⟨product, pushed⟩
    · rw [same]
    · rw [pushed]

/-- Hidden variables that have a value keep it. -/
theorem hidden_complete (values : Values) (draft : Draft) {index : Nat}
    (below : index < values.hidden.size) :
    (values.complete draft).hidden[index]? = values.hidden[index]? := by
  unfold Values.complete
  generalize draft.constraints.reverse = constraints
  induction constraints generalizing values with
  | nil => rfl
  | cons constraint rest ih =>
    rw [List.foldl_cons]
    rcases extend_eq values constraint with same | ⟨product, pushed⟩
    · rw [same, ih values below]
    · rw [pushed, ih _ (by simpa using Nat.lt_succ_of_lt below)]
      simp [Array.getElem?_push, Nat.ne_of_lt below]

/-- A value that is pushed changes none that was there. -/
theorem Combination.Within.value_push {values : Values} {combination : Combination}
    (within : combination.Within values.hidden.size) (product : Scalar) :
    combination.value { values with hidden := values.hidden.push product }.assignment =
      combination.value values.assignment := by
  refine within.value_congr rfl (fun _ => rfl) fun index below => ?_
  simp [Values.assignment, Array.getD_eq_getD_getElem?, Array.getElem?_push,
    Nat.ne_of_lt below]

/-- **The values computed from the initial ones satisfy the draft.** -/
structure Solved (initial : Values) (draft : Draft) : Prop where
  /-- Every hidden variable has got a value. -/
  size : (initial.complete draft).hidden.size = draft.hiddenCount
  /-- No constraint mentions a variable that is not there yet. -/
  within : ∀ constraint ∈ draft.constraints, constraint.Within draft.hiddenCount
  satisfied : draft.Satisfied (initial.complete draft).assignment

namespace Solved

variable {initial : Values} {draft : Draft} {left right first second : Combination}

/-- A draft without constraints is solved by the initial values. -/
theorem start (initial : Values) (sharedCount : Nat) :
    Solved initial (Draft.start sharedCount initial.hidden.size) where
  size := rfl
  within _ member := nomatch member
  satisfied _ member := nomatch member

/-- The values after a product: the product of the computed values is pushed. -/
theorem complete_multiply (solved : Solved initial draft) :
    initial.complete (draft.multiply left right).2 =
      { initial.complete draft with
        hidden := (initial.complete draft).hidden.push
          (left.value (initial.complete draft).assignment
            * right.value (initial.complete draft).assignment) } := by
  have size := solved.size
  simp only [Values.complete] at size ⊢
  simp only [Draft.multiply, List.reverse_cons, List.foldl_append, List.foldl_cons, List.foldl_nil,
    Values.extend, size, if_true]

/-- An equation gives no variable a value. -/
theorem complete_equate :
    initial.complete (draft.equate first second) = initial.complete draft := by
  simp [Values.complete, Draft.equate, Values.extend, Combination.ofWire]

/-- A draft that was satisfied stays so when a value is pushed. -/
theorem satisfied_push (solved : Solved initial draft) (product : Scalar) :
    draft.Satisfied { initial.complete draft with
      hidden := (initial.complete draft).hidden.push product }.assignment := by
  intro constraint member
  have within := solved.within constraint member
  rw [← solved.size] at within
  have before := solved.satisfied constraint member
  simp only [Constraint.Holds] at before ⊢
  rw [within.left.value_push, within.right.value_push, within.output.value_push, before]

/-- **A product is solved** by the product of the computed values. -/
theorem multiply (solved : Solved initial draft) (leftWithin : left.Within draft.hiddenCount)
    (rightWithin : right.Within draft.hiddenCount) :
    Solved initial (draft.multiply left right).2 where
  size := by
    rw [solved.complete_multiply, Array.size_push, solved.size]
    rfl
  within constraint member := by
    rcases List.mem_cons.mp member with rfl | member
    · exact ⟨leftWithin.mono (Nat.le_succ _), rightWithin.mono (Nat.le_succ _),
        .hidden (Nat.lt_succ_self _)⟩
    · have within := solved.within constraint member
      exact ⟨within.left.mono (Nat.le_succ _), within.right.mono (Nat.le_succ _),
        within.output.mono (Nat.le_succ _)⟩
  satisfied := by
    rw [solved.complete_multiply, satisfied_multiply]
    refine ⟨?_, solved.satisfied_push _⟩
    rw [← solved.size] at leftWithin rightWithin
    rw [leftWithin.value_push, rightWithin.value_push, ← solved.size]
    simp [Values.assignment, Array.getD_eq_getD_getElem?]

/-- **An equation is solved** if both sides have the same computed value. -/
theorem equate (solved : Solved initial draft) (firstWithin : first.Within draft.hiddenCount)
    (secondWithin : second.Within draft.hiddenCount)
    (equal : first.value (initial.complete draft).assignment =
      second.value (initial.complete draft).assignment) :
    Solved initial (draft.equate first second) where
  size := by
    rw [complete_equate]
    exact solved.size
  within constraint member := by
    rcases List.mem_cons.mp member with rfl | member
    · exact ⟨firstWithin.add (secondWithin.scale _), .one, .nil⟩
    · exact solved.within constraint member
  satisfied := by
    rw [complete_equate, satisfied_equate _ _ _ rfl]
    exact ⟨equal, solved.satisfied⟩

end Solved

end DeviceAuth.Circuit
