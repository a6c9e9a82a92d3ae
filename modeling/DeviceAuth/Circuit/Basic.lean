import DeviceAuth.Field.Basic

/-!
**Arithmetic circuits as data.** A circuit has public variables, hidden variables, and constraints
`left * right = output` between linear combinations of them. A draft is a circuit under
construction: taking a product adds one hidden variable and one constraint, equating two
combinations adds one constraint, and sums add nothing.

Main statements: a sum of combinations has the sum of their values (`value_add`), whatever the
assignment; so has a multiple (`value_scale`).
-/

namespace DeviceAuth.Circuit

/-- A variable of a circuit, as the wire that carries it. -/
inductive Wire where
  /-- The constant one. -/
  | one
  /-- A public variable. -/
  | shared (index : Nat)
  /-- A hidden variable. -/
  | hidden (index : Nat)
  deriving DecidableEq, Repr

/-- A value for each variable. -/
abbrev Assignment := Wire → Scalar

/-- A sum of multiples of variables. -/
abbrev Combination := List (Scalar × Wire)

namespace Combination

/-- The value of a combination. -/
def value (assignment : Assignment) : Combination → Scalar
  | [] => 0
  | (factor, wire) :: rest => factor * assignment wire + value assignment rest

/-- The combination that is one variable. -/
def ofWire (wire : Wire) : Combination :=
  [(1, wire)]

/-- The combination that is a constant. -/
def ofScalar (constant : Scalar) : Combination :=
  [(constant, .one)]

/-- Adds one multiple of a variable, to the multiple of the same variable if there is one. -/
def addTerm (factor : Scalar) (wire : Wire) : Combination → Combination
  | [] => [(factor, wire)]
  | (first, other) :: rest =>
    if other = wire then (first + factor, other) :: rest
    else (first, other) :: addTerm factor wire rest

/-- The sum of two combinations. -/
def add (first : Combination) : Combination → Combination
  | [] => first
  | (factor, wire) :: rest => add (addTerm factor wire first) rest

/-- The multiple of a combination. -/
def scale (factor : Scalar) (combination : Combination) : Combination :=
  combination.map fun (inner, wire) => (factor * inner, wire)

end Combination

/-- A constraint `left * right = output`. -/
structure Constraint where
  left : Combination
  right : Combination
  output : Combination

/-- Whether an assignment satisfies a constraint. -/
def Constraint.Holds (assignment : Assignment) (constraint : Constraint) : Prop :=
  constraint.left.value assignment * constraint.right.value assignment
    = constraint.output.value assignment

instance (assignment : Assignment) (constraint : Constraint) :
    Decidable (constraint.Holds assignment) :=
  inferInstanceAs (Decidable (_ = _))

/-- A circuit under construction. -/
structure Draft where
  /-- How many public variables there are. -/
  sharedCount : Nat
  /-- How many hidden variables there are. -/
  hiddenCount : Nat
  /-- The constraints, the latest first. -/
  constraints : List Constraint

namespace Draft

/-- The circuit with so many variables and no constraint. -/
def start (sharedCount hiddenCount : Nat) : Draft :=
  ⟨sharedCount, hiddenCount, []⟩

/-- Takes the product of two combinations: the new hidden variable, and the circuit in which it is
bound to the product. -/
def multiply (draft : Draft) (left right : Combination) : Combination × Draft :=
  let product := Combination.ofWire (.hidden draft.hiddenCount)
  (product,
    { draft with
      hiddenCount := draft.hiddenCount + 1
      constraints := ⟨left, right, product⟩ :: draft.constraints })

/-- Binds two combinations to each other. -/
def equate (draft : Draft) (first second : Combination) : Draft :=
  { draft with
    constraints :=
      ⟨first.add (second.scale (-1)), Combination.ofWire .one, []⟩ :: draft.constraints }

/-- Whether an assignment satisfies all constraints. -/
def Satisfied (draft : Draft) (assignment : Assignment) : Prop :=
  ∀ constraint ∈ draft.constraints, constraint.Holds assignment

instance (draft : Draft) (assignment : Assignment) : Decidable (draft.Satisfied assignment) :=
  inferInstanceAs (Decidable (∀ constraint ∈ draft.constraints, constraint.Holds assignment))

end Draft

/-! ### Computed values -/

/-- Values for the public variables and for the hidden ones. -/
structure Values where
  shared : Array Scalar
  hidden : Array Scalar

namespace Values

/-- The value of each variable, zero for those that have none. -/
def assignment (values : Values) : Assignment
  | .one => 1
  | .shared index => values.shared.getD index 0
  | .hidden index => values.hidden.getD index 0

/-- Gives the next hidden variable the product that the constraint binds it to. -/
def extend (values : Values) (constraint : Constraint) : Values :=
  if constraint.output = Combination.ofWire (.hidden values.hidden.size) then
    let product :=
      constraint.left.value values.assignment * constraint.right.value values.assignment
    { values with hidden := values.hidden.push product }
  else values

/-- Gives each hidden variable that is a product its value, in the order of the products. -/
def complete (values : Values) (draft : Draft) : Values :=
  draft.constraints.reverse.foldl extend values

end Values

/-! ### Values of combinations -/

namespace Combination

theorem value_addTerm (assignment : Assignment) (factor : Scalar) (wire : Wire)
    (combination : Combination) :
    (addTerm factor wire combination).value assignment =
      combination.value assignment + factor * assignment wire := by
  induction combination with
  | nil =>
    simp only [addTerm, value]
    grind
  | cons term rest ih =>
    obtain ⟨first, other⟩ := term
    by_cases same : other = wire
    · subst same
      simp only [addTerm, if_pos, value]
      grind
    · simp only [addTerm, if_neg same, value, ih]
      grind

/-- A sum of combinations has the sum of their values. -/
theorem value_add (assignment : Assignment) (first second : Combination) :
    (first.add second).value assignment = first.value assignment + second.value assignment := by
  induction second generalizing first with
  | nil => simp [add, value]
  | cons term rest ih =>
    obtain ⟨factor, wire⟩ := term
    simp only [add, value, ih, value_addTerm]
    grind

/-- A multiple of a combination has the multiple of its value. -/
theorem value_scale (assignment : Assignment) (factor : Scalar) (combination : Combination) :
    (combination.scale factor).value assignment = factor * combination.value assignment := by
  induction combination with
  | nil =>
    simp only [scale, List.map_nil, value]
    grind
  | cons term rest ih =>
    obtain ⟨inner, wire⟩ := term
    simp only [scale, List.map_cons, value] at ih ⊢
    rw [ih]
    grind

end Combination

end DeviceAuth.Circuit
