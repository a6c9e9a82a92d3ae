import DeviceAuth.Field.Basic

/-!
**The field of curve coordinates and its extensions.** The base field has a prime order of 254 bits.
Adjoining `u` with `u² = -1`, then `v` with `v³ = 9 + u`, then `w` with `w² = v` gives the fields of
degree 2, 6 and 12 in which the second curve and the pairing live.
-/

namespace DeviceAuth.Curve

/-- The order of the base field. -/
def baseModulus : Nat :=
  21888242871839275222246405745257275088696311157297823662689037894645226208583

instance : @NeZero Nat Zero.ofOfNat0 baseModulus := ⟨by decide⟩

/-- An element of the base field. -/
abbrev Field1 := Fin baseModulus

/-- The arithmetic that a curve needs of its coordinates. -/
class Coordinate (F : Type) extends Add F, Sub F, Neg F, Mul F where
  /-- Zero. -/
  zero : F
  /-- One. -/
  one : F
  /-- The inverse; zero for zero. -/
  inverse : F → F
  /-- A square root, if there is one. -/
  squareRoot? : F → Option F
  /-- Whether an element is the larger of itself and its negative. -/
  isLarger : F → Bool
  decidableEq : DecidableEq F

instance {F : Type} [Coordinate F] : DecidableEq F := Coordinate.decidableEq

/-! ### The base field -/

namespace Field1

/-- The element congruent to a number. -/
def ofNat (number : Nat) : Field1 :=
  Fin.ofNat baseModulus number

/-- `a * b + c * d`, reduced once. -/
def sumOfProducts (a b c d : Field1) : Field1 :=
  ofNat (a.val * b.val + c.val * d.val)

/-- `a * b - c * d`, reduced once. -/
def differenceOfProducts (a b c d : Field1) : Field1 :=
  ofNat (a.val * b.val + c.val * (baseModulus - d.val))

/-- The sum, for which at most one subtraction reduces. -/
def sum (a b : Field1) : Field1 :=
  let total := a.val + b.val
  if small : total < baseModulus then ⟨total, small⟩
  else ⟨total - baseModulus, by have := a.isLt; have := b.isLt; omega⟩

/-- The difference, for which at most one addition reduces. -/
def difference (a b : Field1) : Field1 :=
  if ordered : b.val ≤ a.val then ⟨a.val - b.val, by have := a.isLt; omega⟩
  else ⟨a.val + baseModulus - b.val, by omega⟩

/-- The inverse, as the power to the order less two. -/
def inverse (element : Field1) : Field1 :=
  power 1 element (baseModulus - 2)

/-- A square root, if there is one: as the order is 3 modulo 4, a power gives the candidate. -/
def squareRoot? (element : Field1) : Option Field1 :=
  let candidate := power 1 element ((baseModulus + 1) / 4)
  if candidate * candidate = element then some candidate else none

/-- Whether an element, as a number, is larger than its negative. -/
def isLarger (element : Field1) : Bool :=
  (-element).val < element.val

end Field1

instance : Coordinate Field1 where
  zero := 0
  one := 1
  inverse := Field1.inverse
  squareRoot? := Field1.squareRoot?
  isLarger := Field1.isLarger
  decidableEq := inferInstance

/-! ### Degree two -/

/-- `c₀ + c₁ u` with `u² = -1`. -/
structure Field2 where
  c₀ : Field1
  c₁ : Field1
  deriving DecidableEq, Repr

namespace Field2

/-- The element of the base field as one of the extension. -/
def ofBase (element : Field1) : Field2 :=
  ⟨element, 0⟩

instance : Add Field2 := ⟨fun a b => ⟨a.c₀.sum b.c₀, a.c₁.sum b.c₁⟩⟩
instance : Sub Field2 := ⟨fun a b => ⟨a.c₀.difference b.c₀, a.c₁.difference b.c₁⟩⟩
instance : Neg Field2 := ⟨fun a => ⟨-a.c₀, -a.c₁⟩⟩
instance : Mul Field2 :=
  ⟨fun a b =>
    ⟨Field1.differenceOfProducts a.c₀ b.c₀ a.c₁ b.c₁,
      Field1.sumOfProducts a.c₀ b.c₁ a.c₁ b.c₀⟩⟩

/-- The multiple by an element of the base field. -/
def scale (factor : Field1) (element : Field2) : Field2 :=
  ⟨factor * element.c₀, factor * element.c₁⟩

/-- The inverse, by way of the norm. -/
def inverse (element : Field2) : Field2 :=
  let norm := element.c₀ * element.c₀ + element.c₁ * element.c₁
  scale norm.inverse ⟨element.c₀, -element.c₁⟩

/-- The square root with this square as the square of its first part, if it is one. -/
def rootWithFirst? (element : Field2) (firstSquare : Field1) : Option Field2 := do
  let first ← firstSquare.squareRoot?
  let candidate : Field2 := ⟨first, element.c₁ * (first + first).inverse⟩
  if candidate * candidate = element then some candidate else none

/-- A square root, if there is one. Its first part has the square `(c₀ ± norm's root) / 2`. -/
def squareRoot? (element : Field2) : Option Field2 :=
  if element.c₁ = 0 then
    match element.c₀.squareRoot? with
    | some root => some ⟨root, 0⟩
    | none => (-element.c₀).squareRoot?.map fun root => ⟨0, root⟩
  else do
    let norm ← (element.c₀ * element.c₀ + element.c₁ * element.c₁).squareRoot?
    let half := Field1.inverse 2
    match rootWithFirst? element ((element.c₀ + norm) * half) with
    | some root => some root
    | none => rootWithFirst? element ((element.c₀ - norm) * half)

/-- Whether an element is the larger of itself and its negative, by the second part first. -/
def isLarger (element : Field2) : Bool :=
  if element.c₁ = 0 then element.c₀.isLarger else element.c₁.isLarger

/-- The element `9 + u`, whose cube root is adjoined next. -/
def nonResidue : Field2 := ⟨9, 1⟩

/-- The product with `9 + u`. -/
def timesNonResidue (element : Field2) : Field2 :=
  ⟨Field1.ofNat (9 * element.c₀.val + (baseModulus - element.c₁.val)),
    Field1.ofNat (9 * element.c₁.val + element.c₀.val)⟩

end Field2

instance : Coordinate Field2 where
  zero := ⟨0, 0⟩
  one := ⟨1, 0⟩
  inverse := Field2.inverse
  squareRoot? := Field2.squareRoot?
  isLarger := Field2.isLarger
  decidableEq := inferInstance

/-! ### Degree six -/

/-- `c₀ + c₁ v + c₂ v²` with `v³ = 9 + u`. -/
structure Field6 where
  c₀ : Field2
  c₁ : Field2
  c₂ : Field2
  deriving DecidableEq, Repr

namespace Field6

instance : Add Field6 := ⟨fun a b => ⟨a.c₀ + b.c₀, a.c₁ + b.c₁, a.c₂ + b.c₂⟩⟩
instance : Sub Field6 := ⟨fun a b => ⟨a.c₀ - b.c₀, a.c₁ - b.c₁, a.c₂ - b.c₂⟩⟩
instance : Mul Field6 :=
  ⟨fun a b =>
    let p₀ := a.c₀ * b.c₀
    let p₁ := a.c₁ * b.c₁
    let p₂ := a.c₂ * b.c₂
    let cross₁₂ := (a.c₁ + a.c₂) * (b.c₁ + b.c₂) - p₁ - p₂
    let cross₀₁ := (a.c₀ + a.c₁) * (b.c₀ + b.c₁) - p₀ - p₁
    let cross₀₂ := (a.c₀ + a.c₂) * (b.c₀ + b.c₂) - p₀ - p₂
    ⟨p₀ + cross₁₂.timesNonResidue, cross₀₁ + p₂.timesNonResidue, cross₀₂ + p₁⟩⟩

/-- The product with `v`. -/
def timesV (element : Field6) : Field6 :=
  ⟨element.c₂.timesNonResidue, element.c₀, element.c₁⟩

end Field6

/-! ### Degree twelve -/

/-- `c₀ + c₁ w` with `w² = v`. -/
structure Field12 where
  c₀ : Field6
  c₁ : Field6
  deriving DecidableEq, Repr

namespace Field12

instance : Mul Field12 :=
  ⟨fun a b =>
    let low := a.c₀ * b.c₀
    let high := a.c₁ * b.c₁
    ⟨low + high.timesV, (a.c₀ + a.c₁) * (b.c₀ + b.c₁) - low - high⟩⟩

/-- One. -/
def one : Field12 :=
  ⟨⟨⟨1, 0⟩, ⟨0, 0⟩, ⟨0, 0⟩⟩, ⟨⟨0, 0⟩, ⟨0, 0⟩, ⟨0, 0⟩⟩⟩

end Field12

end DeviceAuth.Curve
