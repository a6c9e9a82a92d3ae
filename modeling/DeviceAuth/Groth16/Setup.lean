import DeviceAuth.Circuit.Basic
import DeviceAuth.Curve.Multiple
import DeviceAuth.Field.Transform
import DeviceAuth.Groth16.Key

/-!
**Keys for a circuit.** The constraints of a circuit are rows over a domain of roots of unity; each
variable has three polynomials, whose values on the domain are its factors on the left, on the right
and in the output of the rows. One more row for each public variable keeps their left polynomials
independent. The keys hold these polynomials at a secret point, in the exponent.
-/

namespace DeviceAuth.Groth16

open Circuit Curve

/-- The secrets from which keys are made. They must be forgotten afterwards. -/
structure Trapdoor where
  /-- The point at which the polynomials are taken; outside the domain. -/
  point : Scalar
  alpha : Scalar
  beta : Scalar
  gamma : Scalar
  delta : Scalar

/-- The place of a variable among all: the constant, the public ones, the hidden ones. -/
def placeOf (sharedCount : Nat) : Wire → Nat
  | .one => 0
  | .shared index => index + 1
  | .hidden index => index + sharedCount + 1

/-- How many variables a circuit has, the constant included. -/
def variableCount (draft : Draft) : Nat :=
  draft.sharedCount + draft.hiddenCount + 1

/-- How many rows a circuit needs. -/
def rowCount (draft : Draft) : Nat :=
  draft.constraints.length + draft.sharedCount + 1

/-- The exponent of the smallest power of two that is not smaller. -/
def exponentFor (size : Nat) : Nat :=
  if size ≤ 1 then 0 else (size - 1).log2 + 1

/-- The constraints of a circuit, the oldest first. -/
def rowsOf (draft : Draft) : List Constraint :=
  draft.constraints.reverse

/-- The basis polynomials of a domain at a point: `Lᵢ(x) = (xⁿ - 1) ωⁱ / (n (x - ωⁱ))`. -/
def basisAt (exponent : Nat) (point : Scalar) : List Scalar :=
  let size := domainSize exponent
  let factor := (power 1 point size - 1) * (Scalar.ofNat size).inverse
  (powersFrom 1 (rootOfUnity exponent) size).map fun root =>
    factor * root * (point - root).inverse

/-- Adds a weighted row of factors to the values of the variables. -/
def addRow (sharedCount : Nat) (weight : Scalar) (values : Array Scalar) (row : Combination) :
    Array Scalar :=
  row.foldl
    (fun values (factor, wire) =>
      values.modify (placeOf sharedCount wire) fun value => value + weight * factor)
    values

/-- The values of the variables' polynomials, for one side of the rows. -/
def sideAt (draft : Draft) (basis : List Scalar) (side : Constraint → Combination) :
    Array Scalar :=
  ((rowsOf draft).zip basis).foldl
    (fun values (row, weight) => addRow draft.sharedCount weight values (side row))
    (Array.replicate (variableCount draft) 0)

/-- The values of the left polynomials, with the rows of the public variables. -/
def leftAt (draft : Draft) (basis : List Scalar) : Array Scalar :=
  let extra := (basis.drop draft.constraints.length).take (draft.sharedCount + 1)
  extra.zipIdx.foldl
    (fun values (weight, place) => values.modify place fun value => value + weight)
    (sideAt draft basis Constraint.left)

/-- The proving key of a circuit, with its verifying key. -/
def setup (draft : Draft) (trapdoor : Trapdoor) : ProvingKey :=
  let exponent := exponentFor (rowCount draft)
  let basis := basisAt exponent trapdoor.point
  let left := (leftAt draft basis).toList
  let right := (sideAt draft basis Constraint.right).toList
  let output := (sideAt draft basis Constraint.output).toList
  let combined := (left.zip (right.zip output)).map fun (l, r, o) =>
    trapdoor.beta * l + trapdoor.alpha * r + o
  let table1 := tableOf (Weighted.ofPoint generator1) digitCount
  let table2 := tableOf (Weighted.ofPoint generator2) digitCount
  let overGamma := trapdoor.gamma.inverse
  let overDelta := trapdoor.delta.inverse
  let vanishing := (power 1 trapdoor.point (domainSize exponent) - 1) * overDelta
  { verifyingKey := {
      alpha := table1.multiple trapdoor.alpha
      beta := table2.multiple trapdoor.beta
      gamma := table2.multiple trapdoor.gamma
      delta := table2.multiple trapdoor.delta
      inputs := (combined.take (draft.sharedCount + 1)).map fun value =>
        table1.multiple (value * overGamma) }
    beta := table1.multiple trapdoor.beta
    delta := table1.multiple trapdoor.delta
    leftQuery := left.map table1.multiple
    rightQuery1 := right.map table1.multiple
    rightQuery2 := right.map table2.multiple
    quotientQuery :=
      (powersFrom vanishing trapdoor.point (domainSize exponent - 1)).map table1.multiple
    hiddenQuery := (combined.drop (draft.sharedCount + 1)).map fun value =>
      table1.multiple (value * overDelta) }

end DeviceAuth.Groth16
