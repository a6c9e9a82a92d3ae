import DeviceAuth.Groth16.Setup

/-!
**Making proofs.** The values of all variables give, row by row, the values of three polynomials on
the domain. Where the constraints hold, left times right less output is divisible by the polynomial
that vanishes on the domain; the quotient is computed on a shifted domain, where the divisor is a
constant.
-/

namespace DeviceAuth.Groth16

open Circuit Curve

/-- The two random values that blind a proof. -/
structure Blinding where
  left : Scalar
  right : Scalar

/-- A list filled up with zeros. -/
def padTo (size : Nat) (values : List Scalar) : List Scalar :=
  values ++ List.replicate (size - values.length) 0

/-- The coefficients of the quotient. -/
def quotient (draft : Draft) (values : Values) : List Scalar :=
  let exponent := exponentFor (rowCount draft)
  let size := domainSize exponent
  let root := rootOfUnity exponent
  let assignment := values.assignment
  let rows := rowsOf draft
  let left := padTo size (rows.map (fun row => row.left.value assignment)
    ++ 1 :: values.shared.toList)
  let right := padTo size (rows.map fun row => row.right.value assignment)
  let output := padTo size (rows.map fun row => row.output.value assignment)
  let shifted (side : List Scalar) : List Scalar :=
    transform root (stretch 5 (interpolate root side))
  let divisor := (power (1 : Scalar) 5 size - 1).inverse
  let values := (shifted left).zip ((shifted right).zip (shifted output))
  stretch (Scalar.inverse 5)
    (interpolate root (values.map fun (l, r, o) => (l * r - o) * divisor))

/-- The values of all variables, in their order. -/
def allValues (values : Values) : List Scalar :=
  1 :: values.shared.toList ++ values.hidden.toList

/-- A proof that the values satisfy the circuit. -/
def prove (key : ProvingKey) (draft : Draft) (values : Values) (blinding : Blinding) : Proof :=
  let all := allValues values
  let a := sumOfMultiples
    ((1, key.verifyingKey.alpha) :: (blinding.left, key.delta) :: all.zip key.leftQuery)
  let b₁ := sumOfMultiples
    ((1, key.beta) :: (blinding.right, key.delta) :: all.zip key.rightQuery1)
  let b₂ := sumOfMultiples
    ((1, key.verifyingKey.beta) :: (blinding.right, key.verifyingKey.delta)
      :: all.zip key.rightQuery2)
  let aPoint := a.toPoint
  let c := sumOfMultiples
    ((blinding.right, aPoint) :: (blinding.left, b₁.toPoint)
      :: (-(blinding.left * blinding.right), key.delta)
      :: values.hidden.toList.zip key.hiddenQuery
      ++ (quotient draft values).zip key.quotientQuery)
  ⟨aPoint, b₂.toPoint, c.toPoint⟩

end DeviceAuth.Groth16
