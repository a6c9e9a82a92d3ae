import DeviceAuth.Curve.Compressed
import DeviceAuth.Curve.Pairing

/-!
**Keys and proofs of the Groth16 proof system,** and their compressed forms. What follows a key in a
byte string is left over by its reader, for the caller to judge.
-/

namespace DeviceAuth.Groth16

open Curve

/-- A proof. -/
structure Proof where
  a : Point1
  b : Point2
  c : Point1
  deriving DecidableEq

/-- The key against which proofs are checked. -/
structure VerifyingKey where
  alpha : Point1
  beta : Point2
  gamma : Point2
  delta : Point2
  /-- One point for the constant one and one for each public input. -/
  inputs : List Point1
  deriving DecidableEq

/-- The key with which proofs are made. -/
structure ProvingKey where
  verifyingKey : VerifyingKey
  beta : Point1
  delta : Point1
  /-- For each variable, its left polynomial at the secret point. -/
  leftQuery : List Point1
  /-- For each variable, its right polynomial at the secret point. -/
  rightQuery1 : List Point1
  /-- The same in the second group. -/
  rightQuery2 : List Point2
  /-- The powers of the secret point, times the vanishing polynomial, over delta. -/
  quotientQuery : List Point1
  /-- For each hidden variable, its combined polynomial over delta. -/
  hiddenQuery : List Point1
  deriving DecidableEq

/-- The bytes of a proof. -/
def Proof.encode (proof : Proof) : Bytes :=
  writePoint1 proof.a ++ writePoint2 proof.b ++ writePoint1 proof.c

/-- Reads a proof. -/
def Proof.read : Reader Proof := fun bytes => do
  let (a, rest) ← readPoint1 bytes
  let (b, rest) ← readPoint2 rest
  let (c, rest) ← readPoint1 rest
  return (⟨a, b, c⟩, rest)

/-- The bytes of a verifying key. -/
def VerifyingKey.encode (key : VerifyingKey) : Bytes :=
  writePoint1 key.alpha ++ writePoint2 key.beta ++ writePoint2 key.gamma ++ writePoint2 key.delta
    ++ writePoints1 key.inputs

/-- Reads a verifying key. -/
def VerifyingKey.read : Reader VerifyingKey := fun bytes => do
  let (alpha, rest) ← readPoint1 bytes
  let (beta, rest) ← readPoint2 rest
  let (gamma, rest) ← readPoint2 rest
  let (delta, rest) ← readPoint2 rest
  let (inputs, rest) ← readPoints1 rest
  return (⟨alpha, beta, gamma, delta, inputs⟩, rest)

/-- The bytes of a proving key. -/
def ProvingKey.encode (key : ProvingKey) : Bytes :=
  key.verifyingKey.encode ++ writePoint1 key.beta ++ writePoint1 key.delta
    ++ writePoints1 key.leftQuery ++ writePoints1 key.rightQuery1 ++ writePoints2 key.rightQuery2
    ++ writePoints1 key.quotientQuery ++ writePoints1 key.hiddenQuery

/-- Reads a proving key. -/
def ProvingKey.read : Reader ProvingKey := fun bytes => do
  let (verifyingKey, rest) ← VerifyingKey.read bytes
  let (beta, rest) ← readPoint1 rest
  let (delta, rest) ← readPoint1 rest
  let (leftQuery, rest) ← readPoints1 rest
  let (rightQuery1, rest) ← readPoints1 rest
  let (rightQuery2, rest) ← readPoints2 rest
  let (quotientQuery, rest) ← readPoints1 rest
  let (hiddenQuery, rest) ← readPoints1 rest
  return (⟨verifyingKey, beta, delta, leftQuery, rightQuery1, rightQuery2, quotientQuery,
    hiddenQuery⟩, rest)

/-- A point plus multiples of points, `start + Σ scalarᵢ · pointᵢ`. -/
def inputSum (start : Point1) (terms : List (Scalar × Point1)) : Point1 :=
  (terms.foldl (fun sum term => sum.add (term.2.multiple term.1.val))
    (Weighted.ofPoint start)).toPoint

/-- Whether a proof is valid for these public inputs; `none` if the key is for another number of
inputs. -/
def verify (key : VerifyingKey) (inputs : List Scalar) (proof : Proof) : Option Bool :=
  match key.inputs with
  | [] => none
  | start :: points =>
    if points.length = inputs.length then
      let sum := inputSum start (inputs.zip points)
      let product := pairingProduct
        [(proof.a.negate, proof.b), (key.alpha, key.beta), (sum, key.gamma), (proof.c, key.delta)]
      some (product = Field12.one)
    else none

end DeviceAuth.Groth16
