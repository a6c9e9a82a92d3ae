import DeviceAuth.Curve.Field
import DeviceAuth.Field.Basic

/-!
**Points of the two curves.** A point of `y² = x³ + b` is its coordinates, or the point at infinity.
Sums are computed on weighted coordinates, `x = X / Z²` and `y = Y / Z³`, which need no inverse;
both curves share the rules and differ in the field of the coordinates and in `b`.
-/

namespace DeviceAuth.Curve

/-- A pair of coordinates, or the point at infinity. -/
inductive Point (F : Type) where
  | infinity
  | affine (x y : F)
  deriving DecidableEq, Repr

/-- A point in weighted coordinates; `z = 0` for the point at infinity. -/
structure Weighted (F : Type) where
  x : F
  y : F
  z : F

section

variable {F : Type} [Coordinate F]

namespace Weighted

/-- The point at infinity. -/
@[specialize]
def infinity : Weighted F :=
  ⟨Coordinate.one, Coordinate.one, Coordinate.zero⟩

/-- A point in weighted coordinates. -/
@[specialize]
def ofPoint : Point F → Weighted F
  | .infinity => infinity
  | .affine x y => ⟨x, y, Coordinate.one⟩

/-- The sum of a point with itself. -/
@[specialize]
def double (p : Weighted F) : Weighted F :=
  let a := p.x * p.x
  let b := p.y * p.y
  let c := b * b
  let s := (p.x + b) * (p.x + b) - a - c
  let d := s + s
  let e := a + a + a
  let x := e * e - (d + d)
  let c₂ := c + c
  let c₄ := c₂ + c₂
  let yz := p.y * p.z
  ⟨x, e * (d - x) - (c₄ + c₄), yz + yz⟩

/-- The sum of two points. -/
@[specialize]
def add (p q : Weighted F) : Weighted F :=
  if p.z = Coordinate.zero then q
  else if q.z = Coordinate.zero then p
  else
    let pzz := p.z * p.z
    let qzz := q.z * q.z
    let u₁ := p.x * qzz
    let u₂ := q.x * pzz
    let s₁ := p.y * qzz * q.z
    let s₂ := q.y * pzz * p.z
    if u₁ = u₂ then
      if s₁ = s₂ then double p else infinity
    else
      let h := u₂ - u₁
      let r := s₂ - s₁
      let hh := h * h
      let hhh := hh * h
      let v := u₁ * hh
      let x := r * r - hhh - (v + v)
      ⟨x, r * (v - x) - s₁ * hhh, p.z * q.z * h⟩

/-- The sum of a point and one in plain coordinates. -/
@[specialize]
def addPoint (p : Weighted F) : Point F → Weighted F
  | .infinity => p
  | .affine x y =>
    if p.z = Coordinate.zero then ⟨x, y, Coordinate.one⟩
    else
      let zz := p.z * p.z
      let u₂ := x * zz
      let s₂ := y * zz * p.z
      if p.x = u₂ then
        if p.y = s₂ then double p else infinity
      else
        let h := u₂ - p.x
        let r := s₂ - p.y
        let hh := h * h
        let hhh := hh * h
        let v := p.x * hh
        let x₃ := r * r - hhh - (v + v)
        ⟨x₃, r * (v - x₃) - p.y * hhh, p.z * h⟩

/-- The plain coordinates of a point. -/
@[specialize]
def toPoint (p : Weighted F) : Point F :=
  if p.z = Coordinate.zero then .infinity
  else
    let inverse := Coordinate.inverse p.z
    let square := inverse * inverse
    .affine (p.x * square) (p.y * square * inverse)

end Weighted

namespace Point

/-- The point on the other side of the axis. -/
@[specialize]
def negate : Point F → Point F
  | .infinity => .infinity
  | .affine x y => .affine x (-y)

/-- The multiple of a point, in weighted coordinates. -/
@[specialize]
def multiple (factor : Nat) (point : Point F) : Weighted F :=
  (binary factor).foldl
    (fun result digit =>
      let doubled := result.double
      if digit then doubled.addPoint point else doubled)
    Weighted.infinity

/-- Whether a point lies in the subgroup of the scalars' order. -/
@[specialize]
def inSubgroup (point : Point F) : Bool :=
  (point.multiple scalarModulus).z = Coordinate.zero

end Point

end

/-- A point of the first curve, `y² = x³ + 3` over the base field. -/
abbrev Point1 := Point Field1

/-- A point of the second curve, `y² = x³ + 3 / (9 + u)` over the field of degree two. -/
abbrev Point2 := Point Field2

/-- The `b` of the first curve. -/
def constant1 : Field1 := 3

/-- The `b` of the second curve. -/
def constant2 : Field2 := Field2.scale 3 Field2.nonResidue.inverse

/-- The generator of the first group. -/
def generator1 : Point1 := .affine 1 2

/-- The generator of the second group. -/
def generator2 : Point2 :=
  .affine
    ⟨10857046999023057135944570762232829481370756359578518086990519993285655852781,
      11559732032986387107991004021392285783925812861821192530917403151452391805634⟩
    ⟨8495653923123431417604973247489272438418190587263600148770280649306958101930,
      4082367875863433681332203403145435568316851327593401208105741076214120093531⟩

end DeviceAuth.Curve
