import DeviceAuth.Curve.Point

/-!
**The pairing of the two groups.** For points `P` of the first group and `Q` of the second, the
function with divisor `r P - r ∞` is evaluated at `Q`, seen as a point over the field of degree
twelve, and raised to the power `(q¹² - 1) / r`. The function is built from tangents and chords
along the doublings and additions that lead from `P` to `r P`. Factors from the field of degree six
become one in the end, so verticals and denominators are left out.

Only products of pairings are compared with one, so one final power serves for all of them.
-/

namespace DeviceAuth.Curve

/-- The value at `Q = (x w², y w³)` of a line `a · Y - b · X + c`, up to a factor. -/
def lineAt (x y : Field2) (a b c : Field1) : Field12 :=
  ⟨⟨Field2.ofBase c, Field2.scale (-b) x, ⟨0, 0⟩⟩, ⟨⟨0, 0⟩, Field2.scale a y, ⟨0, 0⟩⟩⟩

/-- The tangent at a point. -/
def tangentAt (p : Weighted Field1) (x y : Field2) : Field12 :=
  let zz := p.z * p.z
  let xx := p.x * p.x
  let slope := xx + xx + xx
  let yy := p.y * p.y
  let yz := p.y * p.z * zz
  lineAt x y (yz + yz) (slope * zz) (slope * p.x - (yy + yy))

/-- The chord from a point to the point `(px, py)`; one where it is vertical. -/
def chordAt (p : Weighted Field1) (px py : Field1) (x y : Field2) : Field12 :=
  let zz := p.z * p.z
  let h := p.x - px * zz
  if h = 0 then Field12.one
  else
    let r := p.y - py * zz * p.z
    let hz := h * p.z
    lineAt x y hz r (r * px - hz * py)

/-- A pair of affine points whose pairing is taken, with the multiple of the first that has been
reached. -/
structure Walk where
  px : Field1
  py : Field1
  qx : Field2
  qy : Field2
  reached : Weighted Field1

/-- The walk that starts at a pair; pairs with a point at infinity contribute one. -/
def Walk.start? : Point1 × Point2 → Option Walk
  | (.affine px py, .affine qx qy) => some ⟨px, py, qx, qy, ⟨px, py, 1⟩⟩
  | _ => none

/-- The tangent of a walk, and the walk after the doubling. -/
def Walk.double (walk : Walk) : Field12 × Walk :=
  (tangentAt walk.reached walk.qx walk.qy, { walk with reached := walk.reached.double })

/-- The chord of a walk, and the walk after the addition. -/
def Walk.add (walk : Walk) : Field12 × Walk :=
  (chordAt walk.reached walk.px walk.py walk.qx walk.qy,
    { walk with reached := walk.reached.addPoint (.affine walk.px walk.py) })

/-- Takes one step on each walk and multiplies the lines into the value. -/
def advance (step : Walk → Field12 × Walk) (value : Field12) :
    List Walk → Field12 × List Walk
  | [] => (value, [])
  | walk :: rest =>
    let (line, moved) := step walk
    let (value, others) := advance step (value * line) rest
    (value, moved :: others)

/-- One binary digit of the group order: a doubling, and an addition where the digit is one. -/
def millerStep (state : Field12 × List Walk) (digit : Bool) : Field12 × List Walk :=
  let doubled := advance Walk.double (state.1 * state.1) state.2
  if digit then advance Walk.add doubled.1 doubled.2 else doubled

/-- The product of the functions of all pairs. -/
def millerProduct (pairs : List (Point1 × Point2)) : Field12 :=
  ((binary scalarModulus).tail.foldl millerStep (Field12.one, pairs.filterMap Walk.start?)).1

/-- The exponent that makes pairings of equal points equal. -/
def finalExponent : Nat :=
  (Nat.pow baseModulus 12 - 1) / scalarModulus

/-- The product of the pairings of all pairs. -/
def pairingProduct (pairs : List (Point1 × Point2)) : Field12 :=
  power Field12.one (millerProduct pairs) finalExponent

end DeviceAuth.Curve
