import DeviceAuth.Curve.Point

/-!
**Sums of many multiples of points.** Scalars are cut into digits of eight bits. `sumOfMultiples`
collects, digit by digit, the points with equal digits before it multiplies; a `Table` holds all
multiples of one point by one digit at each place.
-/

namespace DeviceAuth.Curve

section

variable {F : Type} [Coordinate F]

/-- How many digits a scalar has. -/
def digitCount : Nat := 32

/-- The digit of a number at a place, the lowest place being zero. -/
def digitAt (number place : Nat) : Nat :=
  number / Nat.pow 256 place % 256

/-- `Σ i · bucketᵢ`, from the running sums of the buckets, the highest first. -/
@[specialize]
def bucketSum (buckets : List (Weighted F)) : Weighted F :=
  (buckets.foldr
    (fun bucket (running, total) =>
      let running := running.add bucket
      (running, total.add running))
    (Weighted.infinity, Weighted.infinity)).2

/-- `Σ digitᵢ · pointᵢ` for the digits of the scalars at one place. -/
@[specialize]
def placeSum (place : Nat) (terms : List (Nat × Point F)) : Weighted F :=
  let buckets := terms.foldl
    (fun (buckets : Array (Weighted F)) (number, point) =>
      buckets.modify (digitAt number place) fun sum => sum.addPoint point)
    (Array.replicate 256 Weighted.infinity)
  bucketSum buckets.toList.tail

/-- The multiple of a point by 256. -/
@[specialize]
def shift (p : Weighted F) : Weighted F :=
  p.double.double.double.double.double.double.double.double

/-- `Σ scalarᵢ · pointᵢ`. -/
@[specialize]
def sumOfMultiples (terms : List (Scalar × Point F)) : Weighted F :=
  let terms := terms.map fun (scalar, point) => (scalar.val, point)
  (List.range digitCount).foldr (fun place sum => (shift sum).add (placeSum place terms))
    Weighted.infinity

/-- The multiples `i · p` for `i` from zero to 255. -/
@[specialize]
def digitMultiples (p : Weighted F) : Array (Weighted F) :=
  (List.range 255).foldl
    (fun multiples _ => multiples.push ((multiples.back?.getD Weighted.infinity).add p))
    #[Weighted.infinity]

/-- For each place, the multiples of a point by the digits at this place. -/
abbrev Table (F : Type) := List (Array (Weighted F))

/-- The table of a point with so many places. -/
@[specialize]
def tableOf (p : Weighted F) : (places : Nat) → Table F
  | 0 => []
  | places + 1 => digitMultiples p :: tableOf (shift p) places

/-- The multiple of the point of a table, starting from a sum. -/
@[specialize]
def Table.multipleFrom (sum : Weighted F) (number : Nat) : Table F → Weighted F
  | [] => sum
  | multiples :: rest =>
    let term := multiples.getD (number % 256) Weighted.infinity
    Table.multipleFrom (sum.add term) (number / 256) rest

/-- The multiple of the point of a table. -/
@[specialize]
def Table.multiple (table : Table F) (scalar : Scalar) : Point F :=
  (Table.multipleFrom Weighted.infinity scalar.val table).toPoint

end

end DeviceAuth.Curve
