import DeviceAuth.Bytes
import DeviceAuth.Curve.Point

/-!
**Compressed points.** A point is written as its `x`, least significant byte first, with two marks
in the top bits of the last byte: one that `y` is the larger of the two candidates, one for the
point at infinity, which is otherwise zeros. Reading accepts any `x` below the field's order beside
the mark of infinity, and refuses coordinates that are too large, lie on no point, or lie outside
the subgroup. Sequences are preceded by their length in eight bytes; whether their points lie in the
subgroup is looked at after the last of them has been read. A length for which no memory can have
the room is noticed before the first point is read.
-/

namespace DeviceAuth.Curve

/-- Why bytes are not what they are read as. -/
inductive Fault where
  /-- The bytes end too early. -/
  | endOfInput
  /-- A coordinate is too large, or no point of the group has it. -/
  | invalidData
  /-- Marks exclude each other. -/
  | unexpectedMarks
  /-- A sequence would be too long for any memory. -/
  | overflow
  deriving DecidableEq, Repr

/-- The wording of a fault. -/
def Fault.message : Fault → String
  | .endOfInput =>
    "I/O error: Error \x7b kind: UnexpectedEof, message: \"failed to fill whole buffer\" \x7d"
  | .invalidData => "the input buffer contained invalid data"
  | .unexpectedMarks => "the call expects empty flags"
  | .overflow => "a sequence is too long"

/-- Reads a value from the front of a byte string and leaves the rest. -/
abbrev Reader (α : Type) := Bytes → Except Fault (α × Bytes)

/-- The first `count` bytes and the rest, if there are so many. -/
def splitBytes? : (count : Nat) → Bytes → Option (Bytes × Bytes)
  | 0, rest => some ([], rest)
  | _ + 1, [] => none
  | count + 1, byte :: rest => do
    let (taken, rest) ← splitBytes? count rest
    return (byte :: taken, rest)

/-- Reads `count` bytes. -/
def readBytes (count : Nat) : Reader Bytes := fun bytes =>
  match splitBytes? count bytes with
  | some found => .ok found
  | none => .error .endOfInput

/-- Reads a number of eight bytes. -/
def readCount : Reader Nat := fun bytes => do
  let (digits, rest) ← readBytes 8 bytes
  return (Bytes.toNatLE digits, rest)

/-- What the marks of a point say. -/
inductive Mark where
  /-- `y` is the smaller candidate. -/
  | smaller
  /-- `y` is the larger candidate. -/
  | larger
  /-- The point is at infinity. -/
  | infinity
  deriving DecidableEq, Repr

/-- What a mark is a multiple of: one more than the largest number below the two highest bits. -/
def markUnit : Nat := Nat.pow 2 254

/-- The two highest bits of a marked coordinate. -/
def Mark.bits : Mark → Nat
  | .smaller => 0
  | .infinity => 1
  | .larger => 2

/-- The coordinate with this number. -/
def coordinate (number : Nat) : Except Fault Field1 :=
  if below : number < baseModulus then .ok ⟨number, below⟩ else .error .invalidData

/-- Reads a coordinate that carries no mark. -/
def readCoordinate : Reader Field1 := fun bytes => do
  let (digits, rest) ← readBytes 32 bytes
  return (← coordinate (Bytes.toNatLE digits), rest)

/-- Reads a coordinate that carries a mark. -/
def readMarked : Reader (Field1 × Mark) := fun bytes => do
  let (digits, rest) ← readBytes 32 bytes
  let number := Bytes.toNatLE digits
  let low := number % markUnit
  match number / markUnit with
  | 0 => return ((← coordinate low, .smaller), rest)
  | 1 => return ((← coordinate low, .infinity), rest)
  | 2 => return ((← coordinate low, .larger), rest)
  | _ => .error .unexpectedMarks

/-- The point with this `x` and the `y` that the mark chooses. -/
def pointWith {F : Type} [Coordinate F] (constant x : F) (mark : Mark) :
    Except Fault (Point F) :=
  match mark with
  | .infinity => .ok .infinity
  | mark =>
    match Coordinate.squareRoot? (x * x * x + constant) with
    | none => .error .invalidData
    | some root =>
      .ok (.affine x (if Coordinate.isLarger root = decide (mark = .larger) then root else -root))

/-- Reads a point of the first curve. -/
def readPoint1 : Reader Point1 := fun bytes => do
  let ((x, mark), rest) ← readMarked bytes
  return (← pointWith constant1 x mark, rest)

/-- Reads a point of the second curve, which may lie outside the subgroup. -/
def readPoint2Anywhere : Reader Point2 := fun bytes => do
  let (low, rest) ← readCoordinate bytes
  let ((high, mark), rest) ← readMarked rest
  return (← pointWith constant2 ⟨low, high⟩ mark, rest)

/-- Reads a point of the second group. -/
def readPoint2 : Reader Point2 := fun bytes => do
  let (point, rest) ← readPoint2Anywhere bytes
  if point.inSubgroup then return (point, rest) else .error .invalidData

/-- Reads `count` values. -/
def readTimes {α : Type} (read : Reader α) : (count : Nat) → Reader (List α)
  | 0, bytes => .ok ([], bytes)
  | count + 1, bytes => do
    let (first, rest) ← read bytes
    let (others, rest) ← readTimes read count rest
    return (first :: others, rest)

/-- How many bytes a sequence cannot take up in memory. -/
def memoryEnd : Nat := 9223372036854775808

/-- How many bytes a point of the first curve takes up in memory: two coordinates and a mark. -/
def pointWidth1 : Nat := 72

/-- How many bytes a point of the second curve takes up in memory. -/
def pointWidth2 : Nat := 136

/-- Reads the length of a sequence whose items take up `width` bytes each. -/
def readLength (width : Nat) : Reader Nat := fun bytes => do
  let (count, rest) ← readCount bytes
  if count * width < memoryEnd then return (count, rest) else .error .overflow

/-- Reads a sequence of points of the first curve. -/
def readPoints1 : Reader (List Point1) := fun bytes => do
  let (count, rest) ← readLength pointWidth1 bytes
  readTimes readPoint1 count rest

/-- Reads a sequence of points of the second group. -/
def readPoints2 : Reader (List Point2) := fun bytes => do
  let (count, rest) ← readLength pointWidth2 bytes
  let (points, rest) ← readTimes readPoint2Anywhere count rest
  if points.all Point.inSubgroup then return (points, rest) else .error .invalidData

/-! ### Writing -/

/-- The mark of an affine point. -/
def markOf {F : Type} [Coordinate F] (y : F) : Mark :=
  if Coordinate.isLarger y then .larger else .smaller

/-- A coordinate with a mark. -/
def writeMarked (x : Field1) (mark : Mark) : Bytes :=
  Bytes.ofNatLE 32 (x.val + mark.bits * markUnit)

/-- A point of the first curve. -/
def writePoint1 : Point1 → Bytes
  | .infinity => writeMarked 0 .infinity
  | .affine x y => writeMarked x (markOf y)

/-- A point of the second curve. -/
def writePoint2 : Point2 → Bytes
  | .infinity => Bytes.ofNatLE 32 0 ++ writeMarked 0 .infinity
  | .affine x y => Bytes.ofNatLE 32 x.c₀.val ++ writeMarked x.c₁ (markOf y)

/-- A sequence of points of the first curve. -/
def writePoints1 (points : List Point1) : Bytes :=
  Bytes.ofNatLE 8 points.length ++ points.flatMap writePoint1

/-- A sequence of points of the second curve. -/
def writePoints2 (points : List Point2) : Bytes :=
  Bytes.ofNatLE 8 points.length ++ points.flatMap writePoint2

end DeviceAuth.Curve
