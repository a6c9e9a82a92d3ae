import DeviceAuth.Auth.Error
import DeviceAuth.Auth.Numeral
import DeviceAuth.Json.Number
import DeviceAuth.Time.Instant

/-!
**Cells of columns of numbers.** Whoever writes a row decides what is in it, but a column turns what
it can into an integer: a text that spells one, and a number in floating point that is whole.
Everything else is kept and found when the row is read.

Columns of texts turn numbers into texts, so there is nothing to say about them.
-/

namespace DeviceAuth

/-- What a column of numbers can hold. -/
inductive Cell where
  | integer (value : Int)
  /-- A number of 64-bit floating point that is no integer, or beyond the integers of 64 bits. -/
  | real (negative : Bool) (magnitude : Magnitude)
  | text (value : String)
  deriving DecidableEq, Repr

namespace Cell

/-! ### Writing -/

/-- Whether a number is a signed word of 64 bits. -/
def isSigned64 (value : Int) : Bool :=
  -9223372036854775808 ≤ value && value ≤ 9223372036854775807

/-- The cell of a number in floating point; the least and the greatest signed word of 64 bits do not
count as integers here. -/
def ofMagnitude (negative : Bool) (magnitude : Magnitude) : Cell :=
  match magnitude.whole? with
  | some value =>
    if value < 9223372036854775807 then integer (if negative then -value else value)
    else real negative magnitude
  | none => real negative magnitude

/-- The cell of a number. -/
def ofNumber? (number : Json.Number) : Option Cell :=
  let inexact := number.magnitude?.map (ofMagnitude number.isNegative)
  match number with
  | .integer value => if isSigned64 value then some (integer value) else inexact
  | .scientific .. => inexact

/-- The cell of a text. -/
def ofText (content : String) : Cell :=
  match Numeral.ofText? content with
  | none => text content
  | some numeral =>
    match numeral.integer?.filter isSigned64 with
    | some value => integer value
    | none => ofMagnitude numeral.negative numeral.magnitude

/-! ### Reading -/

/-- Whether a cell is less than a number; texts come after all numbers. -/
def lessThan : Cell → Int → Bool
  | integer value, bound => value < bound
  | real false magnitude, bound => magnitude.lessThan (.finite bound.toNat 0)
  | real true magnitude, bound =>
    0 < bound || Magnitude.lessThan (.finite (-bound).toNat 0) magnitude
  | text _, _ => false

/-- The integer of a cell in a column with this number and name. -/
def readInteger (index : Nat) (name : String) : Cell → Except AuthError Int
  | integer value => .ok value
  | real .. =>
    .error (.storage
      ("Invalid column type Real at index: " ++ toString index ++ ", name: " ++ name))
  | text _ =>
    .error (.storage
      ("Invalid column type Text at index: " ++ toString index ++ ", name: " ++ name))

/-- The instant of a cell that holds milliseconds. -/
def readInstant (index : Nat) (name : String) (cell : Cell) : Except AuthError Instant := do
  let millis ← cell.readInteger index name
  match Instant.ofMillis? millis with
  | some instant => .ok instant
  | none => .error (.storage ("Integer " ++ toString millis ++ " out of range at index 0"))

/-- An instant as a cell. -/
def ofInstant (instant : Instant) : Cell :=
  .integer instant.toMillis

end Cell

end DeviceAuth
