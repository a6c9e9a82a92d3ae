import DeviceAuth.Bytes

/-!
**JSON values.** A value keeps what its text says: members in order and with repetitions, integers
exactly, other numbers as the digits of their literals. A string literal can be well formed and
yet denote no text, because of an unpaired surrogate escape or of bytes that are no UTF-8; such a
literal is kept as `none`, so that a reader that does not need it can pass over it.
-/

namespace DeviceAuth

/-- A number as its literal gives it. -/
inductive Json.Number where
  /-- A literal without fraction and exponent, other than `-0`. -/
  | integer (value : Int)
  /-- Any other literal: its decimal digits before and after the point, and its exponent. -/
  | scientific (negative : Bool) (whole fraction : List Nat) (exponent : Int)
  deriving DecidableEq, Repr

/-- A JSON value. -/
inductive Json where
  | null
  | boolean (value : Bool)
  | number (value : Json.Number)
  /-- A string literal and the text that it denotes, if it denotes one. -/
  | string (text : Option String)
  | array (items : List Json)
  /-- The members in the order in which they stand, names as in `string`. -/
  | object (members : List (Option String × Json))
  deriving Repr

namespace Json

/-- The value of a text. -/
def ofText (text : String) : Json :=
  .string (some text)

/-- The value of an integer. -/
def ofInt (value : Int) : Json :=
  .number (.integer value)

/-- The value of a natural number. -/
def ofNat (value : Nat) : Json :=
  .number (.integer value)

/-- The object with these members. -/
def ofMembers (members : List (String × Json)) : Json :=
  .object (members.map fun member => (some member.1, member.2))

end Json

end DeviceAuth
