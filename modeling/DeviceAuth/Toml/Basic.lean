/-!
**TOML values,** and how records are read from them. A record is a table whose unknown members are
passed over, or an array of its fields in order, from which the last ones may be missing. No member
of a record is required: a missing one has a default.
-/

namespace DeviceAuth

/-- A TOML value. -/
inductive Toml where
  | string (value : String)
  | integer (value : Int)
  | boolean (value : Bool)
  /-- Any other number, as it is written. -/
  | float (literal : String)
  /-- A date, a time or both, as they are written. -/
  | moment (literal : String)
  | array (items : List Toml)
  | table (members : List (String × Toml))
  deriving Repr

namespace Toml

/-- The text of a string. -/
def text? : Toml → Option String
  | string value => some value
  | _ => none

/-- The value of a boolean. -/
def boolean? : Toml → Option Bool
  | boolean value => some value
  | _ => none

/-- The value of an integer below a bound. -/
def natural? (bound : Nat) : Toml → Option Nat
  | integer value => if 0 ≤ value ∧ value < bound then some value.toNat else none
  | _ => none

/-- The value of an unsigned integer of 32 bits. -/
def word32? (value : Toml) : Option UInt32 :=
  (natural? 4294967296 value).map UInt32.ofNat

/-- The value of an unsigned integer of 64 bits. -/
def word64? (value : Toml) : Option UInt64 :=
  (natural? 18446744073709551616 value).map UInt64.ofNat

/-- The fields with the given names; a date counts as a table without any of them. -/
def fields? (names : List String) : Toml → Option (List (Option Toml))
  | table members => some (names.map fun name => members.lookup name)
  | array items => some ((List.range names.length).map fun index => items[index]?)
  | moment _ => some (names.map fun _ => none)
  | _ => none

/-- Reads a field that has a default. -/
def defaulted? {α : Type} (fallback : α) (read : Toml → Option α) : Option Toml → Option α
  | none => some fallback
  | some value => read value

/-- Reads a field that may be missing. -/
def optional? {α : Type} (read : Toml → Option α) : Option Toml → Option (Option α) :=
  defaulted? none fun value => (read value).map some

/-- Whether a value is a table or an array with nothing in it. -/
def isEmpty : Toml → Bool
  | table members => members.isEmpty
  | array items => items.isEmpty
  | _ => false

/-- The name of an enumeration's constructor: a string, or a table with the name as its only member
and nothing in that member's value. -/
def constructorName? : Toml → Option String
  | string name => some name
  | table [(name, value)] => if value.isEmpty then some name else none
  | _ => none

end Toml

end DeviceAuth
