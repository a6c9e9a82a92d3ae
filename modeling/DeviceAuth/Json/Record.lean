import DeviceAuth.Json.Number

/-!
**Reading records from JSON values.** A record has named fields in a fixed order. It is written as
an object, whose unknown members are passed over and whose known ones stand at most once, or as an
array of its fields in order, from which the last fields may be missing. A field that the value does
not give is `none`; whether that is an error is for the record to say.
-/

namespace DeviceAuth.Json

/-- The text of a string. -/
def text? : Json → Option String
  | .string text => text
  | _ => none

/-- The value of a boolean. -/
def boolean? : Json → Option Bool
  | .boolean value => some value
  | _ => none

/-- The value of an integer. -/
def integer? : Json → Option Int
  | .number (.integer value) => some value
  | _ => none

/-- The value of an integer within closed bounds. -/
def integerWithin? (low high : Int) (value : Json) : Option Int :=
  (integer? value).bind fun number => if low ≤ number ∧ number ≤ high then some number else none

/-- The value of an unsigned integer of 32 bits. -/
def word32? (value : Json) : Option UInt32 :=
  (integerWithin? 0 4294967295 value).map fun number => UInt32.ofNat number.toNat

/-- The value of an unsigned integer of 64 bits. -/
def word64? (value : Json) : Option UInt64 :=
  (integerWithin? 0 18446744073709551615 value).map fun number => UInt64.ofNat number.toNat

/-- The value of a signed integer of 64 bits. -/
def signed64? (value : Json) : Option Int64 :=
  (integerWithin? (-9223372036854775808) 9223372036854775807 value).map Int64.ofInt

/-- The name of an enumeration's constructor: a string, or an object with the name as its only
member and `null` as that member's value. -/
def constructorName? : Json → Option String
  | .string text => text
  | .object [(name, .null)] => name
  | _ => none

/-- A value that may be `null`. -/
def nullable? {α : Type} (read : Json → Option α) : Json → Option (Option α)
  | .null => some none
  | value => (read value).map some

/-- Members whose names all denote texts. -/
def namedMembers? : List (Option String × Json) → Option (List (String × Json))
  | [] => some []
  | (some name, value) :: members => do
    let rest ← namedMembers? members
    return (name, value) :: rest
  | (none, _) :: _ => none

/-- Whether no two members have the same name. -/
def namesDistinct : List (String × Json) → Bool
  | [] => true
  | (name, _) :: members => members.all (fun member => member.1 != name) && namesDistinct members

/-- The fields with the given names from the members of an object. -/
def fieldsOfMembers? (names : List String) (members : List (Option String × Json)) :
    Option (List (Option Json)) := do
  let members ← namedMembers? members
  let known := members.filter fun member => names.contains member.1
  if namesDistinct known then
    return names.map fun name => known.lookup name
  else none

/-- The fields with the given names, from an object or from an array. -/
def fields? (names : List String) : Json → Option (List (Option Json))
  | .object members => fieldsOfMembers? names members
  | .array items =>
    if items.length ≤ names.length then
      some (items.map some ++ List.replicate (names.length - items.length) none)
    else none
  | _ => none

/-- Reads a field that must be given. -/
def required? {α : Type} (read : Json → Option α) (field : Option Json) : Option α :=
  field.bind read

/-- Reads a field that has a default. -/
def defaulted? {α : Type} (fallback : α) (read : Json → Option α) : Option Json → Option α
  | none => some fallback
  | some value => read value

/-! ### Values that are kept before they are read -/

mutual

/-- Whether a value can be kept whole: every string denotes a text, every number is one of 64-bit
floating point, and arrays and objects are nested at most `depth` deep. -/
def keepable (depth : Nat) : Json → Bool
  | .null => true
  | .boolean _ => true
  | .number value => value.magnitude?.isSome
  | .string text => text.isSome
  | .array items =>
    match depth with
    | 0 => false
    | depth + 1 => keepableItems depth items
  | .object members =>
    match depth with
    | 0 => false
    | depth + 1 => keepableMembers depth members

/-- `keepable` of every item. -/
def keepableItems (depth : Nat) : List Json → Bool
  | [] => true
  | item :: items => keepable depth item && keepableItems depth items

/-- `keepable` of every member. -/
def keepableMembers (depth : Nat) : List (Option String × Json) → Bool
  | [] => true
  | (name, value) :: members =>
    name.isSome && keepable depth value && keepableMembers depth members

end

end DeviceAuth.Json
