import DeviceAuth.Text.Basic
import DeviceAuth.Text.Hex
import DeviceAuth.Time.Calendar
import DeviceAuth.Toml.Basic

/-!
**Literals without quotes:** booleans, integers, other numbers, dates and times. `ofWord?` reads a
whole word, so what is not spelled exactly as the format says is refused.
-/

namespace DeviceAuth.Toml

/-! ### Digits -/

/-- The digits of a base that a word consists of; single underscores may stand between them. -/
def digits? (base : Nat) : List Char → Option (List Nat)
  | [] => none
  | [char] => do
    let digit ← Hex.digitValue? char.toNat
    if digit < base then some [digit] else none
  | char :: '_' :: rest => do
    let digit ← Hex.digitValue? char.toNat
    if digit < base then (digits? base rest).map (digit :: ·) else none
  | char :: rest => do
    let digit ← Hex.digitValue? char.toNat
    if digit < base then (digits? base rest).map (digit :: ·) else none

/-- The decimal digits of a whole number; a leading zero is the only digit. -/
def wholeDigits? (word : List Char) : Option (List Nat) := do
  let digits ← digits? 10 word
  if digits.head? = some 0 ∧ digits.length ≠ 1 then none else some digits

/-! ### Numbers -/

/-- A signed word of 64 bits as a value. -/
def ofSigned64? (value : Int) : Option Toml :=
  if -9223372036854775808 ≤ value ∧ value ≤ 9223372036854775807 then some (integer value) else none

/-- An integer, in one of four bases. -/
def integer? : List Char → Option Toml
  | '0' :: 'x' :: rest => do ofSigned64? (Text.ofDigits 16 (← digits? 16 rest))
  | '0' :: 'o' :: rest => do ofSigned64? (Text.ofDigits 8 (← digits? 8 rest))
  | '0' :: 'b' :: rest => do ofSigned64? (Text.ofDigits 2 (← digits? 2 rest))
  | word => do
    let (negative, word) := Text.spanSign word
    let value := Text.ofDigits 10 (← wholeDigits? word)
    ofSigned64? (if negative then -(value : Int) else value)

/-- Whether a character introduces an exponent. -/
def isExponentMark (char : Char) : Bool :=
  char == 'e' || char == 'E'

/-- The exponent at the end of a word. -/
def exponent? : List Char → Option Int
  | [] => some 0
  | mark :: rest =>
    if isExponentMark mark then do
      let (negative, word) := Text.spanSign rest
      let value := Text.ofDigits 10 (← digits? 10 word)
      return if negative then -(value : Int) else value
    else none

/-- The mantissa and exponent of a word without sign that has a fraction or an exponent. -/
def scientific? (word : List Char) : Option (Nat × Int) := do
  let inWhole (char : Char) : Bool := !(char == '.' || isExponentMark char)
  let whole ← wholeDigits? (word.takeWhile inWhole)
  match word.dropWhile inWhole with
  | '.' :: rest =>
    let inFraction (char : Char) : Bool := !isExponentMark char
    let fraction ← digits? 10 (rest.takeWhile inFraction)
    let exponent ← exponent? (rest.dropWhile inFraction)
    return (Text.ofDigits 10 (whole ++ fraction), exponent - fraction.length)
  | [] => none
  | rest => return (Text.ofDigits 10 whole, ← exponent? rest)

/-- The least number that rounds away from the finite range of 64-bit binary floating point. -/
def firstBeyond : Nat := Nat.pow 2 1024 - Nat.pow 2 970

/-- Whether `mantissa · 10 ^ exponent` rounds into the finite range. Powers of ten beyond what can
matter are cut down before they are computed. -/
def roundsToFinite (mantissa : Nat) (exponent : Int) : Bool :=
  if mantissa = 0 then true
  else if 400 < exponent then false
  else if exponent < 0 then
    mantissa < firstBeyond * Nat.pow 10 (min (-exponent).toNat (400 + mantissa.log2))
  else mantissa * Nat.pow 10 exponent.toNat < firstBeyond

/-- A number that is no integer; one above the range of 64-bit floating point is refused, one below
it is not. -/
def float? (word : List Char) : Option Toml :=
  let (negative, magnitude) := Text.spanSign word
  let value := float (String.ofList word)
  if magnitude = "inf".toList ∨ magnitude = "nan".toList then some value
  else do
    let (mantissa, exponent) ← scientific? magnitude
    if negative ∨ roundsToFinite mantissa exponent then some value else none

/-! ### Dates and times -/

/-- The number that the first characters of a text spell, if it is within bounds, and the rest. -/
def bounded? (width low high : Nat) (word : List Char) : Option (Nat × List Char) := do
  let head := word.take width
  let value ← Text.decimal? head
  if head.length = width ∧ low ≤ value ∧ value ≤ high then some (value, word.drop width) else none

/-- Drops a character that a text must start with. -/
def dropChar? (char : Char) : List Char → Option (List Char)
  | first :: rest => if first = char then some rest else none
  | [] => none

/-- Drops a date. -/
def dropDate? (word : List Char) : Option (List Char) := do
  let (year, rest) ← bounded? 4 0 9999 word
  let (month, rest) ← bounded? 2 1 12 (← dropChar? '-' rest)
  let (day, rest) ← bounded? 2 1 31 (← dropChar? '-' rest)
  if day ≤ Calendar.daysInMonth year month then some rest else none

/-- Drops the fraction of a second, if there is one. -/
def dropFraction? : List Char → Option (List Char)
  | '.' :: rest => if (rest.takeWhile Char.isDigit).isEmpty then none
    else some (rest.dropWhile Char.isDigit)
  | unchanged => some unchanged

/-- Drops a time of the day; its second may be a leap second. -/
def dropTime? (word : List Char) : Option (List Char) := do
  let (_, rest) ← bounded? 2 0 23 word
  let (_, rest) ← bounded? 2 0 59 (← dropChar? ':' rest)
  let (_, rest) ← bounded? 2 0 60 (← dropChar? ':' rest)
  dropFraction? rest

/-- Whether a text is a distance from universal time, or empty. -/
def isOffset : List Char → Bool
  | [] => true
  | ['Z'] => true
  | ['z'] => true
  | sign :: rest =>
    if sign = '+' ∨ sign = '-' then
      let ending := do
        let (_, rest) ← bounded? 2 0 23 rest
        let (_, rest) ← bounded? 2 0 59 (← dropChar? ':' rest)
        return rest
      ending == some []
    else false

/-- Whether a word is a date alone. -/
def isDate (word : List Char) : Bool :=
  dropDate? word == some []

/-- Whether a word is a time with or without a distance from universal time. -/
def isTime (word : List Char) : Bool :=
  match dropTime? word with
  | some rest => isOffset rest
  | none => false

/-- Whether a word is a date, a time, or both with a letter between them. -/
def isMoment (word : List Char) : Bool :=
  match dropDate? word with
  | some [] => true
  | some (separator :: rest) => (separator == 'T' || separator == 't') && isTime rest
  | none => dropTime? word == some []

/-! ### Words -/

/-- The value of a word. -/
def ofWord? (word : List Char) : Option Toml :=
  if word = "true".toList then some (boolean true)
  else if word = "false".toList then some (boolean false)
  else if isMoment word then some (moment (String.ofList word))
  else (float? word).or (integer? word)

end DeviceAuth.Toml
