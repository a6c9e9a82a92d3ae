import DeviceAuth.Binary
import DeviceAuth.Text.Basic

/-!
**Numerals in columns.** A column of numbers reads the number that a text spells, and a column of
texts shows the text of a number. Both scale by powers of ten in 80-bit floating point, at most a
hundred places at a time, and round at every step. So a long numeral may be read as a neighbour of
the number nearest to it, and the last of the 15 digits that are shown may be one off.
-/

namespace DeviceAuth

/-- The decimal number that a text spells. -/
structure Numeral where
  negative : Bool
  /-- The digits before the point. -/
  whole : List Nat
  /-- The digits after the point, if there is one. -/
  fraction : Option (List Nat)
  /-- The exponent, if there is one. -/
  exponent : Option Int
  deriving DecidableEq, Repr

namespace Numeral

/-! ### Texts as numerals -/

/-- Whether a character is a blank around numerals. -/
def isBlank (char : Char) : Bool :=
  char == ' ' || (9 ≤ char.toNat && char.toNat ≤ 13)

/-- A text without the blanks around it. -/
def trim (text : List Char) : List Char :=
  ((text.dropWhile isBlank).reverse.dropWhile isBlank).reverse

/-- The decimal digits that a text starts with, and the text after them. -/
def spanDigits (text : List Char) : List Nat × List Char :=
  (Text.digitValues (text.takeWhile Char.isDigit), text.dropWhile Char.isDigit)

/-- The digits after the point, if there is one, and the text after them. -/
def spanFraction : List Char → Option (List Nat) × List Char
  | '.' :: rest =>
    let (digits, rest) := spanDigits rest
    (some digits, rest)
  | text => (none, text)

/-- The number that the digits of an exponent spell, which counts as `10 ^ 4` where it goes on
beyond that. -/
def exponentOfDigits (digits : List Nat) : Nat :=
  digits.foldl (fun value digit => if value < 10000 then 10 * value + digit else 10000) 0

/-- The exponent that a whole text is; the empty text stands for none. -/
def exponent? : List Char → Option (Option Int)
  | [] => some none
  | mark :: rest =>
    let (negative, rest) := Text.spanSign rest
    match spanDigits rest with
    | (digits@(_ :: _), []) =>
      if mark = 'e' ∨ mark = 'E' then
        let value : Int := exponentOfDigits digits
        some (some (if negative then -value else value))
      else none
    | _ => none

/-- The numeral that a text is, with or without blanks around it. -/
def ofText? (text : String) : Option Numeral := do
  let (negative, rest) := Text.spanSign (trim text.toList)
  let (whole, rest) := spanDigits rest
  let (fraction, rest) := spanFraction rest
  if whole = [] ∧ fraction.getD [] = [] then none
  else return { negative, whole, fraction, exponent := ← exponent? rest }

/-! ### The number of a numeral -/

/-- From here on further digits do not count. -/
def digitLimit : Nat := 1844674407370955160

/-- The number of the digits before the point, up to the limit, and how many there are beyond. -/
def wholeValue (value : Nat) : List Nat → Nat × Nat
  | [] => (value, 0)
  | digit :: rest =>
    let value := 10 * value + digit
    if digitLimit ≤ value then (value, rest.length) else wholeValue value rest

/-- A number with the digits after the point appended, up to the limit, and how many they are. -/
def fractionValue (value : Nat) (digits : List Nat) : Nat × Nat :=
  digits.foldl
    (fun (value, places) digit =>
      if value < digitLimit then (10 * value + digit, places + 1) else (value, places))
    (value, 0)

/-- Moves places of the exponent into the number as long as it is small. -/
def widen : Nat → Nat → Nat × Nat
  | 0, value => (value, 0)
  | exponent + 1, value =>
    if value ≤ digitLimit then widen exponent (10 * value) else (value, exponent + 1)

/-- Takes zeros off the end of a number as long as there are places after the point. -/
def narrow : Nat → Nat → Nat × Nat
  | 0, value => (value, 0)
  | places + 1, value =>
    if value % 10 = 0 then narrow places (value / 10) else (value, places + 1)

/-- A magnitude times a power of ten: first by hundreds of places, then by tens, then by ones. -/
def shiftTens (magnitude : Magnitude) (exponent : Int) : Magnitude :=
  let times (places count : Nat) (magnitude : Magnitude) : Magnitude :=
    let factor := BinaryFormat.extended.tenTo (if exponent < 0 then -places else places)
    Nat.repeat (BinaryFormat.extended.times factor) count magnitude
  let count := exponent.natAbs
  times 1 (count % 10) (times 10 (count % 100 / 10) (times 100 (count / 100) magnitude))

/-- The greatest number of 64-bit floating point. -/
def greatest : Magnitude := .finite 9007199254740991 971

/-- The magnitude of a number times a power of ten, in 64-bit floating point. What is beyond the
greatest number is infinite, however close it is. -/
def magnitudeOf (value : Nat) (exponent : Int) : Magnitude :=
  if value = 0 then .finite 0 0
  else
    let (wide, up) := widen exponent.toNat value
    let (value, down) := narrow (-exponent).toNat wide
    if up = 0 ∧ down = 0 then BinaryFormat.double.ofNat value
    else
      let shifted := shiftTens (BinaryFormat.extended.ofNat value) (up - down)
      if greatest.lessThan shifted then .infinite else BinaryFormat.double.convert shifted

/-- The magnitude of a numeral in 64-bit floating point. -/
def magnitude (numeral : Numeral) : Magnitude :=
  let (value, surplus) := wholeValue 0 numeral.whole
  let (value, places) := fractionValue value (numeral.fraction.getD [])
  magnitudeOf value (numeral.exponent.getD 0 + surplus - places)

/-- The integer that a numeral without point and exponent spells. -/
def integer? (numeral : Numeral) : Option Int :=
  match numeral.fraction, numeral.exponent with
  | none, none =>
    let value : Int := Text.ofDigits 10 numeral.whole
    some (if numeral.negative then -value else value)
  | _, _ => none

/-! ### Showing numbers -/

/-- Multiplies by a power of ten as long as it is needed, at most `fuel` times, and takes the power
off the exponent. -/
def shiftWhile (needed : Magnitude → Bool) (places : Int) :
    (fuel : Nat) → Magnitude × Int → Magnitude × Int
  | 0, state => state
  | fuel + 1, (magnitude, exponent) =>
    if needed magnitude then
      shiftWhile needed places fuel
        (BinaryFormat.extended.times magnitude (BinaryFormat.extended.tenTo places),
          exponent - places)
    else (magnitude, exponent)

/-- A number of 18 or 19 digits and an exponent of ten, which a number of 64-bit floating point that
is not zero comes to. From the least number to the greatest, no loop takes twelve steps. -/
def decimalOf (magnitude : Magnitude) : Nat × Int :=
  let reaches (places : Int) (magnitude : Magnitude) : Bool :=
    !magnitude.lessThan (BinaryFormat.extended.tenTo places)
  let misses (places : Int) (magnitude : Magnitude) : Bool := !reaches places magnitude
  let (scaled, exponent) :=
    if reaches 19 magnitude then
      shiftWhile (reaches 19) (-1) 12
        (shiftWhile (reaches 29) (-10) 12 (shiftWhile (reaches 119) (-100) 12 (magnitude, 0)))
    else
      shiftWhile (misses 17) 1 12
        (shiftWhile (misses 7) 10 12 (shiftWhile (misses (-97)) 100 12 (magnitude, 0)))
  (scaled.floor, exponent)

/-- How many digits of a number are shown. -/
def shownDigits : Nat := 15

/-- A decimal number with no more digits than are shown; a half is rounded up. -/
def shorten (mantissa : Nat) (exponent : Int) : Nat × Int :=
  let excess := (toString mantissa).length - shownDigits
  if excess = 0 then (mantissa, exponent)
  else ((mantissa + 5 * Nat.pow 10 (excess - 1)) / Nat.pow 10 excess, exponent + excess)

/-- Digits with a point after the first ones; at least one digit stands on each side of it. -/
def pointed (whole fraction : List Char) : List Char :=
  let orZero (digits : List Char) : List Char := if digits.isEmpty then ['0'] else digits
  orZero whole ++ '.' :: orZero fraction

/-- The digits of an exponent, with a sign. -/
def exponentText (exponent : Int) : List Char :=
  let digits := (toString exponent.natAbs).toList
  (if exponent < 0 then '-' else '+') :: List.replicate (2 - digits.length) '0' ++ digits

/-- The text of a decimal number: positional from `0.0001` on and below `10 ^ 15`, with an exponent
otherwise. -/
def decimalText (mantissa : Nat) (exponent : Int) : List Char :=
  let (mantissa, exponent) := shorten mantissa exponent
  let shown := (toString mantissa).toList
  let digits := (shown.reverse.dropWhile (· == '0')).reverse
  let position := shown.length + exponent
  let zeros (count : Int) : List Char := List.replicate count.toNat '0'
  if -3 ≤ position ∧ position ≤ shownDigits then
    pointed (digits.take position.toNat ++ zeros (position - digits.length))
      (zeros (-position) ++ digits.drop position.toNat)
  else pointed (digits.take 1) (digits.drop 1) ++ 'e' :: exponentText (position - 1)

/-- The text that shows a number of 64-bit floating point; zero is shown without a sign. -/
def textOf (negative : Bool) (magnitude : Magnitude) : String :=
  if magnitude.isZero then "0.0"
  else
    let (mantissa, exponent) := decimalOf magnitude
    (if negative then "-" else "") ++ String.ofList (decimalText mantissa exponent)

end Numeral

end DeviceAuth
