import DeviceAuth.Text.Basic
import DeviceAuth.Time.Calendar
import DeviceAuth.Time.Instant

/-!
**Instants as texts.** `render` writes an instant in the Internet date and time format, in universal
time: `2026-01-01T00:00:00Z`, with 3, 6 or 9 digits of a fraction when there is one (the fewest that
are exact), second 60 for a leap second, and a sign before years outside 0 to 9999.

`parse?` is more generous: fields of one digit, blanks around them, a space or `t` between date and
time, any number of digits of a fraction (those after the ninth are dropped), `z`, `UTC` or an
offset with or without a colon as the zone. The instant that it gives is in universal time.
-/

namespace DeviceAuth.Rfc3339

open Text (trimStart decimal)

/-! ### Writing -/

/-- A number with zeros before it up to a width. -/
def padded (width value : Nat) : List Char :=
  let digits := Nat.toDigits 10 value
  List.replicate (width - digits.length) '0' ++ digits

/-- A year: four digits, or a sign and at least four digits outside 0 to 9999. -/
def renderYear (year : Int) : List Char :=
  if 0 ≤ year ∧ year ≤ 9999 then padded 4 year.toNat
  else (if year < 0 then '-' else '+') :: padded 4 year.natAbs

/-- A fraction of a second, with the fewest groups of three digits that are exact. -/
def renderFraction (nanos : Nat) : List Char :=
  if nanos = 0 then []
  else if nanos % 1000000 = 0 then '.' :: padded 3 (nanos / 1000000)
  else if nanos % 1000 = 0 then '.' :: padded 6 (nanos / 1000)
  else '.' :: padded 9 nanos

/-- An instant in universal time, with the given text for the zone. -/
def renderChars (zone : List Char) (instant : Instant) : List Char :=
  let date := Calendar.ofDayNumber (instant.seconds / 86400)
  let secondOfDay := (instant.seconds % 86400).toNat
  let leap := instant.nanos / nanosPerSecond
  renderYear date.year ++ '-' :: padded 2 date.month ++ '-' :: padded 2 date.day
    ++ 'T' :: padded 2 (secondOfDay / 3600)
    ++ ':' :: padded 2 (secondOfDay / 60 % 60)
    ++ ':' :: padded 2 (secondOfDay % 60 + leap)
    ++ renderFraction (instant.nanos % nanosPerSecond) ++ zone

/-- An instant in universal time, marked `Z`. -/
def render (instant : Instant) : String :=
  String.ofList (renderChars ['Z'] instant)

/-- An instant in universal time, with the zone as an offset. -/
def renderWithOffset (instant : Instant) : String :=
  String.ofList (renderChars ['+', '0', '0', ':', '0', '0'] instant)

/-! ### Reading -/

/-- The decimal digits that a text starts with, at most `limit` of them, and the rest. -/
def takeDigits : (limit : Nat) → List Char → List Char × List Char
  | 0, text => ([], text)
  | _ + 1, [] => ([], [])
  | limit + 1, char :: rest =>
    if char.isDigit then
      let (digits, rest) := takeDigits limit rest
      (char :: digits, rest)
    else ([], char :: rest)

/-- A number of one to `limit` digits. -/
def scanNumber (limit : Nat) (text : List Char) : Option (Nat × List Char) :=
  let (digits, rest) := takeDigits limit text
  if digits.isEmpty then none else some (decimal digits, rest)

/-- A number of one or two digits, after blanks. -/
def scanField (text : List Char) : Option (Nat × List Char) :=
  scanNumber 2 (trimStart text)

/-- A year, after blanks: up to four digits, or any number of them after a sign. -/
def scanYear (text : List Char) : Option (Int × List Char) :=
  match trimStart text with
  | '-' :: rest => (scanNumber rest.length rest).map fun (year, rest) => (-(year : Int), rest)
  | '+' :: rest => (scanNumber rest.length rest).map fun (year, rest) => ((year : Int), rest)
  | rest => (scanNumber 4 rest).map fun (year, rest) => ((year : Int), rest)

/-- A mark between two fields, after blanks. -/
def expect (mark : Char) (text : List Char) : Option (List Char) :=
  match trimStart text with
  | char :: rest => if char = mark then some rest else none
  | [] => none

/-- The nanoseconds of a fraction, if a point follows. -/
def scanFraction : List Char → Option (Nat × List Char)
  | '.' :: rest =>
    let (digits, rest) := takeDigits 9 rest
    if digits.isEmpty then none
    else some (decimal digits * Nat.pow 10 (9 - digits.length), rest.dropWhile Char.isDigit)
  | text => some (0, text)

/-- Two decimal digits, the first at most `highest`. -/
def scanPair (highest : Char) : List Char → Option (Nat × List Char)
  | tens :: units :: rest =>
    if '0' ≤ tens ∧ tens ≤ highest ∧ units.isDigit then some (decimal [tens, units], rest)
    else none
  | _ => none

/-- The seconds by which the zone at the start of a text is ahead of universal time. -/
def scanZone (text : List Char) : Option (Int × List Char) :=
  match trimStart text with
  | first :: rest =>
    if (first :: rest).take 3 |>.map Char.toLower |> (· = ['u', 't', 'c']) then
      some (0, rest.drop 2)
    else if first = 'Z' ∨ first = 'z' then some (0, rest)
    else if first = '+' ∨ first = '-' ∨ first = '\u2212' then do
      let (hours, rest) ← scanPair '9' rest
      let (minutes, rest) ← scanPair '5' (rest.dropWhile fun c => c == ':' || Text.isBlank c)
      let offset : Int := hours * 3600 + minutes * 60
      if 86400 ≤ offset then none
      return (if first = '+' then offset else -offset, rest)
    else none
  | [] => none

/-- The years of instants. -/
def yearInRange (year : Int) : Bool :=
  -262143 ≤ year && year ≤ 262142

/-- Reads an instant. -/
def parse? (text : String) : Option Instant := do
  let (year, rest) ← scanYear text.toList
  let (month, rest) ← scanField (← expect '-' rest)
  let (day, rest) ← scanField (← expect '-' rest)
  let rest ←
    match rest with
    | mark :: rest => if mark = 'T' ∨ mark = 't' ∨ mark = ' ' then some rest else none
    | [] => none
  let (hour, rest) ← scanField rest
  let (minute, rest) ← scanField (← expect ':' rest)
  let (second, rest) ← scanField (← expect ':' rest)
  let (nanos, rest) ← scanFraction rest
  let (offset, rest) ← scanZone rest
  let date : Calendar.Date := ⟨year, month, day⟩
  if (trimStart rest).isEmpty ∧ yearInRange year ∧ date.Valid ∧ hour ≤ 23 ∧ minute ≤ 59
      ∧ second ≤ 60 then
    let leap := second / 60
    Instant.ofUnix?
      (date.dayNumber * 86400 + hour * 3600 + minute * 60 + (second - leap : Nat) - offset)
      (nanos + leap * nanosPerSecond)
  else none

end DeviceAuth.Rfc3339
