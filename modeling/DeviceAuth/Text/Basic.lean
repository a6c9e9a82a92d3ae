/-!
**Blanks, digits and signs.** `isBlank` holds of the characters with the Unicode property
`White_Space`; `trim` takes them off both ends of a text. Digits stand with the most significant one
first.

Main statement: a number is what its decimal digits spell (`decimal_toDigits`).
-/

namespace DeviceAuth.Text

/-! ### Blanks -/

/-- The characters with the Unicode property `White_Space`. -/
def isBlank (char : Char) : Bool :=
  let code := char.toNat
  (9 ≤ code && code ≤ 13) || code == 0x20 || code == 0x85 || code == 0xA0 || code == 0x1680
    || (0x2000 ≤ code && code ≤ 0x200A) || code == 0x2028 || code == 0x2029 || code == 0x202F
    || code == 0x205F || code == 0x3000

/-- Drops the blanks that a text starts with. -/
def trimStart (chars : List Char) : List Char :=
  chars.dropWhile isBlank

/-- Drops the blanks that a text starts and ends with. -/
def trim (chars : List Char) : List Char :=
  (trimStart (trimStart chars).reverse).reverse

/-- `trim` on strings. -/
def trimmed (text : String) : String :=
  String.ofList (trim text.toList)

/-- A text without blanks is not trimmed. -/
theorem trim_eq_self {chars : List Char} (solid : ∀ char ∈ chars, isBlank char = false) :
    trim chars = chars := by
  have kept : ∀ list : List Char, (∀ char ∈ list, isBlank char = false) →
      trimStart list = list := by
    rintro (_ | ⟨first, rest⟩) solid
    · rfl
    · exact List.dropWhile_cons_of_neg (by simp [solid first List.mem_cons_self])
  rw [trim, kept chars solid, kept _ fun char member => solid char (List.mem_reverse.mp member),
    List.reverse_reverse]

/-! ### Digits -/

/-- The number that digits of a base spell. -/
def ofDigits (base : Nat) (digits : List Nat) : Nat :=
  digits.foldl (fun value digit => base * value + digit) 0

/-- The values of decimal digits. -/
def digitValues (digits : List Char) : List Nat :=
  digits.map fun digit => digit.toNat - 48

/-- The number that decimal digits spell. -/
def decimal (digits : List Char) : Nat :=
  ofDigits 10 (digitValues digits)

/-- The number of a text that consists of decimal digits. -/
def decimal? (text : List Char) : Option Nat :=
  if text.isEmpty || !text.all Char.isDigit then none else some (decimal text)

theorem decimal_eq_ofDigitChars (digits : List Char) :
    decimal digits = Nat.ofDigitChars 10 digits 0 := by
  rw [decimal, ofDigits, digitValues, List.foldl_map]
  rfl

/-- The decimal digits of a number spell it. -/
theorem decimal_toDigits (value : Nat) : decimal (Nat.toDigits 10 value) = value := by
  rw [decimal_eq_ofDigitChars, Nat.ofDigitChars_ten_toDigits]

/-! ### Signs -/

/-- Whether a text starts with a minus, and the text without its sign. -/
def spanSign : List Char → Bool × List Char
  | '-' :: rest => (true, rest)
  | '+' :: rest => (false, rest)
  | unsigned => (false, unsigned)

end DeviceAuth.Text
