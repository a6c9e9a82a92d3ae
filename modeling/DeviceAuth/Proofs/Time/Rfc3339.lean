import DeviceAuth.Proofs.Time.Calendar
import DeviceAuth.Time.Rfc3339

/-!
**An instant is read back from its text.** Every field is written with as many digits as are read,
or with a mark after it that is no digit, so each scanner takes exactly what was written. The leap
second is written as second 60, and read as one.
-/

namespace DeviceAuth.Rfc3339

open Text (trimStart isBlank decimal)

/-! ### Digits -/

/-- No digit stands at the start of a text. -/
def EndsDigits (text : List Char) : Prop :=
  ∀ char ∈ text.head?, char.isDigit = false

theorem endsDigits_cons {char : Char} (other : char.isDigit = false) (text : List Char) :
    EndsDigits (char :: text) := by
  rintro first ⟨⟩
  exact other

theorem takeDigits_append {limit : Nat} {digits rest : List Char}
    (all : ∀ char ∈ digits, char.isDigit = true) (fits : digits.length ≤ limit)
    (ends : digits.length = limit ∨ EndsDigits rest) :
    takeDigits limit (digits ++ rest) = (digits, rest) := by
  induction digits generalizing limit with
  | nil =>
    rcases ends with rfl | ends
    · rfl
    · rcases limit with _ | limit <;> rcases rest with _ | ⟨char, rest⟩
      · rfl
      · rfl
      · rfl
      · rw [List.nil_append, takeDigits, ends char rfl]
        rfl
  | cons digit digits ih =>
    obtain ⟨limit, rfl⟩ : ∃ less, limit = less + 1 :=
      Nat.exists_eq_succ_of_ne_zero (by rintro rfl; cases fits)
    have one := all digit List.mem_cons_self
    have others : takeDigits limit (digits ++ rest) = (digits, rest) :=
      ih (fun char member => all char (List.mem_cons_of_mem _ member))
        (Nat.le_of_succ_le_succ fits) (ends.imp_left Nat.succ.inj)
    rw [List.cons_append, takeDigits, if_pos one, others]

theorem isDigit_padded {width value : Nat} :
    ∀ char ∈ padded width value, char.isDigit = true := by
  intro char member
  rcases List.mem_append.mp member with zero | digit
  · rw [List.eq_of_mem_replicate zero]
    rfl
  · exact Nat.isDigit_of_mem_toDigits (by decide) (by decide) digit

theorem decimal_padded (width value : Nat) : decimal (padded width value) = value := by
  calc decimal (padded width value)
      = Nat.ofDigitChars 10 (padded width value) 0 := Text.decimal_eq_ofDigitChars _
    _ = Nat.ofDigitChars 10 (Nat.toDigits 10 value) 0 := by
        rw [padded, Nat.ofDigitChars_append, Nat.ofDigitChars_replicate_zero, Nat.mul_zero]
    _ = value := Nat.ofDigitChars_ten_toDigits

theorem padded_ne_nil (width value : Nat) : padded width value ≠ [] := by
  simp [padded, Nat.toDigits_ne_nil]

theorem length_padded {width value : Nat} (positive : 0 < width)
    (small : value < Nat.pow 10 width) :
    (padded width value).length = width := by
  have fits := (Nat.length_toDigits_le_iff (by decide) positive).mpr small
  rw [padded, List.length_append, List.length_replicate]
  omega

theorem scanNumber_padded {limit width value : Nat} {rest : List Char}
    (fits : (padded width value).length ≤ limit)
    (ends : (padded width value).length = limit ∨ EndsDigits rest) :
    scanNumber limit (padded width value ++ rest) = some (value, rest) := by
  rw [scanNumber, takeDigits_append isDigit_padded fits ends]
  simp [padded_ne_nil, decimal_padded]

/-! ### Fields -/

theorem isBlank_of_isDigit {char : Char} (digit : char.isDigit = true) : isBlank char = false := by
  obtain ⟨low, high⟩ : 48 ≤ char.toNat ∧ char.toNat ≤ 57 := by
    simpa [Char.isDigit, UInt32.le_iff_toNat_le] using digit
  simp only [isBlank, Bool.or_eq_false_iff, Bool.and_eq_false_iff, decide_eq_false_iff_not,
    beq_eq_false_iff_ne]
  omega

theorem trimStart_cons {char : Char} (shown : isBlank char = false) (text : List Char) :
    trimStart (char :: text) = char :: text :=
  List.dropWhile_cons_of_neg (by simp [shown])

/-- A written number starts with a digit, so no blank is taken off. -/
theorem padded_start (width value : Nat) (rest : List Char) : ∃ digit others,
    padded width value ++ rest = digit :: others ∧ digit.isDigit = true ∧
      trimStart (padded width value ++ rest) = padded width value ++ rest := by
  obtain ⟨digit, others, shape⟩ := List.exists_cons_of_ne_nil (padded_ne_nil width value)
  have one : digit.isDigit = true := isDigit_padded digit (shape ▸ List.mem_cons_self)
  refine ⟨digit, others ++ rest, by rw [shape, List.cons_append], one, ?_⟩
  rw [shape, List.cons_append, trimStart_cons (isBlank_of_isDigit one)]

theorem scanField_padded {value : Nat} (small : value < 100) (rest : List Char) :
    scanField (padded 2 value ++ rest) = some (value, rest) := by
  obtain ⟨_, _, _, _, trimmed⟩ := padded_start 2 value rest
  have length : (padded 2 value).length = 2 := length_padded (by decide) small
  rw [scanField, trimmed, scanNumber_padded (by omega) (.inl length)]

theorem expect_cons {mark : Char} (shown : isBlank mark = false) (rest : List Char) :
    expect mark (mark :: rest) = some rest := by
  rw [expect, trimStart_cons shown]
  simp

theorem scanYear_renderYear (year : Int) {rest : List Char} (ends : EndsDigits rest) :
    scanYear (renderYear year ++ rest) = some (year, rest) := by
  rw [renderYear]
  split
  · next plain =>
    obtain ⟨digit, others, shape, one, trimmed⟩ := padded_start 4 year.toNat rest
    have length : (padded 4 year.toNat).length = 4 :=
      length_padded (by decide) (show year.toNat < 10000 by omega)
    have number : scanNumber 4 (padded 4 year.toNat ++ rest) = some (year.toNat, rest) :=
      scanNumber_padded (by omega) (.inl length)
    have back : (year.toNat : Int) = year := by omega
    rw [scanYear, trimmed]
    split
    · next sign =>
      cases shape.symm.trans sign
      cases one
    · next sign =>
      cases shape.symm.trans sign
      cases one
    · simp only [number, Option.map_some, back]
  · next signed =>
    have number : scanNumber (padded 4 year.natAbs ++ rest).length (padded 4 year.natAbs ++ rest) =
        some (year.natAbs, rest) := scanNumber_padded (by simp) (.inr ends)
    rw [List.cons_append, scanYear]
    split_ifs with negative
    · rw [trimStart_cons (by decide)]
      simp only [number, Option.map_some]
      rw [show -(year.natAbs : Int) = year by omega]
    · rw [trimStart_cons (by decide)]
      simp only [number, Option.map_some]
      rw [show (year.natAbs : Int) = year by omega]

theorem scanFraction_padded {width value : Nat} (positive : 0 < width) (nine : width ≤ 9)
    (small : value < Nat.pow 10 width) {rest : List Char} (ends : EndsDigits rest) :
    scanFraction ('.' :: (padded width value ++ rest)) =
      some (value * Nat.pow 10 (9 - width), rest) := by
  have length := length_padded positive small
  have after : rest.dropWhile Char.isDigit = rest := by
    rcases rest with _ | ⟨char, rest⟩
    · rfl
    · exact List.dropWhile_cons_of_neg (by simp [ends char rfl])
  rw [scanFraction, takeDigits_append isDigit_padded (by omega) (.inr ends)]
  simp [padded_ne_nil, decimal_padded, length, after]

theorem scanFraction_renderFraction {nanos : Nat} (small : nanos < nanosPerSecond) :
    scanFraction (renderFraction nanos ++ ['Z']) = some (nanos, ['Z']) := by
  have ends : EndsDigits ['Z'] := endsDigits_cons rfl []
  simp only [nanosPerSecond] at small
  rw [renderFraction]
  split_ifs with whole millis micros
  · subst whole
    rfl
  · have back : nanos / 1000000 * Nat.pow 10 (9 - 3) = nanos := by
      rw [show Nat.pow 10 (9 - 3) = 1000000 by decide]
      omega
    rw [List.cons_append, scanFraction_padded (by decide) (by decide)
      (show nanos / 1000000 < 1000 by omega) ends, back]
  · have back : nanos / 1000 * Nat.pow 10 (9 - 6) = nanos := by
      rw [show Nat.pow 10 (9 - 6) = 1000 by decide]
      omega
    rw [List.cons_append, scanFraction_padded (by decide) (by decide)
      (show nanos / 1000 < 1000000 by omega) ends, back]
  · rw [List.cons_append, scanFraction_padded (by decide) (by decide)
      (show nanos < 1000000000 from small) ends, show Nat.pow 10 (9 - 9) = 1 by decide,
      Nat.mul_one]

/-! ### Instants -/

/-- The text of a date and a time of day, with the nanoseconds after the second that is shown. -/
def fieldChars (date : Calendar.Date) (hour minute second nanos : Nat) : List Char :=
  renderYear date.year ++ '-' :: padded 2 date.month ++ '-' :: padded 2 date.day
    ++ 'T' :: padded 2 hour ++ ':' :: padded 2 minute ++ ':' :: padded 2 second
    ++ renderFraction nanos ++ ['Z']

theorem valid_lt {date : Calendar.Date} (valid : date.Valid) :
    date.month < 100 ∧ date.day < 100 := by
  obtain ⟨-, twelve, -, last⟩ := valid
  have most : Calendar.daysInMonth date.year date.month ≤ 31 := by
    unfold Calendar.daysInMonth
    split_ifs <;> omega
  omega

/-- A scanner that takes something hands it on. -/
theorem takes {α β : Type} {scanned : Option α} {taken : α} {next : α → Option β}
    (found : scanned = some taken) : (scanned >>= next) = next taken := by
  rw [found]
  rfl

/-- The scanners take the fields one by one. -/
theorem parse?_fieldChars {date : Calendar.Date} {hour minute second nanos : Nat}
    (valid : date.Valid) (inRange : yearInRange date.year = true) (hours : hour ≤ 23)
    (minutes : minute ≤ 59) (seconds : second ≤ 60) (small : nanos < nanosPerSecond) :
    parse? (String.ofList (fieldChars date hour minute second nanos)) =
      Instant.ofUnix? (date.dayNumber * 86400 + hour * 3600 + minute * 60
        + (second - second / 60 : Nat)) (nanos + second / 60 * nanosPerSecond) := by
  obtain ⟨month, day⟩ := valid_lt valid
  have zone : scanZone ['Z'] = some (0, []) := by decide
  rw [parse?, String.toList_ofList, fieldChars]
  simp only [List.append_assoc, List.cons_append]
  rw [takes (scanYear_renderYear date.year (endsDigits_cons (rfl : '-'.isDigit = false) _)),
    takes (expect_cons (rfl : isBlank '-' = false) _), takes (scanField_padded month _),
    takes (expect_cons (rfl : isBlank '-' = false) _), takes (scanField_padded day _)]
  dsimp only
  rw [if_pos (.inl rfl), takes rfl, takes (scanField_padded (by omega : hour < 100) _),
    takes (expect_cons (rfl : isBlank ':' = false) _),
    takes (scanField_padded (by omega : minute < 100) _),
    takes (expect_cons (rfl : isBlank ':' = false) _),
    takes (scanField_padded (by omega : second < 100) _),
    takes (scanFraction_renderFraction small), takes zone,
    if_pos ⟨rfl, inRange, valid, hours, minutes, seconds⟩, Int.sub_zero]

/-- **An instant is read back from its text.** -/
theorem parse?_render (instant : Instant) : parse? (render instant) = some instant := by
  obtain ⟨valid, number⟩ := Calendar.ofDayNumber_spec (instant.seconds / 86400)
  obtain ⟨seconds, nanos, earliest, latest, bound, aligned⟩ := instant
  dsimp only at valid number
  have inRange : yearInRange (Calendar.ofDayNumber (seconds / 86400)).year = true := by
    simp only [earliestSecond, latestSecond] at earliest latest
    have years := Calendar.year_ofDayNumber (show -96465292 ≤ seconds / 86400 by omega) (by omega)
    simpa [yearInRange] using years
  have leap : nanos / nanosPerSecond = 0 ∨
      nanos / nanosPerSecond = 1 ∧ (seconds % 86400).toNat % 60 = 59 := by
    simp only [nanosPerSecond] at *
    omega
  have fields : render ⟨seconds, nanos, earliest, latest, bound, aligned⟩ = String.ofList
      (fieldChars (Calendar.ofDayNumber (seconds / 86400)) ((seconds % 86400).toNat / 3600)
        ((seconds % 86400).toNat / 60 % 60)
        ((seconds % 86400).toNat % 60 + nanos / nanosPerSecond) (nanos % nanosPerSecond)) := rfl
  rw [fields, parse?_fieldChars valid inRange (by omega) (by omega) (by omega)
    (Nat.mod_lt _ (by decide)), number]
  have whole : (((seconds % 86400).toNat % 60 + nanos / nanosPerSecond)
      - ((seconds % 86400).toNat % 60 + nanos / nanosPerSecond) / 60 : Nat)
      = (seconds % 86400).toNat % 60 := by omega
  have second : seconds / 86400 * 86400 + ((seconds % 86400).toNat / 3600 : Nat) * 3600
      + ((seconds % 86400).toNat / 60 % 60 : Nat) * 60 + ((seconds % 86400).toNat % 60 : Nat)
      = seconds := by omega
  have nanosBack : nanos % nanosPerSecond
      + ((seconds % 86400).toNat % 60 + nanos / nanosPerSecond) / 60 * nanosPerSecond = nanos := by
    have leapBack : ((seconds % 86400).toNat % 60 + nanos / nanosPerSecond) / 60
        = nanos / nanosPerSecond := by omega
    rw [leapBack, Nat.mod_add_div']
  rw [whole, second, nanosBack]
  exact dif_pos ⟨⟨earliest, latest⟩, bound, aligned⟩

end DeviceAuth.Rfc3339
