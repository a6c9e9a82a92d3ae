import Mathlib.Data.List.Induction
import DeviceAuth.Proofs.Sequence
import DeviceAuth.Proofs.Text.Utf8
import DeviceAuth.Text.Basic
import DeviceAuth.Text.Hex

/-!
**Which texts are hexadecimal.** A text is read as a byte string if in lower case it is the text of
that byte string (`Hex.decode_eq_ok_iff`). These are the texts of an even number of digits of either
case (`Hex.exists_encodeChars`), and the number that the digits spell is that of the bytes
(`Hex.number_of_toLower`).
-/

namespace DeviceAuth.Hex

/-- The digits of lower case, in the order of their values. -/
def digits : List Char := "0123456789abcdef".toList

/-- The number that digits of either case spell, most significant first. -/
def number (chars : List Char) : Nat :=
  chars.foldl (fun number char => 16 * number + digits.idxOf char.toLower) 0

/-! ### Digits -/

/-- A digit is an ASCII character and no blank. -/
theorem digit_plain (value : Fin 16) :
    (digit value).toNat < 128 ∧ Text.isBlank (digit value) = false := by
  revert value
  decide

theorem idxOf_digit (value : Fin 16) : digits.idxOf (digit value) = value := by
  revert value
  decide

theorem digits_eq : digits = (List.range 16).map digit := by
  decide

theorem mem_digits_iff {char : Char} : char ∈ digits ↔ ∃ value : Fin 16, char = digit value := by
  rw [digits_eq]
  constructor
  · intro mem
    obtain ⟨value, inside, same⟩ := List.mem_map.1 mem
    exact ⟨⟨value, List.mem_range.1 inside⟩, same.symm⟩
  · rintro ⟨value, rfl⟩
    exact List.mem_map_of_mem (List.mem_range.2 value.isLt)

theorem digitValue?_lt {code value : Nat} (read : digitValue? code = some value) :
    code < 128 ∧ value < 16 := by
  unfold digitValue? at read
  split at read
  · cases read
    omega
  · split at read
    · cases read
      omega
    · split at read
      · cases read
        omega
      · cases read

/-- A character that in lower case is a digit is an ASCII character. -/
theorem ascii_of_toLower {char : Char} {value : Nat} (small : value < 16)
    (lower : char.toLower = digit value) : char.toNat < 128 := by
  by_cases upper : char.val ≥ 'A'.val ∧ char.val ≤ 'Z'.val
  · exact Nat.lt_of_le_of_lt (UInt32.le_iff_toNat_le.1 upper.2) (by decide)
  · have same : char.toLower = char := dif_neg upper
    rw [same] at lower
    exact lower ▸ (digit_plain ⟨value, small⟩).1

/-- An ASCII character is read as a value if in lower case it is the digit of this value. -/
theorem digitAt_eq_ok_iff {position value : Nat} {char : Char} (ascii : char.toNat < 128) :
    digitAt position (UInt8.ofNat char.toNat) = .ok value ↔
      value < 16 ∧ char.toLower = digit value := by
  have each : ∀ code < 128, ∀ value < 16,
      digitValue? code = some value ↔ (Char.ofNat code).toLower = digit value := by
    decide +kernel
  have code : (UInt8.ofNat char.toNat).toNat = char.toNat := by
    rw [UInt8.toNat_ofNat']
    omega
  rw [digitAt, code]
  constructor
  · intro read
    split at read
    · next found =>
      cases read
      obtain ⟨-, small⟩ := digitValue?_lt found
      exact ⟨small, Char.ofNat_toNat char ▸ (each _ ascii _ small).1 found⟩
    · cases read
  · rintro ⟨small, lower⟩
    rw [(each _ ascii _ small).2 (by rwa [Char.ofNat_toNat])]

/-! ### Texts -/

theorem mem_encodeChars {char : Char} {bytes : Bytes} (member : char ∈ encodeChars bytes) :
    ∃ value : Fin 16, char = digit value := by
  obtain ⟨byte, _, digits⟩ := List.mem_flatMap.mp member
  have byteLt := byte.toNat_lt
  rcases List.mem_cons.mp digits with rfl | low
  · exact ⟨⟨byte.toNat / 16, by omega⟩, rfl⟩
  · exact ⟨⟨byte.toNat % 16, by omega⟩, List.mem_singleton.mp low⟩

/-- Characters that in lower case are a text are digits of either case. -/
theorem exists_digit {chars : List Char} {bytes : Bytes}
    (lower : chars.map Char.toLower = encodeChars bytes) :
    ∀ char ∈ chars, ∃ value : Fin 16, char.toLower = digit value := by
  intro char mem
  have inside := List.mem_map_of_mem (f := Char.toLower) mem
  rw [lower] at inside
  exact mem_encodeChars inside

theorem length_encodeChars (bytes : Bytes) : (encodeChars bytes).length = 2 * bytes.length := by
  induction bytes with
  | nil => rfl
  | cons byte rest ih =>
    simp only [encodeChars, List.flatMap_cons, List.length_append, List.length_cons,
      List.length_nil] at ih ⊢
    omega

theorem encodeChars_cons (byte : UInt8) (bytes : Bytes) :
    encodeChars (byte :: bytes)
      = digit (byte.toNat / 16) :: digit (byte.toNat % 16) :: encodeChars bytes := rfl

/-- The text of a byte is the digits that it was put together from. -/
theorem encodeChars_cons_of_digits {first second : Nat} (firstLt : first < 16)
    (secondLt : second < 16) (bytes : Bytes) :
    encodeChars (UInt8.ofNat (16 * first + second) :: bytes)
      = digit first :: digit second :: encodeChars bytes := by
  have byte : (UInt8.ofNat (16 * first + second)).toNat = 16 * first + second := by
    rw [UInt8.toNat_ofNat']
    omega
  have quotient : (16 * first + second) / 16 = first := by omega
  have remainder : (16 * first + second) % 16 = second := by omega
  rw [encodeChars_cons, byte, quotient, remainder]

/-- ASCII characters are read as what in lower case they are the text of. -/
theorem decodePairs_eq_ok_iff {chars : List Char} {position : Nat} {bytes : Bytes}
    (ascii : ∀ char ∈ chars, char.toNat < 128) (even : chars.length % 2 = 0) :
    decodePairs position (chars.map fun char => UInt8.ofNat char.toNat) = .ok bytes ↔
      chars.map Char.toLower = encodeChars bytes := by
  -- Two characters at a time, as the reader takes them.
  match chars with
  | [] =>
    cases bytes with
    | nil => exact ⟨fun _ => rfl, fun _ => rfl⟩
    | cons byte bytes => exact ⟨nofun, nofun⟩
  | [_] => cases even
  | high :: low :: rest =>
    obtain ⟨highAscii, lowAscii, later⟩ : high.toNat < 128 ∧ low.toNat < 128 ∧
        ∀ char ∈ rest, char.toNat < 128 := by simpa using ascii
    have ih (bytes : Bytes) :
        decodePairs (position + 2) (rest.map fun char => UInt8.ofNat char.toNat) = .ok bytes ↔
          rest.map Char.toLower = encodeChars bytes :=
      decodePairs_eq_ok_iff later (by simp only [List.length_cons] at even; omega)
    constructor
    · intro read
      obtain ⟨first, firstRead, read⟩ := Except.of_bind_eq_ok read
      obtain ⟨second, secondRead, read⟩ := Except.of_bind_eq_ok read
      obtain ⟨tail, tailRead, read⟩ := Except.of_bind_eq_ok read
      obtain ⟨firstLt, highLower⟩ := (digitAt_eq_ok_iff highAscii).1 firstRead
      obtain ⟨secondLt, lowLower⟩ := (digitAt_eq_ok_iff lowAscii).1 secondRead
      cases read
      rw [List.map_cons, List.map_cons, encodeChars_cons_of_digits firstLt secondLt, highLower,
        lowLower, (ih tail).1 tailRead]
    · intro lower
      match bytes with
      | [] => cases lower
      | byte :: tail =>
        have byteLt := byte.toNat_lt
        rw [List.map_cons, List.map_cons, encodeChars_cons] at lower
        injection lower with highLower lower
        injection lower with lowLower lower
        have highRead : digitAt position (UInt8.ofNat high.toNat) = .ok (byte.toNat / 16) :=
          (digitAt_eq_ok_iff highAscii).2 ⟨by omega, highLower⟩
        have lowRead : digitAt (position + 1) (UInt8.ofNat low.toNat) = .ok (byte.toNat % 16) :=
          (digitAt_eq_ok_iff lowAscii).2 ⟨by omega, lowLower⟩
        rw [List.map_cons, List.map_cons, decodePairs, highRead, lowRead, (ih tail).2 lower]
        change Except.ok (UInt8.ofNat (16 * (byte.toNat / 16) + byte.toNat % 16) :: tail) = _
        rw [Nat.div_add_mod, UInt8.ofNat_toNat]

/-- The bytes of a text that is read are codes of ASCII characters. -/
theorem ascii_of_decodePairs {position : Nat} {text bytes : Bytes} (even : text.length % 2 = 0)
    (read : decodePairs position text = .ok bytes) : ∀ byte ∈ text, byte.toNat < 128 := by
  match text with
  | [] => exact fun byte mem => absurd mem List.not_mem_nil
  | [_] => cases even
  | high :: low :: rest =>
    obtain ⟨first, firstRead, read⟩ := Except.of_bind_eq_ok read
    obtain ⟨second, secondRead, read⟩ := Except.of_bind_eq_ok read
    obtain ⟨tail, tailRead, -⟩ := Except.of_bind_eq_ok read
    have digit {position value : Nat} {byte : UInt8} (read : digitAt position byte = .ok value) :
        byte.toNat < 128 := by
      unfold digitAt at read
      split at read
      · next found => exact (digitValue?_lt found).1
      · cases read
    refine List.forall_mem_cons.2 ⟨digit firstRead, List.forall_mem_cons.2 ⟨digit secondRead, ?_⟩⟩
    exact ascii_of_decodePairs (by simp only [List.length_cons] at even; omega) tailRead

/-- **A text is read as a byte string** if in lower case it is the text of that byte string. -/
theorem decode_eq_ok_iff {text : String} {bytes : Bytes} :
    decode text = .ok bytes ↔ text.toList.map Char.toLower = encodeChars bytes := by
  constructor
  · intro read
    rw [decode, decodeBytes] at read
    split at read
    · cases read
    · next odd =>
      obtain ⟨chars, rfl, ascii⟩ :=
        Bytes.exists_ofList_of_ascii (ascii_of_decodePairs (by omega) read)
      rw [Bytes.ofText_ofList ascii] at read odd
      rw [List.length_map] at odd
      rw [String.toList_ofList]
      exact (decodePairs_eq_ok_iff ascii (by omega)).1 read
  · intro lower
    have ascii : ∀ char ∈ text.toList, char.toNat < 128 := by
      intro char mem
      obtain ⟨value, digit⟩ := exists_digit lower char mem
      exact ascii_of_toLower value.isLt digit
    have even : text.toList.length % 2 = 0 := by
      rw [← List.length_map Char.toLower, lower, length_encodeChars]
      omega
    have codes := Bytes.ofText_ofList ascii
    rw [String.ofList_toList] at codes
    rw [decode, decodeBytes, codes, List.length_map, if_neg (by omega)]
    exact (decodePairs_eq_ok_iff ascii even).2 lower

theorem map_toLower_encodeChars (bytes : Bytes) :
    (encodeChars bytes).map Char.toLower = encodeChars bytes := by
  have lower : ∀ value : Fin 16, (digit value).toLower = digit value := by decide
  refine (List.map_congr_left fun char mem => ?_).trans (List.map_id _)
  obtain ⟨value, rfl⟩ := mem_encodeChars mem
  exact lower value

/-- What is written reads back. -/
theorem decode_encode (bytes : Bytes) : decode (encode bytes) = .ok bytes := by
  rw [decode_eq_ok_iff, encode, String.toList_ofList, map_toLower_encodeChars]

theorem encode_injective : Function.Injective encode := fun one other same => by
  have read := congrArg decode same
  rw [decode_encode, decode_encode] at read
  exact Except.ok.inj read

theorem trim_encodeChars (bytes : Bytes) : Text.trim (encodeChars bytes) = encodeChars bytes := by
  refine Text.trim_eq_self fun char member => ?_
  obtain ⟨value, rfl⟩ := mem_encodeChars member
  exact (digit_plain value).2

/-! ### Digits and numbers -/

/-- Characters of which there are twice as many as bytes, and which in lower case are digits, are
the text of as many bytes. -/
theorem exists_encodeChars {chars : List Char} {count : Nat} (length : chars.length = 2 * count)
    (known : ∀ char ∈ chars, char.toLower ∈ digits) :
    ∃ bytes : Bytes, bytes.length = count ∧ chars.map Char.toLower = encodeChars bytes := by
  induction count generalizing chars with
  | zero =>
    obtain rfl := List.length_eq_zero_iff.1 length
    exact ⟨[], rfl, rfl⟩
  | succ count ih =>
    match chars with
    | high :: low :: rest =>
      obtain ⟨highKnown, lowKnown, later⟩ : high.toLower ∈ digits ∧ low.toLower ∈ digits ∧
          ∀ char ∈ rest, char.toLower ∈ digits := by simpa using known
      obtain ⟨first, highLower⟩ := mem_digits_iff.1 highKnown
      obtain ⟨second, lowLower⟩ := mem_digits_iff.1 lowKnown
      obtain ⟨bytes, whole, lower⟩ :=
        ih (by simp only [List.length_cons] at length; omega) later
      refine ⟨UInt8.ofNat (16 * first.val + second.val) :: bytes, congrArg (· + 1) whole, ?_⟩
      rw [List.map_cons, List.map_cons, encodeChars_cons_of_digits first.isLt second.isLt,
        highLower, lowLower, lower]

/-- The digits of a text spell the number of its bytes. -/
theorem number_of_toLower {chars : List Char} {bytes : Bytes}
    (lower : chars.map Char.toLower = encodeChars bytes) :
    number chars = Bytes.toNatBE bytes := by
  have same : number chars = (encodeChars bytes).foldl
      (fun number char => 16 * number + digits.idxOf char) 0 := by
    rw [← lower, List.foldl_map, number]
  rw [same]
  clear same lower
  induction bytes using List.reverseRecOn with
  | nil => rfl
  | append_singleton bytes byte ih =>
    have byteLt := byte.toNat_lt
    have high := idxOf_digit ⟨byte.toNat / 16, by omega⟩
    have low := idxOf_digit ⟨byte.toNat % 16, by omega⟩
    rw [encodeChars, List.flatMap_append, List.foldl_append, ← encodeChars, ih,
      Bytes.toNatBE_concat]
    simp only [List.flatMap_cons, List.flatMap_nil, List.append_nil, List.foldl_cons,
      List.foldl_nil, high, low]
    omega

end DeviceAuth.Hex
