import DeviceAuth.Field.Word256
import DeviceAuth.Proofs.Sequence
import DeviceAuth.Proofs.Text.Hex

/-!
**Words, scalars and texts.** The words that are read as scalars are the canonical ones, and reading
is the inverse of writing (`Word256.toScalar_eq_ok_iff`). The texts that are read as words are,
without the blanks around them, 64 digits of either case of a number below the order of the field
(`Word256.exists_ofHex_iff`), and in lower case they are the text of the word
(`Word256.toHex_of_ofHex`). So a canonical word is read back from its text (`Word256.ofHex_toHex`).
-/

namespace DeviceAuth.Word256

variable {word : Word256} {text : String}

/-- A canonical word: its number is below the order of the scalar field. -/
def IsCanonical (word : Word256) : Prop :=
  word.toNat < scalarModulus

instance (word : Word256) : Decidable word.IsCanonical :=
  inferInstanceAs (Decidable (_ < _))

/-! ### Words and scalars -/

theorem isCanonical_ofScalar (value : Scalar) : (ofScalar value).IsCanonical := by
  rw [IsCanonical, toNat_ofScalar]
  exact value.isLt

theorem toScalar_ofScalar (value : Scalar) : (ofScalar value).toScalar = .ok value := by
  rw [toScalar, toScalar?_ofScalar]

/-- The word that a scalar was read from. -/
theorem of_toScalar {word : Word256} {value : Scalar} (read : word.toScalar = .ok value) :
    word = ofScalar value := by
  rw [toScalar] at read
  rcases found : word.toScalar? with _ | other <;> rw [found] at read <;> cases read
  exact (ofScalar_of_toScalar? found).symm

/-- A canonical word is the word of a scalar. -/
theorem exists_ofScalar {word : Word256} (canonical : word.IsCanonical) :
    ∃ value, ofScalar value = word :=
  ⟨⟨word.toNat, canonical⟩, ofScalar_of_toScalar? (toScalar?_eq_some_iff.2 rfl)⟩

/-- A word is read as a scalar if it is the word of this scalar. -/
theorem toScalar_eq_ok_iff {value : Scalar} : word.toScalar = .ok value ↔ ofScalar value = word :=
  ⟨fun read => (of_toScalar read).symm, fun same => same ▸ toScalar_ofScalar value⟩

theorem ofScalar_injective : Function.Injective ofScalar := fun one other same => by
  have read := congrArg toScalar? same
  rwa [toScalar?_ofScalar, toScalar?_ofScalar, Option.some_inj] at read

/-- The words that are read as scalars are the canonical ones. -/
theorem exists_toScalar_iff : (∃ value, word.toScalar = .ok value) ↔ word.IsCanonical := by
  simp only [toScalar_eq_ok_iff]
  exact ⟨fun ⟨value, same⟩ => same ▸ isCanonical_ofScalar value, exists_ofScalar⟩

/-- A word is taken for canonical if it is, and as it is. -/
theorem canonical_eq_ok_iff {accepted : Word256} :
    word.canonical = .ok accepted ↔ word = accepted ∧ word.IsCanonical := by
  rw [canonical]
  constructor
  · intro taken
    obtain ⟨value, read, taken⟩ := Except.of_bind_eq_ok taken
    exact ⟨Except.ok.inj taken, exists_toScalar_iff.1 ⟨value, read⟩⟩
  · rintro ⟨rfl, canonical⟩
    obtain ⟨value, read⟩ := exists_toScalar_iff.2 canonical
    rw [read]
    rfl

/-! ### Texts -/

/-- Characters that are 64 hexadecimal digits, of either case, of a number below the order of the
scalar field. -/
structure SpellsScalar (chars : List Char) : Prop where
  length : chars.length = 64
  digits : ∀ char ∈ chars, char.toLower ∈ Hex.digits
  below : Hex.number chars < scalarModulus

/-- **A text is read as a word** if without the blanks around it, and in lower case, it is the text
of this word, which is canonical. -/
theorem ofHex_eq_ok_iff : ofHex text = .ok word ↔
    (Text.trim text.toList).map Char.toLower = Hex.encodeChars word.bytes ∧ word.IsCanonical := by
  have decoded (bytes : Bytes) : Hex.decode (Text.trimmed text) = .ok bytes ↔
      (Text.trim text.toList).map Char.toLower = Hex.encodeChars bytes := by
    rw [Hex.decode_eq_ok_iff, Text.trimmed, String.toList_ofList]
  rw [ofHex, ← decoded]
  constructor
  · intro read
    split at read
    · cases read
    · next bytes known =>
      unfold ofBytes? at read
      split at read
      · cases read
      · next whole found =>
        obtain ⟨rfl, canonical⟩ := canonical_eq_ok_iff.1 read
        split at found
        · cases found
          exact ⟨known, canonical⟩
        · cases found
  · rintro ⟨known, canonical⟩
    have whole : ofBytes? word.bytes = some word := dif_pos word.length_bytes
    simp only [known, whole]
    exact canonical_eq_ok_iff.2 ⟨rfl, canonical⟩

/-- **The texts that are read as words** are those that spell a scalar, blanks around them aside. -/
theorem exists_ofHex_iff :
    (∃ word, ofHex text = .ok word) ↔ SpellsScalar (Text.trim text.toList) := by
  simp only [ofHex_eq_ok_iff]
  constructor
  · rintro ⟨word, lower, canonical⟩
    refine ⟨?_, fun char mem => Hex.mem_digits_iff.2 (Hex.exists_digit lower char mem),
      Hex.number_of_toLower lower ▸ canonical⟩
    rw [← List.length_map Char.toLower, lower, Hex.length_encodeChars, word.length_bytes]
  · intro spells
    have length : (Text.trim text.toList).length = 2 * 32 := spells.length
    obtain ⟨bytes, whole, lower⟩ := Hex.exists_encodeChars length spells.digits
    have canonical : Bytes.toNatBE bytes < scalarModulus :=
      Hex.number_of_toLower lower ▸ spells.below
    exact ⟨⟨bytes, whole⟩, lower, canonical⟩

/-- The word that a text is read as has the number that the text spells. -/
theorem toNat_of_ofHex (read : ofHex text = .ok word) :
    word.toNat = Hex.number (Text.trim text.toList) :=
  (Hex.number_of_toLower (ofHex_eq_ok_iff.1 read).1).symm

/-- The text of the word that a text is read as is this text without blanks and in lower case. -/
theorem toHex_of_ofHex (read : ofHex text = .ok word) :
    word.toHex = String.ofList ((Text.trim text.toList).map Char.toLower) := by
  rw [(ofHex_eq_ok_iff.1 read).1, toHex, Hex.encode]

theorem toHex_injective : Function.Injective toHex := fun one other same => by
  have bytes : one.bytes = other.bytes := Hex.encode_injective same
  cases one
  cases other
  cases bytes
  rfl

/-- **A canonical word is read back from its text.** -/
theorem ofHex_toHex (canonical : word.IsCanonical) : ofHex word.toHex = .ok word := by
  rw [ofHex_eq_ok_iff, toHex, Hex.encode, String.toList_ofList, Hex.trim_encodeChars,
    Hex.map_toLower_encodeChars]
  exact ⟨rfl, canonical⟩

end DeviceAuth.Word256
