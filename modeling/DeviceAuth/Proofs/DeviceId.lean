import DeviceAuth.Auth.Credential
import DeviceAuth.Proofs.Text.Utf8

/-!
**What the word of a device id says of the id.** All of it but the NUL characters that it starts
with: these are zero bytes, as are the bytes that fill the word. No other character has a zero byte
first, so two ids have one word just if they are equal without the NUL characters that they start
with (`DeviceId.word_eq_iff`).
-/

namespace DeviceAuth

namespace Bytes

/-! ### Zeros before a number -/

theorem toNatLE_append_zero (bytes : Bytes) : toNatLE (bytes ++ [0]) = toNatLE bytes := by
  induction bytes with
  | nil => rfl
  | cons byte bytes ih => rw [List.cons_append, toNatLE, ih, toNatLE]

theorem toNatBE_cons_zero (bytes : Bytes) : toNatBE (0 :: bytes) = toNatBE bytes := by
  rw [toNatBE, List.reverse_cons, toNatLE_append_zero, toNatBE]

theorem toNatBE_replicate_zero (count : Nat) (bytes : Bytes) :
    toNatBE (List.replicate count 0 ++ bytes) = toNatBE bytes := by
  induction count with
  | zero => rfl
  | succ count ih => rw [List.replicate_succ, List.cons_append, toNatBE_cons_zero, ih]

/-- A byte string without the zeros that it starts with. -/
def withoutZeros (bytes : Bytes) : Bytes :=
  bytes.dropWhile (· == 0)

theorem toNatBE_withoutZeros (bytes : Bytes) : toNatBE bytes.withoutZeros = toNatBE bytes := by
  induction bytes with
  | nil => rfl
  | cons byte bytes ih =>
    rw [withoutZeros, List.dropWhile_cons]
    split
    · next zero => rw [beq_iff_eq.1 zero, toNatBE_cons_zero, ← withoutZeros, ih]
    · rfl

theorem withoutZeros_replicate (count : Nat) (bytes : Bytes) :
    withoutZeros (List.replicate count 0 ++ bytes) = bytes.withoutZeros := by
  rw [withoutZeros, List.dropWhile_append_of_pos fun byte mem => by
    rw [List.eq_of_mem_replicate mem, beq_self_eq_true], withoutZeros]

/-- What is written in so many bytes is the number's own bytes, with zeros before them. -/
theorem withoutZeros_ofNatBE {bytes : Bytes} {width : Nat} (fits : bytes.length ≤ width) :
    (ofNatBE width (toNatBE bytes)).withoutZeros = bytes.withoutZeros := by
  have padded := ofNatBE_toNatBE (List.replicate (width - bytes.length) 0 ++ bytes)
  rw [List.length_append, List.length_replicate, Nat.sub_add_cancel fits,
    toNatBE_replicate_zero] at padded
  rw [padded, withoutZeros_replicate]

/-- Byte strings spell one number just if they are equal without the zeros that they start with. -/
theorem toNatBE_eq_iff {first second : Bytes} :
    toNatBE first = toNatBE second ↔ first.withoutZeros = second.withoutZeros := by
  constructor
  · intro same
    rw [← withoutZeros_ofNatBE (Nat.le_max_left first.length second.length), same,
      withoutZeros_ofNatBE (Nat.le_max_right first.length second.length)]
  · intro same
    rw [← toNatBE_withoutZeros, same, toNatBE_withoutZeros]

end Bytes

namespace DeviceId

/-! ### Ids -/

/-- A text without the NUL characters that it starts with. -/
def withoutNuls (id : String) : String :=
  String.ofList (id.toList.dropWhile (· == '\x00'))

theorem ofText_withoutNuls (id : String) :
    Bytes.ofText (withoutNuls id) = Bytes.withoutZeros (Bytes.ofText id) := by
  have chars (chars : List Char) : Bytes.ofText (String.ofList (chars.dropWhile (· == '\x00')))
      = Bytes.withoutZeros (Bytes.ofText (String.ofList chars)) := by
    induction chars with
    | nil => rfl
    | cons char chars ih =>
      rw [List.dropWhile_cons]
      split
      · next nul =>
        rw [ih, Bytes.ofText_cons, beq_iff_eq.1 nul]
        rfl
      · next other =>
        obtain ⟨first, rest, encoded, positive⟩ :=
          Bytes.exists_utf8EncodeChar (beq_eq_false_iff_ne.1 (Bool.eq_false_iff.2 other))
        rw [Bytes.ofText_cons, encoded, List.cons_append, Bytes.withoutZeros,
          List.dropWhile_cons_of_neg (by simpa using positive)]
  have whole := chars id.toList
  rwa [String.ofList_toList] at whole

/-- An id has a word if it has 1 to 31 bytes: the word of the number that they spell. -/
theorem encode_eq_ok_iff {id : String} {word : Word256} :
    encode id = .ok word ↔ (1 ≤ id.utf8ByteSize ∧ id.utf8ByteSize ≤ maximumLength) ∧
      Word256.ofNat (Bytes.toNatBE (Bytes.ofText id)) = word := by
  have size : (Bytes.ofText id).length = id.utf8ByteSize := rfl
  simp only [encode, size]
  constructor
  · intro encoded
    split at encoded
    · cases encoded
    · split at encoded
      · cases encoded
      · exact ⟨by omega, Except.ok.inj encoded⟩
  · rintro ⟨⟨filled, short⟩, rfl⟩
    rw [if_neg (by omega), if_neg (by omega)]

theorem exists_encode_iff {id : String} : (∃ word, encode id = .ok word) ↔
    1 ≤ id.utf8ByteSize ∧ id.utf8ByteSize ≤ maximumLength := by
  simp only [encode_eq_ok_iff, exists_and_left, exists_eq', and_true]

/-- **Two ids have one word** just if they are equal without the NUL characters that they start
with. -/
theorem word_eq_iff {first second : String} {one other : Word256} (encoded : encode first = .ok one)
    (also : encode second = .ok other) :
    one = other ↔ withoutNuls first = withoutNuls second := by
  have fits {id : String} (short : id.utf8ByteSize ≤ maximumLength) :
      Bytes.toNatBE (Bytes.ofText id) < Bytes.capacity 32 := by
    refine Nat.lt_of_lt_of_le (Bytes.toNatBE_lt _) (Bytes.capacity_mono (Nat.le_trans short ?_))
    decide
  obtain ⟨⟨-, firstFits⟩, rfl⟩ := encode_eq_ok_iff.1 encoded
  obtain ⟨⟨-, secondFits⟩, rfl⟩ := encode_eq_ok_iff.1 also
  rw [← Bytes.ofText_inj, ofText_withoutNuls, ofText_withoutNuls, ← Bytes.toNatBE_eq_iff]
  constructor
  · intro same
    rw [← Word256.toNat_ofNat (fits firstFits), same, Word256.toNat_ofNat (fits secondFits)]
  · intro same
    rw [same]

/-- **What the encoding of ids binds.** An id can be encoded, and enrolled, if it has 1 to 31 bytes,
and its word is canonical. Two ids have one word just if they are equal without the NUL characters
that they start with, and then they have one commitment for every secret. -/
theorem encoding_binds_up_to_nuls (first second : String) :
    ((∃ word, encode first = .ok word) ↔ 1 ≤ first.utf8ByteSize ∧ first.utf8ByteSize ≤ 31) ∧
    (∀ publicKey commitment,
      (∃ credential, Credential.make first publicKey commitment = .ok credential) ↔
        1 ≤ first.utf8ByteSize ∧ first.utf8ByteSize ≤ 31) ∧
    (∀ word, encode first = .ok word → word.toNat < scalarModulus) ∧
    ∀ one other, encode first = .ok one → encode second = .ok other →
      (one = other ↔ withoutNuls first = withoutNuls second) ∧
      (withoutNuls first = withoutNuls second →
        ∀ secret, commitmentOf secret first = commitmentOf secret second) := by
  refine ⟨exists_encode_iff, fun publicKey commitment => ?_, fun word => canonical_of_encode,
    fun one other encoded also => ⟨word_eq_iff encoded also, fun same secret => ?_⟩⟩
  · have enrolled : (∃ credential, Credential.make first publicKey commitment = .ok credential) ↔
        ∃ word, encode first = .ok word := by
      rw [Credential.make]
      rcases encode first with error | word
      · exact ⟨nofun, nofun⟩
      · exact ⟨fun _ => ⟨word, rfl⟩, fun _ => ⟨_, rfl⟩⟩
    exact enrolled.trans exists_encode_iff
  · rw [commitmentOf, commitmentOf, encoded, also, (word_eq_iff encoded also).2 same]

example : (encode "A").toOption = (encode "\x00A").toOption := by decide +kernel

end DeviceId

end DeviceAuth
