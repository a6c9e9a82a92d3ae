import DeviceAuth.Bytes

/-!
**The bytes of a text.** An ASCII character is one byte, its code, and bytes that are such codes are
those of ASCII characters. A character other than NUL does not start with a zero byte.
-/

namespace DeviceAuth.Bytes

/-- The bytes of a text are those of its first character and those of the rest. -/
theorem ofText_cons (char : Char) (chars : List Char) :
    ofText (String.ofList (char :: chars))
      = String.utf8EncodeChar char ++ ofText (String.ofList chars) := by
  rw [ofText, ofText, String.toByteArray_ofList, String.toByteArray_ofList, List.utf8Encode_cons,
    List.utf8Encode_singleton, ByteArray.data_append, Array.toList_append,
    List.toList_data_toByteArray]

/-- The bytes of a text of ASCII characters are their codes. -/
theorem ofText_ofList {chars : List Char} (ascii : ∀ char ∈ chars, char.toNat < 128) :
    ofText (String.ofList chars) = chars.map fun char => UInt8.ofNat char.toNat := by
  induction chars with
  | nil => rfl
  | cons first rest ih =>
    have small : first.toNat ≤ 127 := Nat.le_of_lt_succ (ascii first List.mem_cons_self)
    have code : String.utf8EncodeChar first = [UInt8.ofNat first.toNat] := if_pos small
    have later := ih fun char member => ascii char (List.mem_cons_of_mem _ member)
    rw [ofText_cons, code, later]
    rfl

/-- A text whose bytes are codes of ASCII characters consists of these characters. -/
theorem exists_ofList_of_ascii {text : String}
    (ascii : ∀ byte ∈ ofText text, byte.toNat < 128) :
    ∃ chars : List Char, text = String.ofList chars ∧ ∀ char ∈ chars, char.toNat < 128 := by
  have codes : ∀ code < 128, (Char.ofNat code).toNat = code := by decide
  let chars := (ofText text).map fun byte => Char.ofNat byte.toNat
  have small : ∀ char ∈ chars, char.toNat < 128 := by
    intro char mem
    obtain ⟨byte, inside, rfl⟩ := List.mem_map.1 mem
    rw [codes _ (ascii byte inside)]
    exact ascii byte inside
  refine ⟨chars, ofText_inj.1 ?_, small⟩
  rw [ofText_ofList small, List.map_map, eq_comm]
  refine (List.map_congr_left fun byte mem => ?_).trans (List.map_id _)
  rw [Function.comp_apply, codes _ (ascii byte mem), UInt8.ofNat_toNat, id]

/-- The first byte of a character other than NUL is not zero. -/
theorem exists_utf8EncodeChar {char : Char} (other : char ≠ '\x00') :
    ∃ first rest, String.utf8EncodeChar char = first :: rest ∧ first ≠ 0 := by
  have lead {code : Nat} (positive : 0 < code) (small : code < 256) : UInt8.ofNat code ≠ 0 := by
    intro zero
    have same := congrArg UInt8.toNat zero
    rw [UInt8.toNat_ofNat'] at same
    change code % 256 = 0 at same
    omega
  have positive : 0 < char.val.toNat := by
    refine Nat.pos_of_ne_zero fun zero => other ?_
    rw [← Char.ofNat_toNat char, Char.toNat, zero]
  unfold String.utf8EncodeChar
  dsimp only
  split
  · exact ⟨_, _, rfl, lead positive (by omega)⟩
  · split
    · exact ⟨_, _, rfl, lead (by omega) (by omega)⟩
    · split <;> exact ⟨_, _, rfl, lead (by omega) (by omega)⟩

end DeviceAuth.Bytes
