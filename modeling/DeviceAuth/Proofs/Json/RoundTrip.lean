import Mathlib.Tactic.SplitIfs
import DeviceAuth.Json.Reader
import DeviceAuth.Json.Writer

/-!
**Reading what was written.** A value whose strings denote texts and whose numbers are integers is
the value of the text that `Json.render` writes for it.

The scanners take a prefix of a text, so each lemma speaks of a rendering with anything after it.
Only a number needs to know what comes next, since digits, a point or an exponent would continue it;
`EndsNumber` says that none of them does.
-/

namespace DeviceAuth.Json

/-! ### Strings -/

/-- The unit that an escaped control character is read as. -/
theorem unitValue?_hexDigitByte (value : Fin 32) :
    unitValue? 48 48 (hexDigitByte (value / 16)) (hexDigitByte (value % 16)) = some value.val := by
  revert value
  decide

theorem utf8EncodeChar_control (value : Fin 32) :
    String.utf8EncodeChar (Char.ofNat value) = [UInt8.ofNat value] := by
  revert value
  decide

/-- A unit that is no surrogate stands alone, whatever part comes next. -/
theorem assemble?_unit_control (value : Fin 32) (parts : List StringPart) :
    assemble? (.unit value :: parts) = (assemble? parts).map (UInt8.ofNat value :: ·) := by
  have low : value.val < 32 := value.isLt
  have joins : (do
      let bytes ← assemble? parts
      return String.utf8EncodeChar (Char.ofNat value) ++ bytes)
        = (assemble? parts).map (UInt8.ofNat value :: ·) := by
    rw [utf8EncodeChar_control]
    cases assemble? parts <;> rfl
  rw [assemble?.eq_def, ← joins]
  cases parts with
  | nil => exact if_neg (by omega)
  | cons part parts =>
    cases part with
    | byte other => exact if_neg (by omega)
    | unit other => exact (if_neg (by omega)).trans (if_neg (by omega))

theorem assemble?_byte (byte : UInt8) (parts : List StringPart) :
    assemble? (.byte byte :: parts) = (assemble? parts).map (byte :: ·) := by
  rw [assemble?]
  cases assemble? parts <;> rfl

theorem scanString_quote (rest : Bytes) : scanString (34 :: rest) = some ([], rest) := by
  rw [scanString.eq_def]
  rfl

/-- An escape of one letter is the byte that it stands for. -/
theorem scanString_shortEscape {mark byte : UInt8} (short : shortEscape? mark = some byte)
    (text : Bytes) :
    scanString (92 :: mark :: text)
      = (scanString text).map fun (parts, rest) => (.byte byte :: parts, rest) := by
  have letter : mark ≠ 117 := by
    rintro rfl
    cases short
  rw [scanString.eq_def]
  simp only [if_neg letter, short, Option.bind_eq_bind, Option.bind_some]
  cases scanString text <;> rfl

theorem scanString_unit {third fourth : UInt8} {value : Nat}
    (unit : unitValue? 48 48 third fourth = some value) (text : Bytes) :
    scanString (92 :: 117 :: 48 :: 48 :: third :: fourth :: text)
      = (scanString text).map fun (parts, rest) => (.unit value :: parts, rest) := by
  rw [scanString.eq_def]
  simp only [unit, Option.bind_eq_bind, Option.bind_some]
  cases scanString text <;> rfl

theorem scanString_shown {byte : UInt8} (quote : byte ≠ 34) (backslash : byte ≠ 92)
    (control : ¬byte < 32) (text : Bytes) :
    scanString (byte :: text)
      = (scanString text).map fun (parts, rest) => (.byte byte :: parts, rest) := by
  rw [scanString.eq_def]
  simp only [if_neg quote, if_neg backslash, if_neg control]
  cases scanString text <;> rfl

/-- A byte as it stands in a literal is one part, and that part spells the byte. -/
theorem scanString_escapeByte (byte : UInt8) :
    ∃ part : StringPart,
      (∀ parts, assemble? (part :: parts) = (assemble? parts).map (byte :: ·)) ∧
      ∀ text, scanString (escapeByte byte ++ text)
        = (scanString text).map fun (parts, rest) => (part :: parts, rest) := by
  unfold escapeByte
  split_ifs with quote backslash backspace tab line form carriage control
  -- Seven bytes have an escape of one letter.
  iterate 7
    · subst byte
      exact ⟨.byte _, assemble?_byte _, scanString_shortEscape rfl⟩
  · have low : byte.toNat < 32 := UInt8.lt_iff_toNat_lt.1 control
    refine ⟨.unit byte.toNat, fun parts => ?_, fun text => ?_⟩
    · simpa using assemble?_unit_control ⟨byte.toNat, low⟩ parts
    · exact scanString_unit (unitValue?_hexDigitByte ⟨byte.toNat, low⟩) text
  · exact ⟨.byte byte, assemble?_byte byte, scanString_shown quote backslash control⟩

theorem scanString_escaped (bytes rest : Bytes) :
    ∃ parts, assemble? parts = some bytes ∧
      scanString (bytes.flatMap escapeByte ++ 34 :: rest) = some (parts, rest) := by
  induction bytes with
  | nil => exact ⟨[], rfl, scanString_quote rest⟩
  | cons byte bytes ih =>
    obtain ⟨parts, spelled, scanned⟩ := ih
    obtain ⟨part, assembled, step⟩ := scanString_escapeByte byte
    refine ⟨part :: parts, by rw [assembled, spelled]; rfl, ?_⟩
    rw [List.flatMap_cons, List.append_assoc, step, scanned]
    rfl

/-- The literal of a text is read as that text. -/
theorem scanString_renderText (text : String) (rest : Bytes) :
    ∃ literal parts, renderText text ++ rest = 34 :: literal ∧
      scanString literal = some (parts, rest) ∧ denoted? parts = some text := by
  obtain ⟨parts, spelled, scanned⟩ := scanString_escaped (Bytes.ofText text) rest
  refine ⟨_, parts, ?_, scanned, ?_⟩
  · simp [renderText]
  · simp [denoted?, spelled]

/-! ### Numbers -/

/-- Nothing at the start of a text continues a number before it. -/
def EndsNumber (text : Bytes) : Prop :=
  ∀ byte ∈ text.head?, isDigitByte byte = false ∧ byte ≠ 46 ∧ byte ≠ 101 ∧ byte ≠ 69

theorem isDigitByte_ofNat {char : Char} (digit : char.isDigit) :
    isDigitByte (UInt8.ofNat char.toNat) = true ∧ (UInt8.ofNat char.toNat).toNat = char.toNat := by
  obtain ⟨low, high⟩ : 48 ≤ char.toNat ∧ char.toNat ≤ 57 := by
    simpa [Char.isDigit, UInt32.le_iff_toNat_le] using digit
  have value : (UInt8.ofNat char.toNat).toNat = char.toNat := by
    rw [UInt8.toNat_ofNat']
    omega
  refine ⟨?_, value⟩
  simp [isDigitByte, UInt8.le_iff_toNat_le, value, low, high]

theorem isDigitByte_renderNat {value : Nat} {byte : UInt8} (mem : byte ∈ renderNat value) :
    isDigitByte byte = true := by
  obtain ⟨char, shown, rfl⟩ := List.mem_map.1 mem
  have digit : char.isDigit := Nat.isDigit_of_mem_toDigits (by decide) (by decide) shown
  exact (isDigitByte_ofNat digit).1

theorem renderNat_ne_nil (value : Nat) : renderNat value ≠ [] := by
  simp [renderNat, Nat.toDigits_ne_nil]

/-- Only the number zero is written with a leading zero. -/
theorem head?_renderNat {value : Nat} (pos : 0 < value) : (renderNat value).head? ≠ some 48 := by
  induction value using Nat.strongRecOn with
  | ind value ih =>
    rw [renderNat]
    by_cases small : value < 10
    · rw [Nat.toDigits_of_lt_base small]
      have each : ∀ digit : Fin 10, 0 < digit.val →
          UInt8.ofNat (Nat.digitChar digit).toNat ≠ 48 := by decide
      simpa using each ⟨value, small⟩ pos
    · have quotient := ih (value / 10) (by omega) (by omega)
      obtain ⟨first, others, digits⟩ :=
        List.exists_cons_of_ne_nil (Nat.toDigits_ne_nil (n := value / 10) (b := 10))
      rw [renderNat, digits] at quotient
      rw [Nat.toDigits_of_base_le (by decide) (by omega), digits]
      exact quotient

theorem digitsValue_renderNat (value : Nat) : digitsValue (renderNat value) = value := by
  have bytes : digitValues (renderNat value) = Text.digitValues (Nat.toDigits 10 value) := by
    rw [digitValues, renderNat, List.map_map]
    refine List.map_congr_left fun char mem => ?_
    have digit := Nat.isDigit_of_mem_toDigits (by decide) (by decide) mem
    rw [Function.comp_apply, (isDigitByte_ofNat digit).2]
  calc digitsValue (renderNat value)
      = Text.decimal (Nat.toDigits 10 value) := by rw [digitsValue, bytes, Text.decimal]
    _ = value := Text.decimal_toDigits value

theorem scanDigits_renderNat (value : Nat) {rest : Bytes} (ends : EndsNumber rest) :
    scanDigits (renderNat value ++ rest) = some (renderNat value, rest) := by
  have digits : ∀ byte ∈ renderNat value, isDigitByte byte = true :=
    fun byte mem => isDigitByte_renderNat mem
  have none : rest.takeWhile isDigitByte = [] ∧ rest.dropWhile isDigitByte = rest := by
    cases rest with
    | nil => exact ⟨rfl, rfl⟩
    | cons byte rest =>
      have other := (ends byte rfl).1
      simp [other]
  rw [scanDigits, List.takeWhile_append_of_pos digits, List.dropWhile_append_of_pos digits,
    none.1, none.2, List.append_nil]
  simp [renderNat_ne_nil]

theorem EndsNumber.scanFraction {text : Bytes} (ends : EndsNumber text) :
    scanFraction text = some (none, text) := by
  unfold Json.scanFraction
  split
  · exact absurd rfl (ends _ rfl).2.1
  · rfl

theorem EndsNumber.scanExponent {text : Bytes} (ends : EndsNumber text) :
    scanExponent text = some (none, text) := by
  cases text with
  | nil => rfl
  | cons byte text =>
    obtain ⟨-, -, lower, upper⟩ := ends byte rfl
    simp [Json.scanExponent, lower, upper]

/-- The literal of an integer is read as that integer. -/
theorem scanNumber_renderInt (value : Int) {rest : Bytes} (ends : EndsNumber rest) :
    scanNumber (renderInt value ++ rest) = some (.integer value, rest) := by
  have plain (magnitude : Nat) :
      ¬((renderNat magnitude).head? = some 48 ∧ (renderNat magnitude).length ≠ 1) := by
    rintro ⟨zero, length⟩
    rcases Nat.eq_zero_or_pos magnitude with rfl | pos
    · exact length rfl
    · exact head?_renderNat pos zero
  cases value with
  | ofNat magnitude =>
    have unsigned (text : Bytes) : renderNat magnitude ++ rest ≠ 45 :: text := by
      obtain ⟨first, others, shape⟩ := List.exists_cons_of_ne_nil (renderNat_ne_nil magnitude)
      have digit : isDigitByte first = true :=
        isDigitByte_renderNat (shape ▸ List.mem_cons_self : first ∈ renderNat magnitude)
      rw [shape, List.cons_append]
      rintro eq
      obtain ⟨rfl, -⟩ := List.cons.inj eq
      exact absurd digit (by decide)
    rw [renderInt, scanNumber]
    · simp only [scanDigits_renderNat magnitude ends, Option.bind_eq_bind, Option.bind_some,
        if_neg (plain magnitude), ends.scanFraction, ends.scanExponent, digitsValue_renderNat]
      rfl
    · exact unsigned
  | negSucc magnitude =>
    rw [renderInt, List.cons_append, scanNumber]
    simp only [scanDigits_renderNat (magnitude + 1) ends, Option.bind_eq_bind, Option.bind_some,
      if_neg (plain (magnitude + 1)), ends.scanFraction, ends.scanExponent, digitsValue_renderNat]
    rfl

/-! ### Values -/

mutual

/-- Whether every string of a value denotes a text and every number is an integer. -/
def isPlain : Json → Bool
  | .null => true
  | .boolean _ => true
  | .number (.integer _) => true
  | .number (.scientific ..) => false
  | .string text => text.isSome
  | .array items => isPlainItems items
  | .object members => isPlainMembers members

/-- `isPlain` of every item. -/
def isPlainItems : List Json → Bool
  | [] => true
  | item :: items => isPlain item && isPlainItems items

/-- `isPlain` of every member. -/
def isPlainMembers : List (Option String × Json) → Bool
  | [] => true
  | (name, value) :: members => name.isSome && isPlain value && isPlainMembers members

end

theorem skipBlanks_cons {byte : UInt8} (shown : isBlankByte byte = false) (text : Bytes) :
    skipBlanks (byte :: text) = byte :: text := by
  simp [skipBlanks, shown]

/-- What a rendered value starts with is no blank and closes no array. -/
theorem render_start (value : Json) (plain : value.isPlain) :
    ∃ byte text, value.render = byte :: text ∧ isBlankByte byte = false ∧ byte ≠ 93 := by
  have number (magnitude : Nat) : ∃ byte text, renderNat magnitude = byte :: text ∧
      isBlankByte byte = false ∧ byte ≠ 93 := by
    obtain ⟨byte, text, shape⟩ := List.exists_cons_of_ne_nil (renderNat_ne_nil magnitude)
    have digit : isDigitByte byte = true :=
      isDigitByte_renderNat (shape ▸ List.mem_cons_self : byte ∈ renderNat magnitude)
    refine ⟨byte, text, shape, ?_, by rintro rfl; exact absurd digit (by decide)⟩
    rw [← Bool.not_eq_true]
    intro blank
    simp only [isBlankByte, Bool.or_eq_true, beq_iff_eq] at blank
    rcases blank with ((rfl | rfl) | rfl) | rfl <;> exact absurd digit (by decide)
  cases value with
  | null => exact ⟨110, _, rfl, rfl, by decide⟩
  | boolean value => cases value <;> exact ⟨_, _, rfl, rfl, by decide⟩
  | number value =>
    cases value with
    | integer value =>
      cases value with
      | ofNat magnitude => exact number magnitude
      | negSucc magnitude => exact ⟨45, _, rfl, rfl, by decide⟩
    | scientific => cases plain
  | string => exact ⟨34, _, rfl, rfl, by decide⟩
  | array => exact ⟨91, _, rfl, rfl, by decide⟩
  | object => exact ⟨123, _, rfl, rfl, by decide⟩

theorem endsNumber_comma (text : Bytes) : EndsNumber (44 :: text) := by
  rintro byte ⟨⟩
  decide

theorem endsNumber_bracket (text : Bytes) : EndsNumber (93 :: text) := by
  rintro byte ⟨⟩
  decide

theorem endsNumber_brace (text : Bytes) : EndsNumber (125 :: text) := by
  rintro byte ⟨⟩
  decide

theorem endsNumber_nil : EndsNumber [] := by
  rintro byte ⟨⟩

/-- A number is scanned as such: its literal starts like no other value. -/
theorem scanValue_renderInt (value : Int) {fuel : Nat} {rest : Bytes} (ends : EndsNumber rest) :
    scanValue (fuel + 1) (renderInt value ++ rest) = some (.number (.integer value), rest) := by
  have start : ∃ byte text, renderInt value = byte :: text ∧
      (byte = 45 ∨ isDigitByte byte = true) := by
    cases value with
    | ofNat magnitude =>
      obtain ⟨byte, text, shape⟩ := List.exists_cons_of_ne_nil (renderNat_ne_nil magnitude)
      refine ⟨byte, text, shape, .inr ?_⟩
      exact isDigitByte_renderNat (shape ▸ List.mem_cons_self : byte ∈ renderNat magnitude)
    | negSucc magnitude => exact ⟨45, _, rfl, .inl rfl⟩
  obtain ⟨byte, text, shape, first⟩ := start
  have other (mark : UInt8) (distinct : mark ≠ 45 ∧ isDigitByte mark = false) : byte ≠ mark := by
    rintro rfl
    simp_all
  have shown : isBlankByte byte = false := by
    simp [isBlankByte, other 32 (by decide), other 9 (by decide), other 10 (by decide),
      other 13 (by decide)]
  have literal := scanNumber_renderInt value ends
  rw [shape, List.cons_append] at literal ⊢
  rw [scanValue, skipBlanks_cons shown]
  simp only [if_neg (other 34 (by decide)), if_neg (other 123 (by decide)),
    if_neg (other 91 (by decide)), if_neg (other 116 (by decide)), if_neg (other 102 (by decide)),
    if_neg (other 110 (by decide)), literal]
  rfl

theorem scanValue_array {fuel : Nat} {byte : UInt8} {text rest : Bytes} {items : List Json}
    (shown : isBlankByte byte = false) (more : byte ≠ 93)
    (scanned : scanItems fuel (byte :: text) = some (items, rest)) :
    scanValue (fuel + 1) (91 :: byte :: text) = some (.array items, rest) := by
  rw [scanValue, skipBlanks_cons rfl]
  dsimp only
  rw [if_neg (by decide), if_neg (by decide), if_pos rfl, skipBlanks_cons shown]
  split
  · rename_i closing
    exact absurd (List.cons.inj closing).1 more
  · rw [scanned]
    rfl

theorem scanValue_object {fuel : Nat} {text rest : Bytes} {members : List (Option String × Json)}
    (scanned : scanMembers fuel (34 :: text) = some (members, rest)) :
    scanValue (fuel + 1) (123 :: 34 :: text) = some (.object members, rest) := by
  rw [scanValue, skipBlanks_cons rfl]
  dsimp only
  rw [if_neg (by decide), if_pos rfl, skipBlanks_cons rfl]
  show (scanMembers fuel (34 :: text)).map _ = _
  rw [scanned]
  rfl

theorem renderItems_cons (item : Json) (items : List Json) :
    ∃ more, renderItems (item :: items) = item.render ++ more := by
  cases items with
  | nil => exact ⟨[], by simp [renderItems]⟩
  | cons next items => exact ⟨44 :: renderItems (next :: items), by simp [renderItems]⟩

theorem renderMembers_cons (member : Option String × Json)
    (members : List (Option String × Json)) :
    ∃ text, renderMembers (member :: members) = 34 :: text := by
  obtain ⟨name, value⟩ := member
  cases members <;> exact ⟨_, rfl⟩

mutual

theorem scanValue_render (value : Json) (plain : value.isPlain) {fuel : Nat} {rest : Bytes}
    (enough : value.render.length < fuel) (ends : EndsNumber rest) :
    scanValue fuel (value.render ++ rest) = some (value, rest) := by
  obtain ⟨fuel, rfl⟩ := Nat.exists_eq_succ_of_ne_zero (Nat.ne_zero_of_lt enough)
  match value with
  | .null => rfl
  | .boolean true => rfl
  | .boolean false => rfl
  | .number (.integer value) => exact scanValue_renderInt value ends
  | .string (some text) =>
    obtain ⟨literal, parts, shape, scanned, denoted⟩ := scanString_renderText text rest
    rw [render, renderString, Option.getD_some, shape, scanValue, skipBlanks_cons rfl]
    simp only [if_pos, scanned, Option.map_some, denoted]
  | .array [] => rfl
  | .array (item :: items) =>
    have plains : isPlainItems (item :: items) := by simpa only [isPlain] using plain
    have room : (renderItems (item :: items)).length + 1 < fuel := by
      simp only [render, List.length_cons, List.length_append, List.length_nil] at enough
      omega
    have scanned := scanItems_renderItems (item :: items) (List.cons_ne_nil _ _) plains room rest
    obtain ⟨more, text⟩ := renderItems_cons item items
    have one : item.isPlain := by
      simp only [isPlainItems, Bool.and_eq_true] at plains
      exact plains.1
    obtain ⟨byte, shown, start, blank, distinct⟩ := render_start item one
    rw [render, List.cons_append, List.append_assoc, List.singleton_append]
    rw [text, start, List.cons_append, List.cons_append] at scanned ⊢
    exact scanValue_array blank distinct scanned
  | .object [] => rfl
  | .object (member :: members) =>
    have plains : isPlainMembers (member :: members) := by simpa only [isPlain] using plain
    have room : (renderMembers (member :: members)).length + 1 < fuel := by
      simp only [render, List.length_cons, List.length_append, List.length_nil] at enough
      omega
    have scanned := scanMembers_renderMembers (member :: members) (List.cons_ne_nil _ _)
      plains room rest
    obtain ⟨text, start⟩ := renderMembers_cons member members
    rw [render, List.cons_append, List.append_assoc, List.singleton_append]
    rw [start, List.cons_append] at scanned ⊢
    exact scanValue_object scanned

theorem scanItems_renderItems (items : List Json) (nonempty : items ≠ [])
    (plain : isPlainItems items) {fuel : Nat} (enough : (renderItems items).length + 1 < fuel)
    (rest : Bytes) : scanItems fuel (renderItems items ++ 93 :: rest) = some (items, rest) := by
  obtain ⟨fuel, rfl⟩ := Nat.exists_eq_succ_of_ne_zero (Nat.ne_zero_of_lt enough)
  match items with
  | [] => exact absurd rfl nonempty
  | [item] =>
    have one : isPlain item := by simpa [isPlainItems] using plain
    rw [renderItems] at enough ⊢
    rw [scanItems, scanValue_render item one (by omega) (endsNumber_bracket rest)]
    rfl
  | item :: next :: items =>
    obtain ⟨one, others⟩ : isPlain item ∧ isPlainItems (next :: items) := by
      simpa only [isPlainItems, Bool.and_eq_true] using plain
    have text : renderItems (item :: next :: items)
        = item.render ++ 44 :: renderItems (next :: items) := by simp only [renderItems]
    rw [text, List.length_append, List.length_cons] at enough
    rw [text, List.append_assoc, List.cons_append, scanItems,
      scanValue_render item one (by omega) (endsNumber_comma _)]
    have later := scanItems_renderItems (next :: items) (List.cons_ne_nil _ _) others
      (show (renderItems (next :: items)).length + 1 < fuel by omega) rest
    simp only [Option.bind_eq_bind, Option.bind_some,
      skipBlanks_cons (rfl : isBlankByte 44 = false), later]
    rfl

theorem scanMembers_renderMembers (members : List (Option String × Json)) (nonempty : members ≠ [])
    (plain : isPlainMembers members) {fuel : Nat}
    (enough : (renderMembers members).length + 1 < fuel) (rest : Bytes) :
    scanMembers fuel (renderMembers members ++ 125 :: rest) = some (members, rest) := by
  obtain ⟨fuel, rfl⟩ := Nat.exists_eq_succ_of_ne_zero (Nat.ne_zero_of_lt enough)
  match members with
  | [] => exact absurd rfl nonempty
  | [(some name, value)] =>
    have one : isPlain value := by simpa [isPlainMembers] using plain
    obtain ⟨literal, parts, shape, scanned, denoted⟩ :=
      scanString_renderText name (58 :: (value.render ++ 125 :: rest))
    simp only [renderMembers, List.length_append, List.length_cons] at enough
    simp only [renderMembers, renderString, Option.getD_some, List.append_assoc, List.cons_append]
    have valued := scanValue_render value one (show value.render.length < fuel by omega)
      (endsNumber_brace rest)
    rw [shape, scanMembers, skipBlanks_cons rfl]
    simp only [scanned, Option.bind_eq_bind, Option.bind_some,
      skipBlanks_cons (rfl : isBlankByte 58 = false), valued, denoted]
    rfl
  | (some name, value) :: next :: members =>
    obtain ⟨one, others⟩ : isPlain value ∧ isPlainMembers (next :: members) := by
      simpa [isPlainMembers, Bool.and_eq_true] using plain
    have text : renderMembers ((some name, value) :: next :: members) = renderText name
        ++ 58 :: (value.render ++ 44 :: renderMembers (next :: members)) := by
      simp only [renderMembers, renderString, Option.getD_some]
    obtain ⟨literal, parts, shape, scanned, denoted⟩ := scanString_renderText name
      (58 :: (value.render ++ 44 :: (renderMembers (next :: members) ++ 125 :: rest)))
    simp only [text, List.length_append, List.length_cons] at enough
    have later := scanMembers_renderMembers (next :: members) (List.cons_ne_nil _ _) others
      (show (renderMembers (next :: members)).length + 1 < fuel by omega) rest
    have valued := scanValue_render value one (show value.render.length < fuel by omega)
      (endsNumber_comma (renderMembers (next :: members) ++ 125 :: rest))
    simp only [text, List.append_assoc, List.cons_append]
    rw [shape, scanMembers, skipBlanks_cons rfl]
    simp only [scanned, Option.bind_eq_bind, Option.bind_some,
      skipBlanks_cons (rfl : isBlankByte 58 = false), skipBlanks_cons (rfl : isBlankByte 44 = false),
      denoted, valued, later]
    rfl

end

/-- A plain value is the value of its own text. -/
theorem parse?_render {value : Json} (plain : value.isPlain) : parse? value.render = some value := by
  have scanned := scanValue_render value plain (Nat.lt_succ_self _) endsNumber_nil
  rw [List.append_nil] at scanned
  rw [parse?, parseStart?, scanned]
  rfl

/-- A text that has a value starts with it. -/
theorem exists_parseStart? {text : Bytes} {value : Json} (parses : parse? text = some value) :
    ∃ rest, parseStart? text = some (value, rest) := by
  rw [parse?] at parses
  rcases started : parseStart? text with _ | ⟨first, rest⟩ <;> rw [started] at parses
  · cases parses
  · obtain ⟨-, same⟩ := Option.ite_none_right_eq_some.mp parses
    cases same
    exact ⟨rest, rfl⟩

end DeviceAuth.Json
