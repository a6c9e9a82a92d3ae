import Mathlib.Data.List.Basic
import DeviceAuth.Proofs.Sequence
import DeviceAuth.Proofs.Text.Utf8
import DeviceAuth.Text.Base64

/-!
**What Base64 writes reads back, and nothing else does.** The text of a byte string is the symbols
of its `sextets`, and padding if the variant asks for it. The count of sextets says how much padding
belongs there, and the sextets spell the bytes without bits left over; so a reader that knows its
own symbols (`Variant.Lawful`) takes every check of a written text. A reader that knows no others
(`Variant.Strict`) reads a text only as a byte string that this is the text of
(`Variant.Strict.decode_eq_ok_iff`).
-/

namespace DeviceAuth.Base64

/-- The six-bit values that a byte string is written as. -/
def sextets : Bytes → List Nat
  | first :: second :: third :: rest =>
    [first.toNat / 4, first.toNat % 4 * 16 + second.toNat / 16,
      second.toNat % 16 * 4 + third.toNat / 64, third.toNat % 64] ++ sextets rest
  | [first, second] =>
    [first.toNat / 4, first.toNat % 4 * 16 + second.toNat / 16, second.toNat % 16 * 4]
  | [first] => [first.toNat / 4, first.toNat % 4 * 16]
  | [] => []

theorem sextets_lt (bytes : Bytes) : ∀ value ∈ sextets bytes, value < 64 := by
  induction bytes using sextets.induct with
  | case1 first second third rest ih =>
    have firstLt := first.toNat_lt
    have secondLt := second.toNat_lt
    have thirdLt := third.toNat_lt
    simp only [sextets, List.mem_append, List.mem_cons, List.not_mem_nil, or_false]
    rintro value ((rfl | rfl | rfl | rfl) | mem)
    · omega
    · omega
    · omega
    · omega
    · exact ih value mem
  | case2 first second =>
    have firstLt := first.toNat_lt
    have secondLt := second.toNat_lt
    simp only [sextets, List.mem_cons, List.not_mem_nil, or_false]
    rintro value (rfl | rfl | rfl) <;> omega
  | case3 first =>
    have firstLt := first.toNat_lt
    simp only [sextets, List.mem_cons, List.not_mem_nil, or_false]
    rintro value (rfl | rfl) <;> omega
  | case4 => simp [sextets]

theorem ofNat_eq_of_mod {value : Nat} (byte : UInt8) (same : value % 256 = byte.toNat) :
    UInt8.ofNat value = byte := by
  apply UInt8.toNat_inj.1
  rw [UInt8.toNat_ofNat', same]

theorem bytesOfValues_sextets (bytes : Bytes) : bytesOfValues (sextets bytes) = (bytes, false) := by
  induction bytes using sextets.induct with
  | case1 first second third rest ih =>
    have firstLt := first.toNat_lt
    have secondLt := second.toNat_lt
    have thirdLt := third.toNat_lt
    simp only [sextets, List.cons_append, List.nil_append, bytesOfValues, ih]
    rw [ofNat_eq_of_mod first (by omega), ofNat_eq_of_mod second (by omega),
      ofNat_eq_of_mod third (by omega)]
  | case2 first second =>
    have firstLt := first.toNat_lt
    have secondLt := second.toNat_lt
    have nothingLeft : second.toNat % 16 * 4 % 4 = 0 := by omega
    simp only [sextets, bytesOfValues, nothingLeft]
    rw [ofNat_eq_of_mod first (by omega), ofNat_eq_of_mod second (by omega)]
    rfl
  | case3 first =>
    have firstLt := first.toNat_lt
    have nothingLeft : first.toNat % 4 * 16 % 16 = 0 := by omega
    simp only [sextets, bytesOfValues, nothingLeft]
    rw [ofNat_eq_of_mod first (by omega)]
    rfl
  | case4 => rfl

/-- How many padding bytes follow the symbols of a byte string. -/
def Variant.paddingCount (variant : Variant) (bytes : Bytes) : Nat :=
  if variant.padded then (3 - bytes.length % 3) % 3 else 0

theorem Variant.encodeChars_eq (variant : Variant) (bytes : Bytes) :
    variant.encodeChars bytes = (sextets bytes).map variant.symbol
      ++ List.replicate (variant.paddingCount bytes) '=' := by
  induction bytes using sextets.induct with
  | case1 first second third rest ih =>
    have count : variant.paddingCount (first :: second :: third :: rest)
        = variant.paddingCount rest := by
      simp only [paddingCount, List.length_cons]
      split <;> omega
    rw [encodeChars, ih, count]
    simp [sextets]
  | case2 first second =>
    simp only [encodeChars, sextets, paddingCount, List.map_cons, List.map_nil, List.length_cons,
      List.length_nil]
    split <;> rfl
  | case3 first =>
    simp only [encodeChars, sextets, paddingCount, List.map_cons, List.map_nil, List.length_cons,
      List.length_nil]
    split <;> rfl
  | case4 => simp [encodeChars, sextets, paddingCount]

/-- The symbols of a byte string fill groups of four, but for the last group. -/
theorem length_sextets (bytes : Bytes) :
    bytes.length % 3 = 0 ∧ (sextets bytes).length % 4 = 0 ∨
      bytes.length % 3 = 1 ∧ (sextets bytes).length % 4 = 2 ∨
      bytes.length % 3 = 2 ∧ (sextets bytes).length % 4 = 3 := by
  induction bytes using sextets.induct with
  | case1 first second third rest ih =>
    simp only [sextets, List.length_append, List.length_cons, List.length_nil]
    omega
  | case2 => simp [sextets]
  | case3 => simp [sextets]
  | case4 => simp [sextets]

/-- Padding stands after two or three symbols of a group and fills the group. -/
theorem Variant.paddingCount_fills (variant : Variant) (bytes : Bytes) :
    (0 < variant.paddingCount bytes →
        2 ≤ (sextets bytes).length % 4 ∧
        (sextets bytes).length % 4 + variant.paddingCount bytes = 4) ∧
      (if variant.padded then ((sextets bytes).length + variant.paddingCount bytes) % 4 = 0
        else variant.paddingCount bytes = 0) := by
  rw [paddingCount]
  split
  · rcases length_sextets bytes with ⟨left, last⟩ | ⟨left, last⟩ | ⟨left, last⟩ <;> rw [left] <;>
      omega
  · exact ⟨fun none => absurd none (Nat.lt_irrefl 0), rfl⟩

/-- A variant whose symbols are ASCII characters other than the padding, each read as the value
that it is written for. -/
structure Variant.Lawful (variant : Variant) : Prop where
  ascii : ∀ value < 64, (variant.symbol value).toNat < 128
  value_symbol : ∀ value < 64,
    variant.value? (UInt8.ofNat (variant.symbol value).toNat) = some value
  padding_foreign : variant.value? padding = none

theorem standard_lawful : standard.Lawful where
  ascii := by decide
  value_symbol value small := standard_value?_symbol ⟨value, small⟩
  padding_foreign := rfl

theorem urlSafe_lawful : urlSafe.Lawful where
  ascii := by decide
  value_symbol value small := urlSafe_value?_symbol ⟨value, small⟩
  padding_foreign := rfl

namespace Variant.Lawful

variable {variant : Variant}

/-- The byte of the symbol of a value. -/
def byteOf (variant : Variant) (value : Nat) : UInt8 :=
  UInt8.ofNat (variant.symbol value).toNat

theorem ofText_encode (lawful : variant.Lawful) (bytes : Bytes) :
    Bytes.ofText (variant.encode bytes) = (sextets bytes).map (byteOf variant)
      ++ List.replicate (variant.paddingCount bytes) padding := by
  have ascii : ∀ char ∈ variant.encodeChars bytes, char.toNat < 128 := by
    rw [variant.encodeChars_eq]
    intro char mem
    rcases List.mem_append.1 mem with symbol | pad
    · obtain ⟨value, sextet, rfl⟩ := List.mem_map.1 symbol
      exact lawful.ascii value (sextets_lt bytes value sextet)
    · rw [List.eq_of_mem_replicate pad]
      decide
  rw [encode, Bytes.ofText_ofList ascii, variant.encodeChars_eq, List.map_append, List.map_map,
    List.map_replicate]
  rfl

/-- The symbols are the longest part of a written text that consists of symbols. -/
theorem symbols_encode (lawful : variant.Lawful) {values : List Nat}
    (small : ∀ value ∈ values, value < 64) (count : Nat) :
    (values.map (byteOf variant) ++ List.replicate count padding).takeWhile
        (fun byte => (variant.value? byte).isSome) = values.map (byteOf variant) ∧
      (values.map (byteOf variant) ++ List.replicate count padding).dropWhile
        (fun byte => (variant.value? byte).isSome) = List.replicate count padding := by
  have symbols : ∀ byte ∈ values.map (byteOf variant), (variant.value? byte).isSome = true := by
    intro byte mem
    obtain ⟨value, sextet, rfl⟩ := List.mem_map.1 mem
    rw [byteOf, lawful.value_symbol value (small value sextet)]
    rfl
  have foreign : (variant.value? padding).isSome = false := by rw [lawful.padding_foreign]; rfl
  rw [List.takeWhile_append_of_pos symbols, List.dropWhile_append_of_pos symbols]
  cases count with
  | zero => simp
  | succ count => simp [List.replicate_succ, foreign]

theorem filterMap_symbols (lawful : variant.Lawful) {values : List Nat}
    (small : ∀ value ∈ values, value < 64) :
    (values.map (byteOf variant)).filterMap variant.value? = values := by
  rw [List.filterMap_map]
  calc values.filterMap (variant.value? ∘ byteOf variant)
      = values.filterMap some :=
        List.filterMap_congr fun value mem => lawful.value_symbol value (small value mem)
    _ = values := List.filterMap_some

/-- **What is written reads back.** -/
theorem decode_encode (lawful : variant.Lawful) (bytes : Bytes) :
    variant.decode (variant.encode bytes) = .ok bytes := by
  have small := sextets_lt bytes
  obtain ⟨symbols, tail⟩ := lawful.symbols_encode small (variant.paddingCount bytes)
  have groups := length_sextets bytes
  obtain ⟨last, filled⟩ := variant.paddingCount_fills bytes
  have length : (Bytes.ofText (variant.encode bytes)).length
      = (sextets bytes).length + variant.paddingCount bytes := by
    rw [lawful.ofText_encode, List.length_append, List.length_map, List.length_replicate]
  have lengthOk : variant.checkLength (Bytes.ofText (variant.encode bytes)) = .ok () := by
    rw [checkLength, if_neg]
    omega
  have tailOk : checkTail (sextets bytes).length
      (List.replicate (variant.paddingCount bytes) padding) = .ok () := by
    cases count : variant.paddingCount bytes with
    | zero => rfl
    | succ more =>
      obtain ⟨two, four⟩ := last (by omega)
      have blank : (List.replicate more padding).all (· == padding) = true := by
        simp [List.all_replicate]
      rw [List.replicate_succ, checkTail, if_neg (fun foreign => foreign rfl), if_pos]
      rw [List.length_replicate]
      exact ⟨two, blank, by omega⟩
  have padded : (if variant.padded then
      (Bytes.ofText (variant.encode bytes)).length % 4 != 0
      else (List.replicate (variant.paddingCount bytes) padding).length != 0) = false := by
    rw [length, List.length_replicate]
    split at filled <;> simp_all
  rw [decode, decodeBytes, lengthOk]
  rw [lawful.ofText_encode] at padded ⊢
  simp only [symbols, tail, List.length_map, tailOk, padded, lawful.filterMap_symbols small,
    bytesOfValues_sextets]
  rfl

end Variant.Lawful

/-! ### Nothing else is read -/

/-- Values that spell bytes, with no bits left over, are the sextets of these bytes. -/
theorem sextets_bytesOfValues {values : List Nat} (small : ∀ value ∈ values, value < 64)
    (whole : values.length % 4 ≠ 1) (clean : (bytesOfValues values).2 = false) :
    sextets (bytesOfValues values).1 = values := by
  induction values using bytesOfValues.induct with
  | case1 first second third fourth rest _ _ _ ih =>
    have later := ih (fun value mem => small value (by simp [mem]))
      (by simp only [List.length_cons] at whole; omega) (by simpa [bytesOfValues] using clean)
    have firstLt := small first (by simp)
    have secondLt := small second (by simp)
    have thirdLt := small third (by simp)
    have fourthLt := small fourth (by simp)
    simp only [bytesOfValues, sextets, later, UInt8.toNat_ofNat', List.cons_append,
      List.nil_append, List.cons.injEq, and_true]
    omega
  | case2 first second third =>
    have firstLt := small first (by simp)
    have secondLt := small second (by simp)
    have thirdLt := small third (by simp)
    simp only [bytesOfValues, bne_eq_false_iff_eq] at clean
    simp only [bytesOfValues, sextets, UInt8.toNat_ofNat', List.cons.injEq, and_true]
    omega
  | case3 first second =>
    have firstLt := small first (by simp)
    have secondLt := small second (by simp)
    simp only [bytesOfValues, bne_eq_false_iff_eq] at clean
    simp only [bytesOfValues, sextets, UInt8.toNat_ofNat', List.cons.injEq, and_true]
    omega
  | case4 values four three two =>
    match values with
    | [] => rfl
    | [_] => exact absurd rfl whole
    | [first, second] => exact absurd rfl (two first second)
    | [first, second, third] => exact absurd rfl (three first second third)
    | first :: second :: third :: fourth :: rest =>
      exact absurd rfl (four first second third fourth rest)

/-- What is accepted after the symbols is padding, within the last group. -/
theorem eq_replicate_of_checkTail {count : Nat} {tail : Bytes}
    (accepted : checkTail count tail = .ok ()) :
    tail = List.replicate tail.length padding ∧
      (0 < tail.length → 2 ≤ count % 4 ∧ count % 4 + tail.length ≤ 4) := by
  cases tail with
  | nil => exact ⟨rfl, fun some => absurd some (Nat.lt_irrefl 0)⟩
  | cons byte rest =>
    by_cases same : byte = padding
    · rw [checkTail, if_neg (not_not.2 same)] at accepted
      by_cases fits : 2 ≤ count % 4 ∧ rest.all (· == padding) ∧ count % 4 + 1 + rest.length ≤ 4
      · obtain ⟨two, blank, four⟩ := fits
        have pads : ∀ other ∈ rest, other = padding := by simpa using blank
        refine ⟨?_, fun _ => ⟨two, ?_⟩⟩
        · rw [List.length_cons, List.replicate_succ, same, ← List.eq_replicate_of_mem pads]
        · rw [List.length_cons]
          omega
      · rw [if_neg fits] at accepted
        cases accepted
    · rw [checkTail, if_pos same] at accepted
      cases accepted

/-- A lawful variant that takes nothing for a symbol but the symbols that it writes. -/
structure Variant.Strict (variant : Variant) : Prop extends variant.Lawful where
  symbol_value : ∀ byte value, variant.value? byte = some value →
    value < 64 ∧ byte = Variant.Lawful.byteOf variant value

/-- That every byte is a symbol that is written, or none, can be checked byte by byte. -/
theorem Variant.Lawful.strict {variant : Variant} (lawful : variant.Lawful)
    (each : ∀ code < 256, (variant.value? (UInt8.ofNat code)).all fun value =>
      decide (value < 64 ∧ UInt8.ofNat code = byteOf variant value)) : variant.Strict where
  toLawful := lawful
  symbol_value byte value symbol := by
    have this := each byte.toNat byte.toNat_lt
    rwa [UInt8.ofNat_toNat, symbol, Option.all_some, decide_eq_true_eq] at this

theorem standard_strict : standard.Strict :=
  standard_lawful.strict (by decide +kernel)

theorem urlSafe_strict : urlSafe.Strict :=
  urlSafe_lawful.strict (by decide +kernel)

namespace Variant.Strict

open Variant.Lawful

variable {variant : Variant}

/-- Symbols are what their values are written as. -/
theorem map_filterMap_symbols (strict : variant.Strict) {symbols : Bytes}
    (known : ∀ byte ∈ symbols, (variant.value? byte).isSome = true) :
    (∀ value ∈ symbols.filterMap variant.value?, value < 64) ∧
      (symbols.filterMap variant.value?).map (byteOf variant) = symbols := by
  induction symbols with
  | nil => exact ⟨fun value mem => absurd mem List.not_mem_nil, rfl⟩
  | cons byte rest ih =>
    obtain ⟨value, symbol⟩ := Option.isSome_iff_exists.1 (known byte List.mem_cons_self)
    obtain ⟨small, written⟩ := strict.symbol_value byte value symbol
    obtain ⟨later, same⟩ := ih fun other mem => known other (List.mem_cons_of_mem _ mem)
    rw [List.filterMap_cons_some symbol, List.map_cons, same, ← written]
    exact ⟨List.forall_mem_cons.2 ⟨small, later⟩, rfl⟩

/-- The checks that a text has taken, if it is read. -/
theorem checks_of_decodeBytes {text bytes : Bytes} (read : variant.decodeBytes text = .ok bytes) :
    ∃ symbols tail, text = symbols ++ tail ∧
      (∀ byte ∈ symbols, (variant.value? byte).isSome = true) ∧
      text.length % 4 ≠ 1 ∧
      checkTail symbols.length tail = .ok () ∧
      (if variant.padded then text.length % 4 = 0 else tail = []) ∧
      bytesOfValues (symbols.filterMap variant.value?) = (bytes, false) := by
  obtain ⟨_, lengthOk, read⟩ := Except.of_bind_eq_ok read
  obtain ⟨_, tailOk, read⟩ := Except.of_bind_eq_ok read
  refine ⟨_, _, List.takeWhile_append_dropWhile.symm, List.all_eq_true.1 List.all_takeWhile,
    fun odd => ?_, tailOk, ?_⟩
  · rw [checkLength, if_pos odd] at lengthOk
    split at lengthOk
    · split at lengthOk <;> cases lengthOk
    · cases lengthOk
  · generalize text.takeWhile _ = symbols at read ⊢
    generalize text.dropWhile _ = tail at read ⊢
    rcases spelled : bytesOfValues (symbols.filterMap variant.value?) with ⟨result, leftOver⟩
    generalize test : (if variant.padded then text.length % 4 != 0 else tail.length != 0)
      = unfilled at read
    rw [spelled] at read
    cases unfilled with
    | true => cases read
    | false =>
      cases leftOver with
      | true => cases read
      | false =>
        cases read
        refine ⟨?_, rfl⟩
        split at test <;> simp_all

/-- A text that is read as a byte string is the text of that byte string. -/
theorem eq_of_decodeBytes (strict : variant.Strict) {text bytes : Bytes}
    (read : variant.decodeBytes text = .ok bytes) :
    text = (sextets bytes).map (byteOf variant)
      ++ List.replicate (variant.paddingCount bytes) padding := by
  obtain ⟨symbols, tail, rfl, known, whole, tailOk, filled, spelled⟩ := checks_of_decodeBytes read
  obtain ⟨pads, within⟩ := eq_replicate_of_checkTail tailOk
  obtain ⟨small, written⟩ := strict.map_filterMap_symbols known
  have count : (symbols.filterMap variant.value?).length = symbols.length := by
    rw [← List.length_map (byteOf variant), written]
  rw [List.length_append] at whole filled
  have last : symbols.length % 4 ≠ 1 := by
    split at filled
    · omega
    · rwa [filled, List.length_nil, Nat.add_zero] at whole
  have values : sextets bytes = symbols.filterMap variant.value? := by
    have same := sextets_bytesOfValues small (by rwa [count]) (by rw [spelled])
    rwa [spelled] at same
  have padCount : variant.paddingCount bytes = tail.length := by
    have groups := length_sextets bytes
    rw [values, count] at groups
    rw [paddingCount]
    split at filled
    · next padded =>
      rw [if_pos padded]
      omega
    · next bare => rw [if_neg bare, filled, List.length_nil]
  rw [values, written, padCount, ← pads]

/-- **A text is read as a byte string if it is the text of that byte string**, and only then. -/
theorem decode_eq_ok_iff (strict : variant.Strict) {text : String} {bytes : Bytes} :
    variant.decode text = .ok bytes ↔ text = variant.encode bytes := by
  refine ⟨fun read => ?_, fun same => same ▸ strict.decode_encode bytes⟩
  rw [← Bytes.ofText_inj, strict.ofText_encode]
  exact strict.eq_of_decodeBytes read

end Variant.Strict

end DeviceAuth.Base64
