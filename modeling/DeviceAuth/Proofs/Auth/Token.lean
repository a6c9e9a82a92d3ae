import DeviceAuth.Auth.Token
import DeviceAuth.Proofs.Json.Record
import DeviceAuth.Proofs.Text.Base64

/-!
**A signed token verifies to its claims, and tokens have one form.** Under the key that signed it,
and whatever the claims are: no segment contains a dot, the tag is the tag of the two segments
before it, and each segment reads back as the value that it was written from
(`TokenKey.verify_sign`).

A text is verified to claims if it is a header and claims with the tag of these two segments, each
in the one text that Base64 has for it (`TokenKey.tokens_have_one_form`).
-/

namespace DeviceAuth

theorem TokenClaims.ofJson?_toJson (claims : TokenClaims) :
    ofJson? claims.toJson = some claims := by
  have fields : claims.toJson.fields? ["device_id", "session_id", "sub", "iat", "nbf", "exp"]
      = some [some (Json.ofText claims.deviceId), some (Json.ofText claims.sessionId),
        some (Json.ofText claims.subject), some (Json.ofInt claims.issuedAt.toInt),
        some (Json.ofInt claims.notBefore.toInt), some (Json.ofInt claims.expiresAt.toInt)] :=
    Json.fields?_ofMembers rfl (by decide)
  rw [ofJson?, fields]
  simp only [Option.bind_eq_bind, Option.bind_some, Json.required?, Json.signed64?_ofInt,
    Json.ofText, Json.text?]
  rfl

theorem TokenKind.ofJson?_toJson (kind : TokenKind) : ofJson? kind.toJson = some kind := by
  have fields : kind.toJson.fields? ["alg", "typ"]
      = some [some (Json.ofText kind.algorithm), some (Json.ofText kind.kind)] :=
    Json.fields?_ofMembers rfl (by decide)
  rw [ofJson?, fields]
  rfl

theorem TokenClaims.isPlain_toJson (claims : TokenClaims) : claims.toJson.isPlain := rfl

theorem TokenKind.isPlain_toJson (kind : TokenKind) : kind.toJson.isPlain := rfl

namespace TokenKey

/-! ### Segments -/

theorem splitAtDots_solid {chars : List Char} (solid : '.' ∉ chars) :
    splitAtDots chars = [chars] := by
  induction chars with
  | nil => rfl
  | cons char chars ih =>
    obtain ⟨other, rest⟩ := not_or.1 (List.mem_cons.not.1 solid)
    rw [splitAtDots, if_neg (Ne.symm other), ih rest]

theorem splitAtDots_append {chars : List Char} (solid : '.' ∉ chars) (rest : List Char) :
    splitAtDots (chars ++ '.' :: rest) = chars :: splitAtDots rest := by
  induction chars with
  | nil => rw [List.nil_append, splitAtDots, if_pos rfl]
  | cons char chars ih =>
    obtain ⟨other, later⟩ := not_or.1 (List.mem_cons.not.1 solid)
    rw [List.cons_append, splitAtDots, if_neg (Ne.symm other), ih later]

theorem dot_not_mem_encode (bytes : Bytes) : '.' ∉ (Base64.urlSafe.encode bytes).toList := by
  have each : ∀ value < 64, Base64.urlSafe.symbol value ≠ '.' := by decide
  rw [Base64.Variant.encode, String.toList_ofList, Base64.Variant.encodeChars_eq]
  intro mem
  rcases List.mem_append.1 mem with symbol | pad
  · obtain ⟨value, sextet, dot⟩ := List.mem_map.1 symbol
    exact each value (Base64.sextets_lt bytes value sextet) dot
  · exact absurd (List.eq_of_mem_replicate pad) (by decide)

theorem segments?_of_solid {header claims tag : String} (first : '.' ∉ header.toList)
    (second : '.' ∉ claims.toList) (third : '.' ∉ tag.toList) :
    segments? (header ++ "." ++ claims ++ "." ++ tag) = some (header, claims, tag) := by
  have text : (header ++ "." ++ claims ++ "." ++ tag).toList
      = header.toList ++ '.' :: (claims.toList ++ '.' :: tag.toList) := by
    simp
  rw [segments?, text, splitAtDots_append first, splitAtDots_append second,
    splitAtDots_solid third]
  simp only [String.ofList_toList]

/-- No part of a text that is split at its dots has a dot. -/
theorem dot_not_mem_splitAtDots {chars part : List Char} (mem : part ∈ splitAtDots chars) :
    '.' ∉ part := by
  induction chars generalizing part with
  | nil => simp_all [splitAtDots]
  | cons char chars ih =>
    obtain ⟨first, parts, shape⟩ := List.exists_cons_of_ne_nil (splitAtDots_ne_nil chars)
    rw [shape] at ih
    unfold splitAtDots at mem
    rw [shape] at mem
    split at mem
    · rcases List.mem_cons.1 mem with rfl | later
      · exact List.not_mem_nil
      · exact ih later
    · next other =>
      rcases List.mem_cons.1 mem with rfl | later
      · exact List.mem_cons.not.2 (not_or.2 ⟨Ne.symm other, ih List.mem_cons_self⟩)
      · exact ih (List.mem_cons_of_mem _ later)

/-- **The segments of a token** are three texts without dots. -/
theorem segments?_eq_some_iff {token header claims tag : String} :
    segments? token = some (header, claims, tag) ↔
      token = header ++ "." ++ claims ++ "." ++ tag ∧
        '.' ∉ header.toList ∧ '.' ∉ claims.toList ∧ '.' ∉ tag.toList := by
  constructor
  · intro parts
    refine ⟨eq_of_segments? parts, ?_⟩
    have solid {part : List Char} (mem : part ∈ splitAtDots token.toList) : '.' ∉ part :=
      dot_not_mem_splitAtDots mem
    unfold segments? at parts
    split at parts
    · next first second third shape =>
      cases parts
      rw [shape] at solid
      simp only [String.toList_ofList]
      exact ⟨solid (by simp), solid (by simp), solid (by simp)⟩
    · cases parts
  · rintro ⟨rfl, first, second, third⟩
    exact segments?_of_solid first second third

/-- The dots of a text that is joined with two dots. -/
theorem count_dots (header claims tag : String) :
    (header ++ "." ++ claims ++ "." ++ tag).toList.count '.'
      = header.toList.count '.' + claims.toList.count '.' + tag.toList.count '.' + 2 := by
  simp only [String.toList_append, List.count_append]
  have one : ".".toList.count '.' = 1 := by decide
  omega

/-- A text that is joined with two dots, and has no more, has what was joined for its segments. -/
theorem segments?_of_count {header claims tag : String}
    (two : (header ++ "." ++ claims ++ "." ++ tag).toList.count '.' = 2) :
    segments? (header ++ "." ++ claims ++ "." ++ tag) = some (header, claims, tag) := by
  rw [count_dots] at two
  have none {part : String} (zero : part.toList.count '.' = 0) : '.' ∉ part.toList :=
    List.count_eq_zero.1 zero
  exact segments?_of_solid (none (by omega)) (none (by omega)) (none (by omega))

/-- A token of three segments has two dots. -/
theorem count_of_segments? {token : String} {parts : String × String × String}
    (found : segments? token = some parts) : token.toList.count '.' = 2 := by
  obtain ⟨rfl, first, second, third⟩ := segments?_eq_some_iff.1 found
  rw [count_dots, List.count_eq_zero.2 first, List.count_eq_zero.2 second,
    List.count_eq_zero.2 third]

/-- **A segment is read as a value** if it is the text of bytes that spell the value. -/
theorem readSegment_eq_ok_iff {α : Type} {read : Json → Option α} {segment : String} {value : α} :
    readSegment read segment = .ok value ↔
      ∃ bytes, segment = Base64.urlSafe.encode bytes ∧
        (Json.parse? bytes).bind read = some value := by
  rw [readSegment]
  constructor
  · intro result
    rcases decoded : Base64.urlSafe.decode segment with fault | bytes <;> rw [decoded] at result
    · cases result
    · rcases found : (Json.parse? bytes).bind read with _ | other <;> simp only [found] at result
      · cases result
      · cases result
        exact ⟨bytes, Base64.urlSafe_strict.decode_eq_ok_iff.1 decoded, found⟩
  · rintro ⟨bytes, rfl, found⟩
    simp only [Base64.urlSafe_lawful.decode_encode, found]

/-- A segment is read as what the reader makes of its value. -/
theorem readSegment_segment {α : Type} {read : Json → Option α} {value : Json} {result : α}
    (plain : value.isPlain) (reads : read value = some result) :
    readSegment read (segment value) = .ok result :=
  readSegment_eq_ok_iff.2
    ⟨value.render, rfl, by rw [Json.parse?_render plain, Option.bind_some, reads]⟩

/-! ### Tokens -/

theorem length_tag (key : TokenKey) (signed : String) : (key.tag signed).length = 32 :=
  Blake3.length_keyedHash _ _

/-- What is found in a token is what it verifies to. -/
theorem examine?_eq (key : TokenKey) (token : String) :
    key.examine? token = some (key.verify token) :=
  (Option.some_get _).symm

/-- A token verifies to claims if its tag is that of its first two segments, and these say the
expected kind and the claims. -/
theorem verify_eq_ok_iff {key : TokenKey} {token : String} {claims : TokenClaims} :
    key.verify token = .ok claims ↔
      ∃ header payload tag, segments? token = some (header, payload, tag) ∧
        Base64.urlSafe.decode tag = .ok (key.tag (header ++ "." ++ payload)) ∧
        readSegment TokenKind.ofJson? header = .ok .expected ∧
        readSegment TokenClaims.ofJson? payload = .ok claims := by
  rw [← Option.some_inj, ← examine?_eq]
  constructor
  · intro found
    unfold examine? at found
    split at found
    · cases found
    · next header payload tag parts =>
      refine ⟨header, payload, tag, parts, ?_⟩
      split at found
      · cases found
      · next bytes decoded =>
        split at found
        · cases found
        · rw [signed?_segments parts, Option.map_some, Option.some_inj] at found
          split at found
          · cases found
          · next genuine =>
            obtain ⟨kind, headerRead, found⟩ := Except.of_bind_eq_ok found
            split at found
            · cases found
            · next usual =>
              rw [not_not] at genuine usual
              exact ⟨genuine ▸ decoded, usual ▸ headerRead, found⟩
  · rintro ⟨header, payload, tag, parts, decoded, headerRead, payloadRead⟩
    simp only [examine?, parts, decoded, length_tag, signed?_segments parts, headerRead,
      payloadRead, ne_eq, not_true, if_false, Option.map_some]
    rfl

/-- **A signed token verifies to its claims.** -/
theorem verify_sign (key : TokenKey) (claims : TokenClaims) :
    key.verify (key.sign claims) = .ok claims :=
  verify_eq_ok_iff.2 ⟨segment TokenKind.expected.toJson, segment claims.toJson, _,
    segments?_of_solid (dot_not_mem_encode _) (dot_not_mem_encode _) (dot_not_mem_encode _),
    Base64.urlSafe_lawful.decode_encode _,
    readSegment_segment (TokenKind.isPlain_toJson _) (TokenKind.ofJson?_toJson _),
    readSegment_segment (TokenClaims.isPlain_toJson _) (TokenClaims.ofJson?_toJson _)⟩

theorem sign_injective (key : TokenKey) : Function.Injective key.sign := fun first second same => by
  have read := congrArg key.verify same
  rwa [verify_sign, verify_sign, Except.ok.injEq] at read

/-- **A text verifies to claims** if it is a header and claims, without dots, and the one text of
their tag. -/
theorem verify_eq_ok_iff_tagged {key : TokenKey} {token : String} {claims : TokenClaims} :
    key.verify token = .ok claims ↔
      ∃ header payload, token = header ++ "." ++ payload ++ "."
          ++ Base64.urlSafe.encode (key.tag (header ++ "." ++ payload)) ∧
        token.toList.count '.' = 2 ∧
        readSegment TokenKind.ofJson? header = .ok .expected ∧
        readSegment TokenClaims.ofJson? payload = .ok claims := by
  rw [verify_eq_ok_iff]
  constructor
  · rintro ⟨header, payload, tag, parts, decoded, reads⟩
    have written := Base64.urlSafe_strict.decode_eq_ok_iff.1 decoded
    exact ⟨header, payload, written ▸ eq_of_segments? parts, count_of_segments? parts, reads⟩
  · rintro ⟨header, payload, rfl, two, reads⟩
    exact ⟨header, payload, _, segments?_of_count two, Base64.urlSafe_lawful.decode_encode _, reads⟩

/-- The third segment of a token that verifies is the text of the tag of the other two. -/
theorem tag_of_verify {key : TokenKey} {header payload tag : String} {claims : TokenClaims}
    (verified : key.verify (header ++ "." ++ payload ++ "." ++ tag) = .ok claims) :
    tag = Base64.urlSafe.encode (key.tag (header ++ "." ++ payload)) := by
  obtain ⟨_, _, _, parts, decoded, -⟩ := verify_eq_ok_iff.1 verified
  have same := parts
  rw [segments?_of_count (count_of_segments? parts)] at same
  cases same
  exact Base64.urlSafe_strict.decode_eq_ok_iff.1 decoded

/-- **Tokens have one form.** Claims that were signed verify, so no two have one token. A text
verifies to claims just if its first two segments, which say the expected kind and the claims, are
followed by the one text of their tag; with any other text in its place the token is refused. And
every text can be examined. -/
theorem tokens_have_one_form (key : TokenKey) :
    (∀ claims, key.verify (key.sign claims) = .ok claims) ∧
      Function.Injective key.sign ∧
      (∀ token claims, key.verify token = .ok claims ↔
        ∃ header payload, token = header ++ "." ++ payload ++ "."
            ++ Base64.urlSafe.encode (key.tag (header ++ "." ++ payload)) ∧
          token.toList.count '.' = 2 ∧
          readSegment TokenKind.ofJson? header = .ok .expected ∧
          readSegment TokenClaims.ofJson? payload = .ok claims) ∧
      (∀ header payload tag other claims,
        key.verify (header ++ "." ++ payload ++ "." ++ tag) = .ok claims → other ≠ tag →
          ∃ error, key.verify (header ++ "." ++ payload ++ "." ++ other) = .error error) ∧
      ∀ token, key.examine? token = some (key.verify token) := by
  refine ⟨key.verify_sign, key.sign_injective, fun token claims => verify_eq_ok_iff_tagged,
    fun header payload tag other claims verified differs => ?_, key.examine?_eq⟩
  rcases result : key.verify (header ++ "." ++ payload ++ "." ++ other) with error | _
  · exact ⟨error, rfl⟩
  · exact absurd ((tag_of_verify result).trans (tag_of_verify verified).symm) differs

end TokenKey

end DeviceAuth
