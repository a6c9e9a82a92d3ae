import DeviceAuth.Auth.Message
import DeviceAuth.Proofs.Field.WordText
import DeviceAuth.Proofs.Json.Record
import DeviceAuth.Proofs.Text.Base64

/-!
**What is handed over as a document is read back.** A canonical word, the public values of a proof
and a whole submission are read from the bytes that they are written as, and the proof in it is
decoded to its own bytes. A canonical word is written in one way only
(`Word256.field_values_have_one_form`).
-/

namespace DeviceAuth

namespace Json

/-- What is read from the bytes of a document. -/
def readBack? {α : Type} (read : Json → Option α) (document : Json) : Option α :=
  (parse? document.render).bind read

theorem readBack?_of_plain {α : Type} {read : Json → Option α} {document : Json} {value : α}
    (plain : document.isPlain) (reads : read document = some value) :
    readBack? read document = some value := by
  rw [readBack?, parse?_render plain, Option.bind_some, reads]

end Json

namespace Word256

variable {word : Word256}

theorem ofJson?_toJson (canonical : word.IsCanonical) : ofJson? word.toJson = some word := by
  simp only [ofJson?, toJson, Json.ofText, Json.text?, Option.bind_some, ofHex_toHex canonical]
  rfl

/-- **A canonical word is read back from its document.** -/
theorem readBack?_toJson (canonical : word.IsCanonical) :
    Json.readBack? ofJson? word.toJson = some word :=
  Json.readBack?_of_plain rfl (ofJson?_toJson canonical)

/-- A JSON string is read as its text is, also from the bytes of a document. -/
theorem ofJson?_ofText (text : String) : ofJson? (Json.ofText text) = (ofHex text).toOption ∧
    Json.readBack? ofJson? (Json.ofText text) = (ofHex text).toOption := by
  have value : ofJson? (Json.ofText text) = (ofHex text).toOption := rfl
  exact ⟨value, by rw [Json.readBack?, Json.parse?_render rfl, Option.bind_some, value]⟩

/-- **Field values have one form.** A word is read as a scalar, and taken for canonical, if its
number is below the order of the field; reading is the inverse of writing, so words that are read
are equal if their scalars are. A text, or a JSON string, is read as a word if it spells a scalar,
blanks around it aside; it is read as the word with this number, whose text is the one that was
read in lower case and without the blanks; and every canonical word is read back from its text. -/
theorem field_values_have_one_form :
    (∀ word : Word256, ((∃ value, word.toScalar = .ok value) ↔ word.toNat < scalarModulus) ∧
      ((∃ accepted, word.canonical = .ok accepted) ↔ word.toNat < scalarModulus) ∧
      ∀ accepted, word.canonical = .ok accepted → accepted = word) ∧
    (∀ (word : Word256) value, word.toScalar = .ok value ↔ ofScalar value = word) ∧
    (∀ (first second : Word256) one other, first.toScalar = .ok one →
      second.toScalar = .ok other → (first = second ↔ one = other)) ∧
    (∀ text, (∃ word, ofHex text = .ok word) ↔ SpellsScalar (Text.trim text.toList)) ∧
    (∀ text, ofJson? (Json.ofText text) = (ofHex text).toOption ∧
      Json.readBack? ofJson? (Json.ofText text) = (ofHex text).toOption) ∧
    (∀ text word, ofHex text = .ok word → word.toNat = Hex.number (Text.trim text.toList) ∧
      word.toHex = String.ofList ((Text.trim text.toList).map Char.toLower)) ∧
    ∀ word : Word256, word.toNat < scalarModulus → ofHex word.toHex = .ok word := by
  refine ⟨fun word => ⟨exists_toScalar_iff, ?_, ?_⟩, fun word value => toScalar_eq_ok_iff, ?_,
    fun text => exists_ofHex_iff, ofJson?_ofText,
    fun text word read => ⟨toNat_of_ofHex read, toHex_of_ofHex read⟩,
    fun word canonical => ofHex_toHex canonical⟩
  · simp only [canonical_eq_ok_iff, exists_eq_left']
    rfl
  · intro accepted taken
    exact (canonical_eq_ok_iff.1 taken).1.symm
  · intro first second one other firstRead secondRead
    rw [toScalar_eq_ok_iff] at firstRead secondRead
    rw [← firstRead, ← secondRead, ofScalar_injective.eq_iff]

end Word256

/-- Public values all of which are canonical. -/
structure PublicValues.IsCanonical (values : PublicValues) : Prop where
  deviceId : values.deviceId.IsCanonical
  challenge : values.challenge.IsCanonical
  commitment : values.commitment.IsCanonical
  response : values.response.IsCanonical

namespace PublicValues

variable {values : PublicValues}

theorem ofJson?_toJson (canonical : values.IsCanonical) : ofJson? values.toJson = some values := by
  have fields : values.toJson.fields? ["device_id", "challenge", "commitment", "response"]
      = some [some values.deviceId.toJson, some values.challenge.toJson,
        some values.commitment.toJson, some values.response.toJson] :=
    Json.fields?_ofMembers rfl (by decide)
  rw [ofJson?, fields]
  simp only [Option.bind_eq_bind, Option.bind_some, Json.required?,
    Word256.ofJson?_toJson canonical.deviceId, Word256.ofJson?_toJson canonical.challenge,
    Word256.ofJson?_toJson canonical.commitment, Word256.ofJson?_toJson canonical.response]
  rfl

theorem isPlain_toJson (values : PublicValues) : values.toJson.isPlain := rfl

/-- **Canonical public values are read back from their document.** -/
theorem readBack?_toJson (canonical : values.IsCanonical) :
    Json.readBack? ofJson? values.toJson = some values :=
  Json.readBack?_of_plain values.isPlain_toJson (ofJson?_toJson canonical)

end PublicValues

namespace ProofDocument

/-- No symbol of a Base64 text is a blank. -/
theorem trimmed_encode (bytes : Bytes) :
    Text.trimmed (Base64.standard.encode bytes) = Base64.standard.encode bytes := by
  have each : ∀ value < 64, Text.isBlank (Base64.standard.symbol value) = false := by decide
  have solid : ∀ char ∈ Base64.standard.encodeChars bytes, Text.isBlank char = false := by
    rw [Base64.Variant.encodeChars_eq]
    intro char member
    rcases List.mem_append.mp member with symbol | pad
    · obtain ⟨value, sextet, rfl⟩ := List.mem_map.mp symbol
      exact each value (Base64.sextets_lt bytes value sextet)
    · rw [List.eq_of_mem_replicate pad]
      rfl
  rw [Text.trimmed, Base64.Variant.encode, String.toList_ofList, Text.trim_eq_self solid]

variable {document : ProofDocument}

/-- **A document has a proof** if its text, blanks around it aside, is the text of the proof. -/
theorem decodedProof_eq_ok_iff {proof : Bytes} : document.decodedProof = .ok proof ↔
    Text.trimmed document.proof = Base64.standard.encode proof := by
  rw [← Base64.standard_strict.decode_eq_ok_iff, decodedProof]
  constructor
  · intro read
    split at read
    · next bytes decoded =>
      cases read
      exact decoded
    · cases read
  · intro decoded
    simp only [decoded]

/-- The proof of a document is the one that was put into it. -/
theorem decodedProof_ofStated (stated : StatedProof) :
    (ofStated stated).decodedProof = .ok stated.proof :=
  decodedProof_eq_ok_iff.2 (trimmed_encode stated.proof)

theorem ofJson?_toJson (canonical : document.publicValues.IsCanonical) :
    ofJson? document.toJson = some document := by
  have fields : document.toJson.fields? ["proof", "public_witness"]
      = some [some (Json.ofText document.proof), some document.publicValues.toJson] :=
    Json.fields?_ofMembers rfl (by decide)
  rw [ofJson?, fields]
  simp only [Option.bind_eq_bind, Option.bind_some, Json.required?, Json.ofText, Json.text?,
    PublicValues.ofJson?_toJson canonical]
  rfl

end ProofDocument

namespace ProofSubmission

variable {submission : ProofSubmission}

theorem ofJson?_toJson (canonical : submission.proof.publicValues.IsCanonical) :
    ofJson? submission.toJson = some submission := by
  have fields : submission.toJson.fields? ["device_id", "challenge_id", "proof"]
      = some [some (Json.ofText submission.deviceId), some (Json.ofText submission.challengeId),
        some submission.proof.toJson] :=
    Json.fields?_ofMembers rfl (by decide)
  rw [ofJson?, fields]
  simp only [Option.bind_eq_bind, Option.bind_some, Json.required?, Json.ofText, Json.text?,
    ProofDocument.ofJson?_toJson canonical]
  rfl

/-- **A submission is read back from its document,** if its public values are canonical. -/
theorem readBack?_toJson (canonical : submission.proof.publicValues.IsCanonical) :
    Json.readBack? ofJson? submission.toJson = some submission :=
  Json.readBack?_of_plain rfl (ofJson?_toJson canonical)

end ProofSubmission

end DeviceAuth
