import DeviceAuth.Proofs.Zkp.Documents

/-!
**Proofs as they travel.** The document of a proof brings the bytes of the proof and its public
values to the other side unchanged, by itself and in a submission. What the other side takes, it
takes in one spelling: the text of a proof is the Base64 text of its bytes, blanks around it aside,
and each public value is spelled by 64 digits of a number below the order of the field.

* `Word256.ofHex_toHex_iff`: a word that is not canonical is not read back.
* `PublicValues.ofJson?_eq_some_iff`, `ProofDocument.ofJson?_eq_some_iff`,
  `ProofSubmission.ofJson?_eq_some_iff`: what is read from a JSON value.
* `ProofDocument.exists_ofJson?_iff`: which JSON values are read at all.
* `proof_documents_faithful`: what arrives is what was sent, and nothing else is taken.
-/

namespace DeviceAuth

/-! ### Fields -/

namespace Json

/-- What is read from the bytes of a plain document is what is read from the document. -/
theorem readBack?_eq {α : Type} (read : Json → Option α) {document : Json}
    (plain : document.isPlain) : readBack? read document = read document := by
  rw [readBack?, parse?_render plain, Option.bind_some]

theorem required?_text?_eq_some_iff {field : Option Json} {text : String} :
    required? text? field = some text ↔ field = some (ofText text) := by
  rcases field with _ | value
  · simp [required?]
  · cases value <;> simp [required?, text?, ofText]

end Json

namespace Word256

theorem required?_ofJson?_eq_some_iff {field : Option Json} {word : Word256} :
    Json.required? ofJson? field = some word ↔
      ∃ text, field = some (Json.ofText text) ∧ ofHex text = .ok word := by
  constructor
  · intro read
    obtain ⟨value, given, valueRead⟩ := Option.bind_eq_some_iff.mp read
    obtain ⟨text, found, textRead⟩ := Option.bind_eq_some_iff.mp valueRead
    refine ⟨text, Json.required?_text?_eq_some_iff.mp (given ▸ found), ?_⟩
    rcases result : ofHex text with _ | other <;> rw [result] at textRead <;> cases textRead
    rfl
  · rintro ⟨text, rfl, read⟩
    rw [Json.required?, Option.bind_some, (ofJson?_ofText text).1, read, Except.toOption]

/-- A word that is not canonical is not read back from its text. -/
theorem ofHex_toHex_iff {word other : Word256} :
    ofHex word.toHex = .ok other ↔ word = other ∧ word.IsCanonical := by
  constructor
  · intro read
    have written : word.toHex = other.toHex := by
      rw [toHex_of_ofHex read, toHex, Hex.encode, String.toList_ofList, Hex.trim_encodeChars,
        Hex.map_toLower_encodeChars]
    have same : word = other := toHex_injective written
    exact ⟨same, same ▸ (ofHex_eq_ok_iff.mp read).2⟩
  · rintro ⟨rfl, canonical⟩
    exact ofHex_toHex canonical

end Word256

/-! ### Public values -/

namespace PublicValues

/-- The names of the public values, in their order. -/
def names : List String := ["device_id", "challenge", "commitment", "response"]

/-- A JSON value that gives each public value as a text that spells a scalar, blanks around it
aside. -/
def SpelledIn (value : Json) : Prop :=
  ∃ deviceId challenge commitment response : String,
    value.fields? names =
        some [some (.ofText deviceId), some (.ofText challenge), some (.ofText commitment),
          some (.ofText response)] ∧
      ∀ text ∈ [deviceId, challenge, commitment, response],
        Word256.SpellsScalar (Text.trim text.toList)

variable {value : Json} {values : PublicValues}

/-- **What is read as public values**: four texts, each of which is read as a word. -/
theorem ofJson?_eq_some_iff : ofJson? value = some values ↔
    ∃ deviceId challenge commitment response : String,
      value.fields? names =
          some [some (.ofText deviceId), some (.ofText challenge), some (.ofText commitment),
            some (.ofText response)] ∧
        Word256.ofHex deviceId = .ok values.deviceId ∧
        Word256.ofHex challenge = .ok values.challenge ∧
        Word256.ofHex commitment = .ok values.commitment ∧
        Word256.ofHex response = .ok values.response := by
  constructor
  · intro read
    obtain ⟨fields, listed, read⟩ := Option.bind_eq_some_iff.mp read
    split at read
    · obtain ⟨first, firstRead, read⟩ := Option.bind_eq_some_iff.mp read
      obtain ⟨second, secondRead, read⟩ := Option.bind_eq_some_iff.mp read
      obtain ⟨third, thirdRead, read⟩ := Option.bind_eq_some_iff.mp read
      obtain ⟨fourth, fourthRead, read⟩ := Option.bind_eq_some_iff.mp read
      cases read
      obtain ⟨deviceId, rfl, deviceRead⟩ := Word256.required?_ofJson?_eq_some_iff.mp firstRead
      obtain ⟨challenge, rfl, challengeRead⟩ := Word256.required?_ofJson?_eq_some_iff.mp secondRead
      obtain ⟨commitment, rfl, commitmentRead⟩ := Word256.required?_ofJson?_eq_some_iff.mp thirdRead
      obtain ⟨response, rfl, responseRead⟩ := Word256.required?_ofJson?_eq_some_iff.mp fourthRead
      exact ⟨deviceId, challenge, commitment, response, listed, deviceRead, challengeRead,
        commitmentRead, responseRead⟩
    · cases read
  · rintro ⟨deviceId, challenge, commitment, response, listed, deviceRead, challengeRead,
      commitmentRead, responseRead⟩
    have word {text : String} {read : Word256} (found : Word256.ofHex text = .ok read) :=
      Word256.required?_ofJson?_eq_some_iff.mpr ⟨text, rfl, found⟩
    rw [names] at listed
    simp only [ofJson?, listed, word deviceRead, word challengeRead, word commitmentRead,
      word responseRead, bind, Option.bind, pure]

/-- **Which JSON values are read as public values.** -/
theorem exists_ofJson?_iff : (∃ values, ofJson? value = some values) ↔ SpelledIn value := by
  simp only [ofJson?_eq_some_iff, SpelledIn, List.forall_mem_cons, ← Word256.exists_ofHex_iff]
  constructor
  · rintro ⟨values, deviceId, challenge, commitment, response, listed, reads⟩
    exact ⟨deviceId, challenge, commitment, response, listed, ⟨_, reads.1⟩, ⟨_, reads.2.1⟩,
      ⟨_, reads.2.2.1⟩, ⟨_, reads.2.2.2⟩, nofun⟩
  · rintro ⟨deviceId, challenge, commitment, response, listed, ⟨device, deviceRead⟩,
      ⟨nonce, nonceRead⟩, ⟨opening, openingRead⟩, ⟨answer, answerRead⟩, -⟩
    exact ⟨⟨device, nonce, opening, answer⟩, deviceId, challenge, commitment, response, listed,
      deviceRead, nonceRead, openingRead, answerRead⟩

/-- All public values that are read are canonical. -/
theorem isCanonical_of_ofJson? (read : ofJson? value = some values) : values.IsCanonical := by
  obtain ⟨_, _, _, _, -, deviceRead, challengeRead, commitmentRead, responseRead⟩ :=
    ofJson?_eq_some_iff.mp read
  exact ⟨(Word256.ofHex_eq_ok_iff.mp deviceRead).2, (Word256.ofHex_eq_ok_iff.mp challengeRead).2,
    (Word256.ofHex_eq_ok_iff.mp commitmentRead).2, (Word256.ofHex_eq_ok_iff.mp responseRead).2⟩

/-- Public values are read from their document if they are canonical, as they are. -/
theorem ofJson?_toJson_iff {other : PublicValues} :
    ofJson? values.toJson = some other ↔ values = other ∧ values.IsCanonical := by
  constructor
  · intro read
    have written : values.toJson.fields? names
        = some [some values.deviceId.toJson, some values.challenge.toJson,
          some values.commitment.toJson, some values.response.toJson] :=
      Json.fields?_ofMembers rfl (by decide)
    obtain ⟨deviceId, challenge, commitment, response, listed, deviceRead, challengeRead,
      commitmentRead, responseRead⟩ := ofJson?_eq_some_iff.mp read
    rw [written] at listed
    cases listed
    obtain ⟨device, deviceCanonical⟩ := Word256.ofHex_toHex_iff.mp deviceRead
    obtain ⟨nonce, nonceCanonical⟩ := Word256.ofHex_toHex_iff.mp challengeRead
    obtain ⟨opening, openingCanonical⟩ := Word256.ofHex_toHex_iff.mp commitmentRead
    obtain ⟨answer, answerCanonical⟩ := Word256.ofHex_toHex_iff.mp responseRead
    refine ⟨?_, deviceCanonical, nonceCanonical, openingCanonical, answerCanonical⟩
    cases values
    cases other
    simp_all only
  · rintro ⟨rfl, canonical⟩
    exact ofJson?_toJson canonical

end PublicValues

/-! ### Documents -/

namespace ProofDocument

/-- A JSON value that gives a text for the proof, and public values that spell scalars. -/
def SpelledIn (value : Json) : Prop :=
  ∃ (proof : String) (publicValues : Json),
    value.fields? ["proof", "public_witness"] = some [some (.ofText proof), some publicValues] ∧
      PublicValues.SpelledIn publicValues

variable {value : Json} {document : ProofDocument}

/-- **What is read as a document**: any text, and public values. -/
theorem ofJson?_eq_some_iff : ofJson? value = some document ↔
    ∃ publicValues,
      value.fields? ["proof", "public_witness"] =
          some [some (.ofText document.proof), some publicValues] ∧
        PublicValues.ofJson? publicValues = some document.publicValues := by
  constructor
  · intro read
    obtain ⟨fields, listed, read⟩ := Option.bind_eq_some_iff.mp read
    split at read
    · obtain ⟨proof, proofRead, read⟩ := Option.bind_eq_some_iff.mp read
      obtain ⟨values, valuesRead, read⟩ := Option.bind_eq_some_iff.mp read
      cases read
      obtain ⟨publicValues, rfl, valuesRead⟩ := Option.bind_eq_some_iff.mp valuesRead
      rw [Json.required?_text?_eq_some_iff.mp proofRead] at listed
      exact ⟨publicValues, listed, valuesRead⟩
    · cases read
  · rintro ⟨publicValues, listed, valuesRead⟩
    simp only [ofJson?, listed, Json.required?, Json.ofText, Json.text?, valuesRead, bind,
      Option.bind, pure]

/-- **Which JSON values are read as a document.** -/
theorem exists_ofJson?_iff : (∃ document, ofJson? value = some document) ↔ SpelledIn value := by
  simp only [ofJson?_eq_some_iff, SpelledIn, ← PublicValues.exists_ofJson?_iff]
  constructor
  · rintro ⟨document, publicValues, listed, read⟩
    exact ⟨document.proof, publicValues, listed, document.publicValues, read⟩
  · rintro ⟨proof, publicValues, listed, values, read⟩
    exact ⟨⟨proof, values⟩, publicValues, listed, read⟩

/-- The public values of a document that is read are canonical. -/
theorem isCanonical_of_ofJson? (read : ofJson? value = some document) :
    document.publicValues.IsCanonical := by
  obtain ⟨_, -, valuesRead⟩ := ofJson?_eq_some_iff.mp read
  exact PublicValues.isCanonical_of_ofJson? valuesRead

/-- A document is read back if its public values are canonical, as it is. -/
theorem ofJson?_toJson_iff {other : ProofDocument} :
    ofJson? document.toJson = some other ↔
      document = other ∧ document.publicValues.IsCanonical := by
  constructor
  · intro read
    have written : document.toJson.fields? ["proof", "public_witness"]
        = some [some (.ofText document.proof), some document.publicValues.toJson] :=
      Json.fields?_ofMembers rfl (by decide)
    obtain ⟨publicValues, listed, valuesRead⟩ := ofJson?_eq_some_iff.mp read
    rw [written] at listed
    obtain ⟨sameProof, rfl⟩ : document.proof = other.proof ∧
        document.publicValues.toJson = publicValues := by
      simpa [Json.ofText] using listed
    obtain ⟨sameValues, canonical⟩ := PublicValues.ofJson?_toJson_iff.mp valuesRead
    refine ⟨?_, canonical⟩
    cases document
    cases other
    simp_all only
  · rintro ⟨rfl, canonical⟩
    exact ofJson?_toJson canonical

end ProofDocument

namespace ProofSubmission

variable {value : Json} {submission : ProofSubmission}

/-- **What is read as a submission**: two texts, and a document. -/
theorem ofJson?_eq_some_iff : ofJson? value = some submission ↔
    ∃ document,
      value.fields? ["device_id", "challenge_id", "proof"] =
          some [some (.ofText submission.deviceId), some (.ofText submission.challengeId),
            some document] ∧
        ProofDocument.ofJson? document = some submission.proof := by
  constructor
  · intro read
    obtain ⟨fields, listed, read⟩ := Option.bind_eq_some_iff.mp read
    split at read
    · obtain ⟨deviceId, deviceRead, read⟩ := Option.bind_eq_some_iff.mp read
      obtain ⟨challengeId, challengeRead, read⟩ := Option.bind_eq_some_iff.mp read
      obtain ⟨proof, proofRead, read⟩ := Option.bind_eq_some_iff.mp read
      cases read
      obtain ⟨document, rfl, proofRead⟩ := Option.bind_eq_some_iff.mp proofRead
      rw [Json.required?_text?_eq_some_iff.mp deviceRead,
        Json.required?_text?_eq_some_iff.mp challengeRead] at listed
      exact ⟨document, listed, proofRead⟩
    · cases read
  · rintro ⟨document, listed, proofRead⟩
    simp only [ofJson?, listed, Json.required?, Json.ofText, Json.text?, proofRead, bind,
      Option.bind, pure]

/-- The public values of a submission that is read are canonical. -/
theorem isCanonical_of_ofJson? (read : ofJson? value = some submission) :
    submission.proof.publicValues.IsCanonical := by
  obtain ⟨_, -, proofRead⟩ := ofJson?_eq_some_iff.mp read
  exact ProofDocument.isCanonical_of_ofJson? proofRead

/-- A submission is read back if its public values are canonical. -/
theorem exists_ofJson?_toJson_iff :
    (∃ other, ofJson? submission.toJson = some other) ↔
      submission.proof.publicValues.IsCanonical := by
  constructor
  · rintro ⟨other, read⟩
    have written : submission.toJson.fields? ["device_id", "challenge_id", "proof"]
        = some [some (.ofText submission.deviceId), some (.ofText submission.challengeId),
          some submission.proof.toJson] :=
      Json.fields?_ofMembers rfl (by decide)
    obtain ⟨document, listed, proofRead⟩ := ofJson?_eq_some_iff.mp read
    rw [written] at listed
    obtain rfl : submission.proof.toJson = document := by
      simp only [Option.some.injEq, List.cons.injEq, and_true] at listed
      exact listed.2.2
    exact (ProofDocument.ofJson?_toJson_iff.mp proofRead).2
  · intro canonical
    exact ⟨submission, ofJson?_toJson canonical⟩

end ProofSubmission

/-- **A proof arrives as it was sent, and in one spelling only.** The document of a proof with
canonical public values is read back from its bytes, by itself and in a submission with any ids, and
it has the bytes of the proof and its public values. A document has these bytes only if its text is
their Base64 text, blanks around it aside; so two documents with the same bytes have the same text,
up to these blanks. A JSON value is read as a document if it gives a text for the proof and texts
that spell scalars for the public values; so what is read, by itself or in a submission, has
canonical public values, and a document with other values is not read back. -/
theorem proof_documents_faithful :
    (∀ (proof : Bytes) (values : PublicValues), values.IsCanonical →
      let document := ProofDocument.ofStated ⟨proof, values⟩
      Json.readBack? ProofDocument.ofJson? document.toJson = some document ∧
      (∀ deviceId challengeId,
        Json.readBack? ProofSubmission.ofJson?
            (ProofSubmission.mk deviceId challengeId document).toJson =
          some ⟨deviceId, challengeId, document⟩) ∧
      document.decodedProof = .ok proof ∧ document.publicValues = values) ∧
    (∀ (document : ProofDocument) bytes, document.decodedProof = .ok bytes ↔
      Text.trimmed document.proof = Base64.standard.encode bytes) ∧
    (∀ (one other : ProofDocument) bytes, one.decodedProof = .ok bytes →
      other.decodedProof = .ok bytes → Text.trimmed one.proof = Text.trimmed other.proof) ∧
    (∀ value, (∃ document, ProofDocument.ofJson? value = some document) ↔
      ProofDocument.SpelledIn value) ∧
    (∀ value document, ProofDocument.ofJson? value = some document →
      document.publicValues.IsCanonical) ∧
    (∀ value submission, ProofSubmission.ofJson? value = some submission →
      submission.proof.publicValues.IsCanonical) ∧
    ∀ document : ProofDocument, ¬ document.publicValues.IsCanonical →
      Json.readBack? ProofDocument.ofJson? document.toJson = none ∧
      ∀ deviceId challengeId, Json.readBack? ProofSubmission.ofJson?
        (ProofSubmission.mk deviceId challengeId document).toJson = none := by
  refine ⟨?sent, fun document bytes => ProofDocument.decodedProof_eq_ok_iff, ?same,
    fun value => ProofDocument.exists_ofJson?_iff,
    fun value document => ProofDocument.isCanonical_of_ofJson?,
    fun value submission => ProofSubmission.isCanonical_of_ofJson?, ?refused⟩
  case sent =>
    intro proof values canonical document
    refine ⟨?_, fun deviceId challengeId => ProofSubmission.readBack?_toJson canonical,
      ProofDocument.decodedProof_ofStated _, rfl⟩
    exact Json.readBack?_of_plain rfl (ProofDocument.ofJson?_toJson canonical)
  case same =>
    intro one other bytes oneRead otherRead
    rw [ProofDocument.decodedProof_eq_ok_iff.mp oneRead,
      ProofDocument.decodedProof_eq_ok_iff.mp otherRead]
  case refused =>
    intro document foreign
    constructor
    · rw [Json.readBack?_eq _ rfl, Option.eq_none_iff_forall_ne_some]
      intro other read
      exact foreign (ProofDocument.ofJson?_toJson_iff.mp read).2
    · intro deviceId challengeId
      rw [Json.readBack?_eq _ rfl, Option.eq_none_iff_forall_ne_some]
      intro other read
      exact foreign (ProofSubmission.exists_ofJson?_toJson_iff.mp ⟨other, read⟩)

namespace Sample

/-- A proof of two bytes, so that its text is padded; its last public value is the greatest. -/
def twoBytes : StatedProof :=
  ⟨[1, 2], ⟨.ofNat 1, .ofNat 2, .ofNat 3, .ofNat (scalarModulus - 1)⟩⟩

end Sample

open Sample in
theorem proof_documents_faithful_padded :
    twoBytes.publicValues.IsCanonical ∧ (ProofDocument.ofStated twoBytes).proof = "AQI=" ∧
      Json.readBack? ProofSubmission.ofJson?
          (ProofSubmission.mk "SENSOR-01" "\n\"" (.ofStated twoBytes)).toJson =
        some ⟨"SENSOR-01", "\n\"", .ofStated twoBytes⟩ ∧
      (ProofDocument.ofStated twoBytes).decodedProof = .ok [1, 2] := by
  have canonical : twoBytes.publicValues.IsCanonical := by constructor <;> decide +kernel
  obtain ⟨-, submitted, decoded, -⟩ := proof_documents_faithful.1 twoBytes.proof _ canonical
  exact ⟨canonical, by decide +kernel, submitted _ _, decoded⟩

end DeviceAuth
