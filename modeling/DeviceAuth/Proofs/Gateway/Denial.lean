import DeviceAuth.Proofs.Auth.Causes
import DeviceAuth.Proofs.Auth.Enrollment
import DeviceAuth.Proofs.Auth.Kept
import DeviceAuth.Proofs.Auth.Outcome
import DeviceAuth.Proofs.Gateway.Answers
import DeviceAuth.Proofs.Zkp.Checking
import DeviceAuth.Proofs.Zkp.Documents

/-!
**A failed verification tells nothing.** Whatever goes wrong with a proof that has been submitted,
its challenge, its device or the license, the client gets one and the same answer, as long as the
gateway itself works: its checker has a key, no store fails and the clock is not at its end.

* `ProofChecker.Initialized`: the checkers that can be used. What they refuse is the request's fault
  (`ProofChecker.Initialized.denies`).
* `Service.isDenied_of_submit`: a verification fails with the status 401 only.
* `Request.Posts`: a request of a client, down to the document in its body. A document that is read
  back is also read from there (`document?_of_readBack?`).
* `denials_alike`: all verifications that fail are answered alike, and so are all requests for a
  challenge by a device that cannot have one.
-/

namespace DeviceAuth

open Operation

/-! ### Checkers that can be used -/

/-- A checker that can be used: for Groth16 proofs with a key for the circuit, or the one that
accepts everything, where that is allowed. -/
inductive ProofChecker.Initialized : ProofChecker → Prop
  | groth16 (key : Groth16.VerifyingKey) : Groth16Checker.checkKey key = .ok key →
      Initialized (Groth16Checker.mk (some key)).toChecker
  | permissive (checker : ProofChecker) : permissiveChecker true = .ok checker →
      Initialized checker

/-- The status of a failed proof operation. -/
abbrev ZkpError.status (error : ZkpError) : Nat :=
  Gateway.statusOf (.ofZkp error)

theorem ZkpError.IsMalformed.status_eq {error : ZkpError} (malformed : error.IsMalformed) :
    error.status = 401 := by
  cases malformed <;> rfl

/-- **What a checker refuses is the request's fault,** if the checker can be used. -/
theorem ProofChecker.Initialized.denies {checker : ProofChecker} (initialized : checker.Initialized)
    {proof : Bytes} {values : PublicValues} {error : ZkpError}
    (failed : checker.check proof values = .error error) : error.status = 401 := by
  cases initialized with
  | groth16 key accepted =>
    have fits : key.Fits := (Groth16Checker.checkKey_eq_ok_iff.mp accepted).1
    exact (Groth16Checker.malformed_of_check fits failed).status_eq
  | permissive checker allowed =>
    cases allowed
    exact (malformed_of_acceptNonempty failed).status_eq

/-! ### Verifications that fail -/

/-- The call is answered with the status 401. -/
def Failure.IsDenied : Failure → Prop
  | .refused error => Gateway.statusOf error = 401
  | .overflow => False

namespace Service

variable {service : Service} {end_ : Instant} {sessionId : String}

/-- A verification that fails is denied, if no store fails and the clock is not at its end. -/
theorem isDenied_of_submit {σ : Type} [RecordStore σ] {state : State σ}
    {request : ProofSubmission} (initialized : service.checker.Initialized)
    (inRange : state.now.add? service.sessions.lifetime = some end_)
    (answered : (service.submit sessionId request).Answered state) {failure : Failure}
    (failed : ((service.submit sessionId request).run state).1 = .error failure) :
    failure.IsDenied :=
  (failsOnly_submit (tolerates_settledAt _ _ _) (fun _ answered => answered.2)
    (fun _ => Gateway.statusOf_of_countsAgainstDevice)
    (fun _ _ failed => initialized.denies failed) inRange).run answered.settledAt failure failed

end Service

/-! ### Devices that can have no challenge -/

/-- Only ids that can be encoded are found in a storage that requests have written. -/
theorem Storage.Written.encodable {storage : Storage} (written : storage.Written)
    {deviceId : String} {device : Credential}
    (found : RecordStore.device deviceId storage = .ok (some device)) :
    DeviceId.encodable deviceId = true := by
  have all : ∀ id ∈ storage.deviceIds, DeviceId.encodable id = true := by
    clear found
    induction written with
    | vacant _ vacant =>
      rcases vacant with empty | ⟨logged, empty⟩ <;> rw [deviceIds, deviceTable, empty] <;>
        exact fun _ member => absurd member List.not_mem_nil
    | perform request state _ ih => exact (perform_deviceIds request state).2 ih
  exact all deviceId (mem_deviceIds found)

/-- A device that can have no challenge: its id is no device id, or it is not enrolled, or it is not
active. -/
def Storage.Bars (storage : Storage) (deviceId : String) : Prop :=
  DeviceId.encodable deviceId = false ∨ RecordStore.device deviceId storage = .ok none ∨
    ∃ device, RecordStore.device deviceId storage = .ok (some device) ∧ device.isActive = false

namespace Service

variable {service : Service} {challengeId deviceId : String} {nonce : Word256}
  {state : State Storage}

/-- **A device that is barred gets no challenge,** if the store answers. -/
theorem issueChallenge_barred (written : state.store.Written) (bars : state.store.Bars deviceId)
    (answered : (service.issueChallenge challengeId nonce deviceId).Answered state) :
    (service.issueChallenge challengeId nonce deviceId).run state =
      (.error (.refused (.deviceNotFound deviceId)), state) := by
  have lookup : (Operation.device deviceId).Answered state := answered.of_bind.of_bind
  obtain ⟨found, known⟩ : ∃ found, RecordStore.device deviceId state.store = .ok found :=
    Request.errorOf?_eq_none.mp lookup.of_ask.1
  simp only [issueChallenge, credentialOf, run_bind, run_device, known, Failure.lift_ok]
  rcases found with _ | device
  · rfl
  have inactive : device.isActive = false := by
    rcases bars with unencodable | absent | ⟨other, held, inactive⟩
    · exact absurd (written.encodable known) (by rw [unencodable]; exact Bool.false_ne_true)
    · rw [absent] at known
      cases known
    · rw [held] at known
      cases known
      exact inactive
  simp only [inactive, Bool.false_eq_true, if_false, run_refuse]

end Service

/-! ### Requests of clients -/

namespace Gateway

/-- **A client posts a document** to an endpoint. -/
structure Request.Posts {α : Type} (request : Gateway.Request) (endpoint : Endpoint)
    (read : Json → Option α) (value : α) : Prop where
  method : request.method = "POST"
  path : (targetPath? request.target).bind Endpoint.ofPath? = some endpoint
  document : document? read request = some value

/-- A document that is read back is read from the body that it is sent in, if it is declared as JSON
and is not too long. -/
theorem document?_of_readBack? {α : Type} {read : Json → Option α} {document : Json} {value : α}
    {request : Gateway.Request} (declared : declaresJson request.headers = true)
    (sent : request.body = document.render) (short : document.render.length ≤ maximumBodyLength)
    (reads : Json.readBack? read document = some value) :
    document? read request = some value := by
  obtain ⟨parsed, parses, taken⟩ := Option.bind_eq_some_iff.mp reads
  obtain ⟨rest, starts⟩ := Json.exists_parseStart? parses
  rw [document?, sent, if_pos ⟨declared, short⟩, starts]
  exact taken

section Respond

variable {server : Server} {fresh : Fresh} {request : Gateway.Request}

/-- A proof that is submitted is answered by what comes of it. -/
theorem respond_verify {submitted : ProofSubmission}
    (posts : request.Posts .verify ProofSubmission.ofJson? submitted) :
    respond server fresh request =
      (answered (server.service.submit fresh.sessionId submitted)
        fun session => .ofJson 200 (SessionNotice.ofSession session).toJson) >>= pure := by
  simp only [respond, posts.path, posts.method, serve, documented, posts.document]
  rfl

/-- A request for a challenge is answered by what comes of it. -/
theorem respond_challenge {asked : ChallengeRequest}
    (posts : request.Posts .challenge ChallengeRequest.ofJson? asked) :
    respond server fresh request =
      (answered (server.service.issueChallenge fresh.challengeId fresh.nonce asked.deviceId)
        fun challenge => .ofJson 200 (ChallengeOffer.ofChallenge challenge).toJson) >>= pure := by
  simp only [respond, posts.path, posts.method, serve, documented, posts.document]
  rfl

end Respond

/-- A request to a gateway in some state. -/
structure Visit where
  server : Server
  state : State Storage
  fresh : Fresh
  request : Gateway.Request

namespace Visit

/-- The answer of the gateway. -/
def answer (visit : Visit) : Except Failure Response :=
  ((respond visit.server visit.fresh visit.request).run visit.state).1

/-- No store fails. -/
def Answered (visit : Visit) : Prop :=
  (respond visit.server visit.fresh visit.request).Answered visit.state

/-- **A proof is submitted in vain:** the checker has a key, no store fails and the clock is not at
its end, but no session is opened. -/
structure FailsToVerify (visit : Visit) (submitted : ProofSubmission) : Prop where
  posts : visit.request.Posts .verify ProofSubmission.ofJson? submitted
  initialized : visit.server.service.checker.Initialized
  answered : visit.Answered
  inRange : ∃ end_, visit.state.now.add? visit.server.service.sessions.lifetime = some end_
  fails : ∀ session,
    ((visit.server.service.submit visit.fresh.sessionId submitted).run visit.state).1 ≠ .ok session

/-- **A challenge is asked for in vain,** by a device that can have none. -/
structure AsksInVain (visit : Visit) (asked : ChallengeRequest) : Prop where
  posts : visit.request.Posts .challenge ChallengeRequest.ofJson? asked
  written : visit.state.store.Written
  answered : visit.Answered
  bars : visit.state.store.Bars asked.deviceId

variable {visit : Visit}

/-- A proof that is submitted in vain is answered with the denial. -/
theorem FailsToVerify.answer_eq {submitted : ProofSubmission}
    (fails : visit.FailsToVerify submitted) : visit.answer = .ok denial := by
  have whole : (respond visit.server visit.fresh visit.request).Answered visit.state :=
    fails.answered
  rw [respond_verify fails.posts] at whole
  have settled := whole.of_bind.of_bind.of_outcome
  obtain ⟨end_, inRange⟩ := fails.inRange
  simp only [answer, respond_verify fails.posts, run_bind, run_answered, run_pure]
  rcases result : ((visit.server.service.submit visit.fresh.sessionId submitted).run
    visit.state).1 with failure | session
  · have denied := Service.isDenied_of_submit fails.initialized inRange settled result
    rcases failure with error | _
    · exact congrArg Except.ok (refusal_eq_denial denied)
    · exact denied.elim
  · exact absurd result (fails.fails session)

/-- A challenge that is asked for in vain is answered with the denial. -/
theorem AsksInVain.answer_eq {asked : ChallengeRequest} (asks : visit.AsksInVain asked) :
    visit.answer = .ok denial := by
  have whole : (respond visit.server visit.fresh visit.request).Answered visit.state :=
    asks.answered
  rw [respond_challenge asks.posts] at whole
  have barred := Service.issueChallenge_barred asks.written asks.bars
    whole.of_bind.of_bind.of_outcome
  simp only [answer, respond_challenge asks.posts, run_bind, run_answered, run_pure, barred]
  exact congrArg Except.ok (refusal_eq_denial rfl)

end Visit

/-- **Denials do not differ.** Of any two gateways to which proofs are submitted in vain, whatever
the reasons are, both give the one answer with the status 401 that says nothing of them; and so do
any two gateways that devices without any claim to a challenge ask for one. -/
theorem denials_alike :
    (∀ (first second : Visit) (submitted submittedToo : ProofSubmission),
      first.FailsToVerify submitted → second.FailsToVerify submittedToo →
        first.answer = second.answer ∧ first.answer = .ok denial) ∧
      ∀ (first second : Visit) (asked askedToo : ChallengeRequest),
        first.AsksInVain asked → second.AsksInVain askedToo →
          first.answer = second.answer ∧ first.answer = .ok denial :=
  ⟨fun _ _ _ _ fails failsToo =>
      ⟨fails.answer_eq.trans failsToo.answer_eq.symm, fails.answer_eq⟩,
    fun _ _ _ _ asks asksToo => ⟨asks.answer_eq.trans asksToo.answer_eq.symm, asks.answer_eq⟩⟩

end Gateway

/-! A stranger without a proof and a device that proves a wrong statement are answered alike, and so
are a device without an id and one that is revoked when they ask for challenges. -/

namespace Sample

/-- The small service as a gateway, with its records in memory. -/
def doorway : Gateway.Server where
  service := service
  durable := false

/-- A client posts a document. -/
def posting (state : State Storage) (target : String) (document : Json) : Gateway.Visit where
  server := doorway
  state := state
  fresh := ⟨"unasked", .ofNat 1, "unopened"⟩
  request := ⟨"POST", target, [("Content-Type", Bytes.ofText "application/json")], document.render⟩

/-- A text that is no proof, from a device that nobody knows. -/
def strange : ProofSubmission where
  deviceId := "stranger"
  challengeId := "challenge"
  proof := ⟨"?", values 2⟩

/-- A proof for the nonce of another challenge than the one it is submitted for. -/
def mismatched : ProofSubmission where
  deviceId := "device"
  challengeId := "challenge"
  proof := .ofStated ⟨[1], values 3⟩

/-- The state in which the device was revoked. -/
def expelled : State Storage :=
  ((Request.enroll { device with standing := .revoked }).perform vacant).2

theorem posts_posting {α : Type} {read : Json → Option α} {state : State Storage} {target : String}
    {document : Json} {endpoint : Gateway.Endpoint} {value : α}
    (path : (Gateway.targetPath? target).bind Gateway.Endpoint.ofPath? = some endpoint)
    (short : document.render.length ≤ Gateway.maximumBodyLength)
    (reads : Json.readBack? read document = some value) :
    (posting state target document).request.Posts endpoint read value :=
  have declared : Gateway.declaresJson [("Content-Type", Bytes.ofText "application/json")] = true :=
    by decide +kernel
  ⟨rfl, path, Gateway.document?_of_readBack? declared rfl short reads⟩

theorem isCanonical_values {nonce : Nat} (canonical : (Word256.ofNat nonce).IsCanonical) :
    (values nonce).IsCanonical :=
  ⟨(by decide : (Word256.ofNat (Bytes.toNatBE (Bytes.ofText "device"))).IsCanonical), canonical,
    (by decide : (Word256.ofNat 1).IsCanonical), (by decide : (Word256.ofNat 0).IsCanonical)⟩

/-- The text is no proof, and there is no device whose failure could be counted. -/
theorem strange_fails : (posting vacant "/auth/verify" strange.toJson).FailsToVerify strange := by
  have posts : (posting vacant "/auth/verify" strange.toJson).request.Posts .verify
      ProofSubmission.ofJson? strange :=
    posts_posting (by decide +kernel) (by decide +kernel)
      (ProofSubmission.readBack?_toJson (isCanonical_values (by decide)))
  refine ⟨posts, .permissive _ rfl, ?_, ⟨nextSecond, by decide⟩, fun _ same => ?_⟩
  · rw [Gateway.Visit.Answered, Gateway.respond_verify posts]
    exact .ask rfl (.done _ _)
  · cases same

/-- The challenge and the device are found, but the values do not match: a failure is counted. -/
theorem mismatched_fails :
    (posting challenged "/auth/verify" mismatched.toJson).FailsToVerify mismatched := by
  have posts : (posting challenged "/auth/verify" mismatched.toJson).request.Posts .verify
      ProofSubmission.ofJson? mismatched :=
    posts_posting (by decide +kernel) (by decide +kernel)
      (ProofSubmission.readBack?_toJson (isCanonical_values (by decide)))
  refine ⟨posts, .permissive _ rfl, ?_, ⟨nextSecond, by decide⟩, fun _ same => ?_⟩
  · rw [Gateway.Visit.Answered, Gateway.respond_verify posts]
    exact .ask rfl (.ask rfl (.ask rfl (.ask rfl (.ask rfl (.done _ _)))))
  · cases same

/-- No device is without an id. -/
theorem nameless_asks :
    (posting vacant "/auth/challenge" (ChallengeRequest.mk "").toJson).AsksInVain ⟨""⟩ := by
  have posts : (posting vacant "/auth/challenge" (ChallengeRequest.mk "").toJson).request.Posts
      .challenge ChallengeRequest.ofJson? ⟨""⟩ :=
    posts_posting (by decide +kernel) (by decide +kernel) (Json.readBack?_of_plain rfl rfl)
  refine ⟨posts, .vacant trivial (.inl rfl), ?_, .inl rfl⟩
  rw [Gateway.Visit.Answered, Gateway.respond_challenge posts]
  exact .ask rfl (.done _ _)

/-- The device is found, but it was revoked. -/
theorem expelled_asks : (posting expelled "/auth/challenge"
    (ChallengeRequest.mk "device").toJson).AsksInVain ⟨"device"⟩ := by
  have posts : (posting expelled "/auth/challenge"
      (ChallengeRequest.mk "device").toJson).request.Posts .challenge ChallengeRequest.ofJson?
        ⟨"device"⟩ :=
    posts_posting (by decide +kernel) (by decide +kernel) (Json.readBack?_of_plain rfl rfl)
  refine ⟨posts, .perform _ _ (.vacant trivial (.inl rfl)), ?_, .inr (.inr ⟨_, rfl, rfl⟩)⟩
  rw [Gateway.Visit.Answered, Gateway.respond_challenge posts]
  exact .ask rfl (.done _ _)

end Sample

open Sample Gateway in
theorem denials_alike_strangers :
    ((posting vacant "/auth/verify" strange.toJson).answer =
          (posting challenged "/auth/verify" mismatched.toJson).answer ∧
        (posting vacant "/auth/verify" strange.toJson).answer = .ok denial) ∧
      (posting vacant "/auth/challenge" (ChallengeRequest.mk "").toJson).answer =
          (posting expelled "/auth/challenge" (ChallengeRequest.mk "device").toJson).answer ∧
        (posting vacant "/auth/challenge" (ChallengeRequest.mk "").toJson).answer = .ok denial :=
  ⟨denials_alike.1 _ _ _ _ strange_fails mismatched_fails,
    denials_alike.2 _ _ _ _ nameless_asks expelled_asks⟩

end DeviceAuth
