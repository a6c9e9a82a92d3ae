import DeviceAuth.Proofs.Auth.Ledger.Storage
import DeviceAuth.Proofs.Auth.Upkeep
import DeviceAuth.Proofs.Auth.Verification

/-!
**What can happen to a service, call after call.** The calls are those of the service, in any order,
and between them devices are enrolled, the license is replaced and the clock is set, also back. The
ids and nonces that are random are part of the calls.

* `Service.events`, `Service.after`: the calls of a run with their results, and the state that it
  leaves. What holds at the start and is kept by every call holds after every run
  (`Service.events_induction`).
* `Service.perform_effect`: what a call does to the ledger is read off its event. One that offers
  no challenge and opens no session adds nothing; one that opens a session uses up a challenge that
  was unused until then.
-/

namespace DeviceAuth

/-- What can happen to a service. -/
inductive Call where
  | issueChallenge (challengeId : String) (nonce : Word256) (deviceId : String)
  | submitProof (sessionId deviceId challengeId : String) (proof : Bytes) (values : PublicValues)
  | submit (sessionId : String) (request : ProofSubmission)
  | acceptToken (token : String)
  | extendSession (token : String)
  | endSession (sessionId : String)
  | endByToken (token : String)
  | removeExpired
  | forgetFailures (deviceId : String)
  | enroll (device : Credential)
  /-- Another license decides, or none is needed from now on. -/
  | replaceLicense (gate : LicenseGate)
  | setClock (now : Instant)

/-- What a call gives. -/
abbrev Call.Result : Call → Type
  | issueChallenge _ _ _ => Challenge
  | submitProof _ _ _ _ _ => Session
  | submit _ _ => Session
  | acceptToken _ => TokenClaims
  | extendSession _ => Session
  | endSession _ => Unit
  | endByToken _ => TokenClaims
  | removeExpired => Nat × Nat
  | forgetFailures _ => Unit
  | enroll _ => Unit
  | replaceLicense _ => Unit
  | setClock _ => Unit

/-- A call and what came of it. -/
structure Event where
  call : Call
  result : Except Failure call.Result

/-- A challenge that a device has been given. -/
structure Offer where
  deviceId : String
  challengeId : String
  deriving DecidableEq

/-- A session that has been opened for a challenge. -/
structure Opening where
  deviceId : String
  challengeId : String
  session : Session

namespace Event

/-- The challenge that an event offers, if it issues one. -/
def offer? : Event → Option Offer
  | ⟨.issueChallenge _ _ deviceId, .ok challenge⟩ => some ⟨deviceId, challenge.challengeId⟩
  | _ => none

/-- The session that an event opens, if it is a verification that succeeds. -/
def opening? : Event → Option Opening
  | ⟨.submitProof _ deviceId challengeId _ _, .ok session⟩ => some ⟨deviceId, challengeId, session⟩
  | ⟨.submit _ request, .ok session⟩ => some ⟨request.deviceId, request.challengeId, session⟩
  | _ => none

/-- The challenges that events offer. -/
def offers (events : List Event) : List Offer :=
  events.filterMap offer?

/-- The sessions that events open. -/
def openings (events : List Event) : List Opening :=
  events.filterMap opening?

/-- What the event at a position shows in some respect. -/
def shownAt {α : Type} (view : Event → Option α) (events : List Event) (position : Nat) :
    Option α :=
  events[position]?.bind view

theorem opening?_submitProof (sessionId deviceId challengeId : String) (proof : Bytes)
    (values : PublicValues) (result : Except Failure Session) :
    opening? ⟨.submitProof sessionId deviceId challengeId proof values, result⟩ =
      result.toOption.map fun session => ⟨deviceId, challengeId, session⟩ := by
  cases result <;> rfl

theorem opening?_submit (sessionId : String) (request : ProofSubmission)
    (result : Except Failure Session) :
    opening? ⟨.submit sessionId request, result⟩ =
      result.toOption.map fun session => ⟨request.deviceId, request.challengeId, session⟩ := by
  cases result <;> rfl

end Event

variable {σ : Type} [RecordStore σ]

namespace Service

/-- Makes a call. -/
def perform (service : Service) (call : Call) (state : State σ) :
    Except Failure call.Result × State σ :=
  match call with
  | .issueChallenge challengeId nonce deviceId =>
    (service.issueChallenge challengeId nonce deviceId).run state
  | .submitProof sessionId deviceId challengeId proof values =>
    (service.submitProof sessionId deviceId challengeId proof values).run state
  | .submit sessionId request => (service.submit sessionId request).run state
  | .acceptToken token => (service.acceptToken token).run state
  | .extendSession token => (service.extendSession token).run state
  | .endSession sessionId => (endSession sessionId).run state
  | .endByToken token => (service.endByToken token).run state
  | .removeExpired => removeExpired.run state
  | .forgetFailures deviceId => (Operation.forgetFailures deviceId).run state
  | .enroll device => (Operation.enroll device).run state
  | .replaceLicense gate => (.ok (), { state with license := gate })
  | .setClock now => (.ok (), { state with now })

/-- The state after calls. -/
def after (service : Service) : List Call → State σ → State σ
  | [], state => state
  | call :: rest, state => service.after rest (service.perform call state).2

/-- Calls with what came of them. -/
def events (service : Service) : List Call → State σ → List Event
  | [], _ => []
  | call :: rest, state =>
    ⟨call, (service.perform call state).1⟩ :: service.events rest (service.perform call state).2

variable {service : Service}

theorem after_append (first second : List Call) (state : State σ) :
    service.after (first ++ second) state = service.after second (service.after first state) := by
  induction first generalizing state with
  | nil => rfl
  | cons call rest ih => exact ih _

theorem events_append (first second : List Call) (state : State σ) :
    service.events (first ++ second) state =
      service.events first state ++ service.events second (service.after first state) := by
  induction first generalizing state with
  | nil => rfl
  | cons call rest ih => exact congrArg (_ :: ·) (ih _)

@[simp] theorem length_events (calls : List Call) (state : State σ) :
    (service.events calls state).length = calls.length := by
  induction calls generalizing state with
  | nil => rfl
  | cons call rest ih => exact congrArg Nat.succ (ih _)

/-- **What every call keeps, every run keeps.** -/
theorem events_induction (keeps : List Event → State σ → Prop)
    (step : ∀ events state call, keeps events state →
      keeps (events ++ [⟨call, (service.perform call state).1⟩]) (service.perform call state).2)
    {start : State σ} (atStart : keeps [] start) (calls : List Call) :
    keeps (service.events calls start) (service.after calls start) := by
  have goesOn : ∀ seen state, keeps seen state →
      keeps (seen ++ service.events calls state) (service.after calls state) := by
    induction calls with
    | nil =>
      intro seen state kept
      simpa [events, after] using kept
    | cons call rest ih =>
      intro seen state kept
      have next := ih _ _ (step seen state call kept)
      rwa [List.append_assoc] at next
  exact goesOn [] start atStart

/-- **What every request keeps of a store, every call keeps.** -/
theorem perform_store (keeps : σ → Prop)
    (step : ∀ (request : Request) (state : State σ), keeps state.store →
      keeps (request.perform state).2.store)
    (call : Call) (state : State σ) (before : keeps state.store) :
    keeps (service.perform call state).2.store := by
  have kept : ∀ {α : Type} (operation : Operation α), keeps (operation.run state).2.store :=
    fun operation => (Operation.Only.any operation).run_preserves
      (fun request state _ => step request state) state before
  cases call with
  | replaceLicense _ | setClock _ => exact before
  | _ => exact kept _

end Service

/-! ### What a call does to the ledger -/

/-- **What an event has done to the ledger.** -/
inductive Event.Effect (before after : Ledger) (event : Event) : Prop
  /-- Nothing is offered or opened, and nothing is new. -/
  | upkeep : event.offer? = none → event.opening? = none → before.Shrinks after →
      Effect before after event
  /-- A challenge is offered to the device that asked for it. -/
  | offers (challenge : Challenge) :
      event.offer? = some ⟨challenge.deviceId, challenge.challengeId⟩ → event.opening? = none →
      Ledger.Offers challenge before after → Effect before after event
  /-- A challenge of the device is used up, and then a session is opened for the device. -/
  | opens (opening : Opening) (spent : Ledger) :
      event.offer? = none → event.opening? = some opening →
      before.challenges opening.challengeId opening.deviceId false →
      before.Shrinks spent → spent.Closed opening.challengeId →
      opening.session.deviceId = opening.deviceId →
      Ledger.Opens opening.session spent after → Effect before after event

theorem Event.Effect.filed {event : Event} {before after : Ledger}
    (effect : event.Effect before after) (filed : before.filed) : after.filed := by
  cases effect with
  | upkeep _ _ shrinks => exact shrinks.filed filed
  | offers _ _ _ offers => exact offers.filed filed
  | opens _ _ _ _ _ shrinks _ _ opens => exact opens.filed (shrinks.filed filed)

section Effect

variable [LedgerStore σ] {service : Service} {state : State σ}

open LedgerStore Service

theorem Service.Issued.effect {challengeId deviceId : String} {nonce : Word256}
    {outcome : Except Failure Challenge × State σ}
    (issued : Issued service challengeId nonce deviceId state outcome) :
    Event.Effect (ledger state.store) (ledger outcome.2.store)
      ⟨.issueChallenge challengeId nonce deviceId, outcome.1⟩ := by
  cases issued with
  | refused failure => exact .upkeep rfl rfl (.refl _)
  | issued device expiresAt store known active unlocked added =>
    exact .offers _ rfl rfl (addChallenge_offers added)

/-- A verification has the same effect whichever call makes it. -/
theorem Service.Verified.effect {sessionId deviceId challengeId : String} {proof : Bytes}
    {values : PublicValues} {outcome : Except Failure Session × State σ} {event : Event}
    (verified : Verified service sessionId deviceId challengeId proof values state outcome)
    (filed : (ledger state.store).filed) (offers : event.offer? = none)
    (opens : event.opening? =
      outcome.1.toOption.map fun session => ⟨deviceId, challengeId, session⟩) :
    event.Effect (ledger state.store) (ledger outcome.2.store) := by
  cases verified with
  | refused failure store counters kept _ _ =>
    refine .upkeep offers opens ?_
    rcases kept with rfl | kept
    · exact .refl _
    · exact spend_shrinks kept
  | lost challenge device failure store passes spent =>
    exact .upkeep offers opens (spend_shrinks spent)
  | opened challenge device session spent store passes spends added named owned =>
    obtain ⟨holder, held⟩ := passes.held filed
    exact .opens ⟨deviceId, challengeId, session⟩ (ledger spent) offers opens held
      (spend_shrinks spends) (spend_closes spends).2 (owned.trans holder) (addSession_opens added)

/-- Whether a call neither issues a challenge, nor verifies a proof, nor forgets failures. -/
def Call.IsUpkeep : Call → Prop
  | issueChallenge _ _ _ | submitProof _ _ _ _ _ | submit _ _ | forgetFailures _ => False
  | _ => True

/-- All other calls are upkeep. -/
theorem Service.perform_upkeep (service : Service) (call : Call) (state : State σ)
    (upkeep : call.IsUpkeep) : state.Upkeep (service.perform call state).2 := by
  cases call with
  | issueChallenge _ _ _ | submitProof _ _ _ _ _ | submit _ _ | forgetFailures _ => cases upkeep
  | acceptToken token => exact (service.sessions.upkeep_accept token).upkeep state
  | extendSession token => exact (service.sessions.upkeep_extend token).upkeep state
  | endSession sessionId => exact (SessionPolicy.upkeep_close sessionId).upkeep state
  | endByToken token => exact (service.upkeep_endByToken token).upkeep state
  | removeExpired => exact upkeep_removeExpired.upkeep state
  | enroll device => exact (upkeep_enroll device).upkeep state
  | replaceLicense _ | setClock _ => exact ⟨.refl _, rfl⟩

/-- **Every call has the effect that its event shows.** -/
theorem Service.perform_effect (call : Call) (filed : (ledger state.store).filed) :
    Event.Effect (ledger state.store) (ledger (service.perform call state).2.store)
      ⟨call, (service.perform call state).1⟩ := by
  cases call with
  | issueChallenge challengeId nonce deviceId =>
    exact (service.issueChallenge_run challengeId nonce deviceId state).effect
  | submitProof sessionId deviceId challengeId proof values =>
    have submitted := service.submitProof_run sessionId deviceId challengeId proof values state
    exact submitted.effect filed rfl (Event.opening?_submitProof ..)
  | submit sessionId request =>
    have submitted := service.submit_run sessionId request state
    simp only [perform]
    -- What the request decodes to plays no part any more.
    generalize (service.submit sessionId request).run state = outcome at submitted ⊢
    rcases submitted with ⟨failure, counters, _, _, rfl⟩ | ⟨proof, _, verified⟩
    · exact .upkeep rfl rfl (.refl _)
    · exact verified.effect filed rfl (Event.opening?_submit ..)
  | forgetFailures _ => exact .upkeep rfl rfl (.refl _)
  | acceptToken _ | extendSession _ | endSession _ | endByToken _ | removeExpired | enroll _
  | replaceLicense _ | setClock _ =>
    refine .upkeep rfl rfl (service.perform_upkeep _ state ?_).shrinks
    trivial

/-- Every device stays filed under its own id. -/
theorem filed_after (service : Service) (calls : List Call) (filed : (ledger state.store).filed) :
    (ledger (service.after calls state).store).filed := by
  induction calls generalizing state with
  | nil => exact filed
  | cons call rest ih => exact ih ((service.perform_effect call filed).filed filed)

end Effect

/-! ### A small service

Runs of it are cases of the theorems about all runs.
-/

namespace Sample

/-- The beginning of 1970. -/
def epoch : Instant where
  seconds := 0
  nanos := 0
  seconds_ge := by decide
  seconds_le := by decide
  nanos_lt := by decide
  leap_aligned := by decide

/-- One second. -/
def second : Duration where
  nanos := 1000000000
  nanos_ge := by decide
  nanos_le := by decide

/-- A service that accepts every proof with at least one byte, and at most one failure in a row. -/
def service : Service where
  checker := ⟨"accept-all", acceptNonempty⟩
  sessions := ⟨⟨[], false⟩, second⟩
  challengeLifetime := second
  failureLimit := 1

/-- Records in memory, and none of them yet. -/
def vacant : State Storage where
  store := ⟨.memory .empty, ⟨[], [], []⟩⟩
  counters := .empty
  license := .disabled
  now := epoch

theorem blank_vacant : (LedgerStore.ledger vacant.store).Blank where
  challenges _ _ _ := by
    rintro ⟨_, member, _⟩
    cases member
  sessions _ _ := by
    rintro ⟨_, member, _⟩
    cases member
  filed _ _ member := by cases member

/-- The credential of a device. -/
def device : Credential where
  deviceId := "device"
  publicKey := ""
  commitment := .ofNat 1
  standing := .active

/-- The public values of the device for a nonce. -/
def values (nonce : Nat) : PublicValues where
  deviceId := .ofNat (Bytes.toNatBE (Bytes.ofText "device"))
  challenge := .ofNat nonce
  commitment := .ofNat 1
  response := .ofNat 0

end Sample

end DeviceAuth
