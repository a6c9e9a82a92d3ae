import DeviceAuth.Proofs.Auth.Lockstep.Calls

/-!
**Removing what has expired changes nothing that anybody can see.** A run is compared with the run
without its housekeeping: the states differ in records that have expired, which serve nobody, and
whose devices do not count for the license. So every step ends alike in both, but for calls that
fail since a record has expired: where it has been removed, they fail since there is none.

* `View.current`: two states are compared by what has not expired. `View.Joins.checkLicense`,
  `View.Joins.removeExpired_right`: what this view needs besides `Service.perform_ends`.
* `Gateway.matches_respond`: a request of a client is answered alike.
* `Gateway.Step`, `Gateway.Server.occurrences`: runs of a gateway, in which clients ask for
  something and other things happen to the service.
* `Gateway.lapses_perform`, `Gateway.lapses_run`: a step, and a run.
* `Gateway.housekeeping_unseen`: any two runs that differ in housekeeping only.
-/

namespace DeviceAuth

open Operation Storage Service

/-! ### What has not expired -/

/-- **Everything is seen that has not expired,** and only the second of two states may lack what
has. -/
def View.current (resolution : Resolution) : View where
  device _ := True
  challenge now challenge := !resolution.isPast challenge.expiresAt now
  session now session := !resolution.isPast session.expiresAt now
  foreign := False
  covers := True

namespace View

variable {resolution : Resolution} {now later : Instant}

theorem lawful_current (plain : now.isLeap = false) :
    (current resolution).Lawful resolution now where
  challenge := by
    intro hidden found _ past read _
    refine .inl ?_
    cases expired : found.hasExpired now
    · simp [current, Resolution.not_isPast_of_readChallenge read plain expired] at past
    · rfl
  session := by
    intro hidden found _ past read _
    refine .inl ?_
    cases expired : found.hasExpired now
    · simp [current, Resolution.not_isPast_of_read read plain expired] at past
    · rfl

theorem persists_current (plain : now.isLeap = false) (plainLater : later.isLeap = false)
    (le : now ≤ later) : (current resolution).Persists now later := by
  have persists : ∀ expiry, (!resolution.isPast expiry later) = true →
      (!resolution.isPast expiry now) = true := by
    intro expiry current
    cases past : resolution.isPast expiry now
    · rfl
    · rw [Resolution.isPast_mono plain plainLater le past] at current
      cases current
  exact ⟨fun _ => persists _, fun _ => persists _⟩

section Joins

variable {unused : List String} {kept keptToo : MemoryStore} {first second : State Storage}

/-- Whoever holds a session in one of two stores that agree holds one in the other. -/
theorem holders_of_filter_eq {records others : MemoryStore} (distinct : records.sessions.Distinct)
    {now : Instant} (same : ∀ id,
      (records.sessions.get? id).filter ((current resolution).session now) =
        (others.sessions.get? id).filter ((current resolution).session now)) {deviceId : String}
    (holds : deviceId ∈ records.holders fun session => resolution.isPast session.expiresAt now) :
    deviceId ∈ others.holders fun session => resolution.isPast session.expiresAt now := by
  rw [MemoryStore.mem_holders] at holds ⊢
  obtain ⟨sessionId, session, member, current, owned⟩ := holds
  have equal := same sessionId
  rw [distinct.get?_eq_some_iff.mpr member, Option.filter_some,
    if_pos (by simp [View.current, current])] at equal
  obtain ⟨found, _⟩ := Option.filter_eq_some_iff.mp equal.symm
  exact ⟨sessionId, session, Dictionary.mem_of_get? found, current, owned⟩

/-- The same devices hold a session in both states. -/
theorem Joins.liveDevices
    (joins : (current resolution).Joins resolution unused kept keptToo first second) :
    ∃ live liveToo, RecordStore.liveDevices first.now first.store = .ok live ∧
      RecordStore.liveDevices second.now second.store = .ok liveToo ∧ live.Perm liveToo := by
  have same := joins.agree.sessions.same
  obtain ⟨live, listed, nodup, mem_iff⟩ := joins.stocked.keeps.liveDevices first.now
  obtain ⟨liveToo, listedToo, nodupToo, mem_iffToo⟩ := joins.stockedToo.keeps.liveDevices second.now
  refine ⟨live, liveToo, listed, listedToo,
    (List.perm_ext_iff_of_nodup nodup nodupToo).mpr fun deviceId => ?_⟩
  rw [mem_iff, mem_iffToo, ← joins.now]
  exact ⟨holders_of_filter_eq joins.stocked.keeps.tidy.sessions.distinct same,
    holders_of_filter_eq joins.stockedToo.keeps.tidy.sessions.distinct fun id => (same id).symm⟩

/-- **The license allows a device in both states, or in neither.** -/
theorem Joins.checkLicense
    (joins : (current resolution).Joins resolution unused kept keptToo first second)
    (deviceId : String) :
    ((Service.checkLicense deviceId).run first).1 =
      ((Service.checkLicense deviceId).run second).1 := by
  obtain ⟨live, liveToo, listed, listedToo, perm⟩ := joins.liveDevices
  -- How many devices are live, and whether this one is, does not depend on their order.
  have quota : ∀ maxDevices, ((checkQuota deviceId maxDevices).run first).1 =
      ((checkQuota deviceId maxDevices).run second).1 := by
    intro maxDevices
    unfold checkQuota SessionPolicy.liveNow
    split
    · rfl
    · simp only [run_bind, run_now, run_liveDevices, listed, listedToo, Failure.lift_ok,
        perm.contains_eq, perm.length_eq]
      split <;> rfl
  unfold Service.checkLicense
  simp only [run_bind, run_license, ← joins.license]
  cases first.license.isEnabled
  · rfl
  · simp only [if_true, run_bind, run_now, ← joins.now, run_done]
    rcases first.license.check first.now with failure | _
    · rfl
    · exact quota _

/-- **What has expired is removed from the second state,** and the first one does not show it. -/
theorem Joins.removeExpired_right
    (joins : (current resolution).Joins resolution unused kept keptToo first second) :
    (current resolution).Joined resolution unused first (Service.removeExpired.run second).2 := by
  obtain ⟨_, store, ran, stocked⟩ := joins.stockedToo.removeExpired
  have tidy := joins.stockedToo.keeps.tidy
  have sameTime : keptToo.unexpired resolution first.now =
      keptToo.unexpired resolution second.now := by rw [joins.now]
  rw [ran]
  rw [← sameTime] at stocked
  exact (joins.change joins.stocked stocked
    { joins.agree with
      challenges := joins.agree.challenges.filter_seen tidy.challenges.distinct
      sessions := joins.agree.sessions.filter_seen tidy.sessions.distinct }).joined

end Joins

/-- **A call ends alike whether or not what has expired has been removed,** unless it ends a session
by its id. -/
theorem Joined.perform_current {unused : List String} {first second : State Storage}
    {service : Service} (call : Call)
    (joined : (current resolution).Joined resolution (call.drawn?.toList ++ unused) first second)
    (plain : first.now.isLeap = false) (moves : first.now ≤ call.clock first.now)
    (plainThen : (call.clock first.now).isLeap = false) (lasting : service.Lasting)
    (readable : call.IsReadable resolution) (byToken : ∀ sessionId, call ≠ .endSession sessionId)
    (keeps : call ≠ .removeExpired) :
    (current resolution).Ends resolution unused (service.perform call first)
      (service.perform call second) := by
  refine Service.perform_ends call joined (lawful_current plain) lasting (fun _ _ => trivial)
    readable (fun deviceId _ => ?_) (persists_current plain plainThen moves) byToken keeps
  obtain ⟨_, _, joins⟩ := joined
  exact joins.checkLicense deviceId

end View

/-! ### Requests -/

namespace View

/-- **Two runs of one operation with the same result,** which leave states that are alike. -/
structure Matches (view : View) (resolution : Resolution) (unused : List String) {α : Type}
    (outcome outcomeToo : Except Failure α × State Storage) : Prop where
  result : outcome.1 = outcomeToo.1
  joined : view.Joined resolution unused outcome.2 outcomeToo.2

section Matches

variable {view : View} {resolution : Resolution} {unused : List String}
  {first second : State Storage} {α β : Type} {operation : Operation α}

theorem Ends.tail {id : String} {outcome outcomeToo : Except Failure α × State Storage}
    (ends : view.Ends resolution (id :: unused) outcome outcomeToo) :
    view.Ends resolution unused outcome outcomeToo := by
  cases ends with
  | value value joined => exact .value value joined.tail
  | failure same joined => exact .failure same joined.tail

/-- What a client is told of two runs is the same. -/
theorem Ends.answered
    (ends : view.Ends resolution unused (operation.run first) (operation.run second))
    (respond : α → Gateway.Response) :
    view.Matches resolution unused ((Gateway.answered operation respond).run first)
      ((Gateway.answered operation respond).run second) := by
  rw [Gateway.run_answered, Gateway.run_answered]
  generalize operation.run first = outcome, operation.run second = outcomeToo at ends
  cases ends with
  | value value joined => exact ⟨rfl, joined⟩
  | failure same joined => exact ⟨congrArg Except.ok same.refusalOf, joined⟩

theorem Joined.pure (joined : view.Joined resolution unused first second) (value : α) :
    view.Matches resolution unused ((Pure.pure value : Operation α).run first)
      ((Pure.pure value : Operation α).run second) :=
  ⟨rfl, joined⟩

/-- What is made of a result is the same where the result is. -/
theorem Matches.map
    (matched : view.Matches resolution unused (operation.run first) (operation.run second))
    (change : α → β) :
    view.Matches resolution unused ((operation >>= fun value => Pure.pure (change value)).run first)
      ((operation >>= fun value => Pure.pure (change value)).run second) := by
  obtain ⟨same, joined⟩ := matched
  rw [run_bind, run_bind]
  generalize operation.run first = outcome, operation.run second = outcomeToo at same joined
  obtain ⟨result, after⟩ := outcome
  obtain ⟨_, afterToo⟩ := outcomeToo
  obtain rfl : result = _ := same
  rcases result with failure | value <;> exact ⟨rfl, joined⟩

theorem Matches.authorized {request : Gateway.Request} {operation : String → Operation α}
    {respond : α → Gateway.Response} (joined : view.Joined resolution unused first second)
    (ends : ∀ token, view.Ends resolution unused ((operation token).run first)
      ((operation token).run second)) :
    view.Matches resolution unused ((Gateway.authorized request operation respond).run first)
      ((Gateway.authorized request operation respond).run second) := by
  unfold Gateway.authorized
  split
  · exact (ends _).answered respond
  · exact joined.pure _

theorem Matches.documented {read : Json → Option α} {request : Gateway.Request}
    {respond : α → Operation Gateway.Response}
    (joined : view.Joined resolution unused first second)
    (matched : ∀ value, view.Matches resolution unused ((respond value).run first)
      ((respond value).run second)) :
    view.Matches resolution unused ((Gateway.documented read request respond).run first)
      ((Gateway.documented read request respond).run second) := by
  unfold Gateway.documented
  split
  · exact matched _
  · exact joined.pure _

end Matches

end View

namespace Gateway

/-- The ids that are drawn for a request. -/
def Fresh.drawn (fresh : Fresh) : List String :=
  [fresh.challengeId, fresh.sessionId]

/-- The report on the gateway depends on the clock and the license. -/
theorem only_health (server : Server) :
    Only (· ∈ [DeviceAuth.Request.now, .license]) (health server) := by
  refine .bind (.request _ _ (by simp)) fun moment => ?_
  exact .bind (.request _ _ (by simp)) fun gate => .bind (.done _) fun report => .pure _

section Respond

open View

variable {server : Server} {resolution : Resolution} {unused : List String}
  {first second : State Storage} {fresh : Fresh}

theorem matches_health {view : View} (joined : view.Joined resolution unused first second) :
    view.Matches resolution unused ((health server).run first) ((health server).run second) := by
  obtain ⟨_, _, joins⟩ := joined
  have same : ∀ request : DeviceAuth.Request, request ∈ [DeviceAuth.Request.now, .license] →
      (request.perform first).1 = (request.perform second).1 := by
    rintro request (_ | ⟨_, _ | ⟨_, member⟩⟩)
    · exact joins.now
    · exact joins.license
    · cases member
  obtain ⟨result, ran, ranToo⟩ :=
    (only_health server).run_alike (by simp [DeviceAuth.Request.IsRead]) same
  rw [ran, ranToo]
  exact ⟨rfl, joins.joined⟩

/-- An endpoint answers alike whether or not what has expired has been removed. -/
theorem matches_serve
    (joined : (current resolution).Joined resolution (fresh.drawn ++ unused) first second)
    (plain : first.now.isLeap = false) (lasting : server.service.Lasting)
    (canonical : fresh.nonce.IsCanonical) (request : Gateway.Request) (endpoint : Endpoint) :
    (current resolution).Matches resolution unused ((serve server fresh request endpoint).run first)
      ((serve server fresh request endpoint).run second) := by
  have here : (current resolution).Joined resolution unused first second := joined.of_append
  have session : (current resolution).Joined resolution (fresh.sessionId :: unused) first second :=
    joined.tail
  have moves : first.now ≤ first.now := Instant.le_refl _
  cases endpoint with
  | health => exact (matches_health here).map _
  | challenge =>
    refine .documented here fun asked => ?_
    have ends : (current resolution).Ends resolution (fresh.sessionId :: unused) _ _ :=
      Joined.perform_current (.issueChallenge fresh.challengeId fresh.nonce asked.deviceId) joined
        plain moves plain lasting canonical (by simp) (by simp)
    exact ends.tail.answered _
  | verify =>
    refine .documented here fun submitted => ?_
    have ends := Joined.perform_current (.submit fresh.sessionId submitted) session plain moves
      plain lasting trivial (by simp) (by simp)
    simp only [Service.perform] at ends
    exact ends.answered _
  | refresh =>
    refine .authorized here fun token => ?_
    exact Joined.perform_current (.extendSession token) here plain moves plain lasting
      trivial (by simp) (by simp)
  | revoke =>
    refine .authorized here fun token => ?_
    exact Joined.perform_current (.endByToken token) here plain moves plain lasting trivial
      (by simp) (by simp)
  | session =>
    refine .authorized here fun token => ?_
    exact Joined.perform_current (.acceptToken token) here plain moves plain lasting trivial
      (by simp) (by simp)

/-- **A request is answered alike whether or not what has expired has been removed.** -/
theorem matches_respond
    (joined : (current resolution).Joined resolution (fresh.drawn ++ unused) first second)
    (plain : first.now.isLeap = false) (lasting : server.service.Lasting)
    (canonical : fresh.nonce.IsCanonical) (request : Gateway.Request) :
    (current resolution).Matches resolution unused ((respond server fresh request).run first)
      ((respond server fresh request).run second) := by
  have here : (current resolution).Joined resolution unused first second := joined.of_append
  unfold respond
  rcases (targetPath? request.target).bind Endpoint.ofPath? with _ | endpoint
  · exact here.pure _
  · dsimp only
    split
    · exact (matches_serve joined plain lasting canonical request endpoint).map _
    · refine Matches.map ?_ _
      unfold turnAway
      cases endpoint with
      | session =>
        refine .authorized here fun token => ?_
        exact Joined.perform_current (.acceptToken token) here plain (Instant.le_refl _)
          plain lasting trivial (by simp) (by simp)
      | _ => exact here.pure _

end Respond

/-! ### Runs -/

/-- **What can happen to a gateway:** a client asks for something, or something else happens to the
service. -/
inductive Step where
  | serve (fresh : Fresh) (request : Gateway.Request)
  | happens (call : Call)

namespace Step

/-- What a step gives. -/
abbrev Result : Step → Type
  | serve _ _ => Response
  | happens call => call.Result

/-- Whether a step removes what has expired. -/
def isHousekeeping : Step → Bool
  | happens .removeExpired => true
  | _ => false

theorem eq_of_isHousekeeping {step : Step} (keeping : step.isHousekeeping = true) :
    step = happens .removeExpired := by
  rcases step with _ | call
  · cases keeping
  · cases call <;> first | rfl | cases keeping

/-- The ids that are drawn for a step. -/
def drawn : Step → List String
  | serve fresh _ => fresh.drawn
  | happens call => call.drawn?.toList

/-- The call that a step is, if no client asks for it. -/
def call? : Step → Option Call
  | serve _ _ => none
  | happens call => some call

/-- The time after a step. -/
def clock (now : Instant) : Step → Instant
  | serve _ _ => now
  | happens call => call.clock now

/-- The steps of a run besides housekeeping. -/
def besidesHousekeeping (steps : List Step) : List Step :=
  steps.filter fun step => !step.isHousekeeping

/-- The first step of a timely run, and the others. -/
theorem timely_cons {now : Instant} {step : Step} {rest : List Step}
    (timely : Timely now ((step :: rest).filterMap call?)) :
    Timely now step.call?.toList ∧ Timely (step.clock now) (rest.filterMap call?) := by
  cases step with
  | serve fresh request => exact ⟨trivial, timely⟩
  | happens call => exact ⟨⟨timely.1, timely.2.1, trivial⟩, timely.2.2⟩

theorem plain_of_timely {now : Instant} {step : Step} (plain : now.isLeap = false)
    (timely : Timely now step.call?.toList) : (step.clock now).isLeap = false := by
  cases step with
  | serve fresh request => exact plain
  | happens call => exact timely.2.1

/-- Whether a step can be part of a run: nonces and commitments can be read back, and sessions are
ended with their tokens only. -/
def IsUsual (resolution : Resolution) : Step → Prop
  | serve fresh _ => fresh.nonce.IsCanonical
  | happens call => call.IsReadable resolution ∧ ∀ sessionId, call ≠ .endSession sessionId

end Step

/-- A step and what came of it. -/
structure Occurrence where
  step : Step
  result : Except Failure step.Result

namespace Occurrence

/-- **What is seen of a step:** what it gives, or what is told of a failure. Housekeeping is not
seen. -/
def seen? (occurrence : Occurrence) : Option ((step : Step) × Except Response step.Result) :=
  if occurrence.step.isHousekeeping then none
  else some ⟨occurrence.step, occurrence.result.mapError refusalOf⟩

/-- **What housekeeping can make of a step:** nothing, unless the step is a call that fails since a
record has expired; without the record, the call fails since there is no such record. -/
inductive LapsesTo : Occurrence → Occurrence → Prop
  | same (occurrence : Occurrence) : LapsesTo occurrence occurrence
  | challenge (call : Call) (challengeId : String) :
      LapsesTo ⟨.happens call, .error (.refused (.challengeExpired challengeId))⟩
        ⟨.happens call, .error (.refused (.challengeNotFound challengeId))⟩
  | session (call : Call) (sessionId : String) :
      LapsesTo ⟨.happens call, .error (.refused (.sessionExpired sessionId))⟩
        ⟨.happens call, .error (.refused (.sessionNotFound sessionId))⟩

/-- What housekeeping can make of a step is not seen. -/
theorem LapsesTo.seen? {first second : Occurrence} (lapses : first.LapsesTo second) :
    first.seen? = second.seen? := by
  cases lapses <;> rfl

end Occurrence

namespace Server

variable {σ : Type} [RecordStore σ] (server : Server)

/-- Takes a step. -/
def perform (step : Step) (state : State σ) : Except Failure step.Result × State σ :=
  match step with
  | .serve fresh request => (respond server fresh request).run state
  | .happens call => server.service.perform call state

/-- The state after steps. -/
def after : List Step → State σ → State σ
  | [], state => state
  | step :: rest, state => after rest (server.perform step state).2

/-- Steps with what came of them. -/
def occurrences : List Step → State σ → List Occurrence
  | [], _ => []
  | step :: rest, state =>
    ⟨step, (server.perform step state).1⟩ :: occurrences rest (server.perform step state).2

theorem perform_now (step : Step) (state : State σ) :
    (server.perform step state).2.now = step.clock state.now := by
  cases step with
  | serve fresh request => exact (run_sameTerms _ state).now
  | happens call => exact server.service.perform_now call state

end Server

section Runs

open View

variable {server : Server} {resolution : Resolution} {unused : List String}
  {first second : State Storage}

/-- **A step gives the same whether or not what has expired has been removed,** except that the
records are missing then. -/
theorem lapses_perform {step : Step}
    (joined : (current resolution).Joined resolution (step.drawn ++ unused) first second)
    (plain : first.now.isLeap = false) (timely : Timely first.now step.call?.toList)
    (lasting : server.service.Lasting) (usual : step.IsUsual resolution)
    (keeps : step.isHousekeeping = false) :
    Occurrence.LapsesTo ⟨step, (server.perform step first).1⟩
        ⟨step, (server.perform step second).1⟩ ∧
      (current resolution).Joined resolution unused (server.perform step first).2
        (server.perform step second).2 := by
  cases step with
  | serve fresh request =>
    obtain ⟨same, joined⟩ := matches_respond joined plain lasting usual request
    refine ⟨?_, joined⟩
    simp only [Server.perform, same]
    exact .same _
  | happens call =>
    obtain ⟨moves, plainThen, _⟩ := timely
    have ends := joined.perform_current call plain moves plainThen lasting usual.1 usual.2 <| by
      rintro rfl
      cases keeps
    simp only [Server.perform]
    generalize server.service.perform call first = outcome,
      server.service.perform call second = outcomeToo at ends
    cases ends with
    | value value joined => exact ⟨.same _, joined⟩
    | failure same joined =>
      refine ⟨?_, joined⟩
      cases same with
      | refl failure => exact .same _
      | challenge challengeId refused refusedToo covered =>
        rcases refused with _ | _ | ⟨⟨⟩, _⟩ <;> rcases refusedToo with _ | _ | ⟨⟨⟩, _⟩
        · exact .same _
        · cases covered trivial rfl
        · exact .challenge call challengeId
        · exact .same _
      | session sessionId refused refusedToo covered =>
        rcases refused with _ | _ | ⟨_, ⟨⟩⟩ <;> rcases refusedToo with _ | _ | ⟨_, ⟨⟩⟩
        · exact .same _
        · cases covered trivial rfl
        · exact .session call sessionId
        · exact .same _

/-- **A run without housekeeping and the run with it** go on alike from states that are alike. -/
theorem lapses_run {steps : List Step}
    (joined : (current resolution).Joined resolution
      ((Step.besidesHousekeeping steps).flatMap Step.drawn) first second)
    (plain : first.now.isLeap = false)
    (timely : Timely first.now ((Step.besidesHousekeeping steps).filterMap Step.call?))
    (lasting : server.service.Lasting)
    (usual : ∀ step ∈ Step.besidesHousekeeping steps, step.IsUsual resolution) :
    List.Forall₂ Occurrence.LapsesTo
        (server.occurrences (Step.besidesHousekeeping steps) first)
        ((server.occurrences steps second).filter fun occurrence =>
          !occurrence.step.isHousekeeping) ∧
      (current resolution).Joined resolution []
        (server.after (Step.besidesHousekeeping steps) first) (server.after steps second) := by
  induction steps generalizing first second with
  | nil => exact ⟨.nil, joined⟩
  | cons step rest ih =>
    rcases keeps : step.isHousekeeping with _ | _
    · -- Both runs take the step.
      have others : Step.besidesHousekeeping (step :: rest) =
          step :: Step.besidesHousekeeping rest := by simp [Step.besidesHousekeeping, keeps]
      rw [others] at joined timely usual ⊢
      obtain ⟨here, goesOn⟩ := Step.timely_cons timely
      obtain ⟨lapses, joinedThen⟩ :=
        lapses_perform joined plain here lasting (usual step (.head _)) keeps
      rw [← server.perform_now step first] at goesOn
      obtain ⟨lapsesThen, ends⟩ := ih joinedThen
        (by rw [server.perform_now]; exact Step.plain_of_timely plain here) goesOn
        fun other member => usual other (.tail _ member)
      refine ⟨?_, ends⟩
      simp only [Server.occurrences, List.filter_cons, keeps, Bool.not_false, if_true]
      exact .cons lapses lapsesThen
    · -- Only the second run takes it, and it is not seen.
      have others : Step.besidesHousekeeping (step :: rest) = Step.besidesHousekeeping rest := by
        simp [Step.besidesHousekeeping, keeps]
      rw [others] at joined timely usual ⊢
      obtain ⟨_, _, joins⟩ := joined
      obtain rfl := Step.eq_of_isHousekeeping keeps
      exact ih joins.removeExpired_right plain timely usual

end Runs

/-! ### Any two runs -/

/-- **Housekeeping is not seen in two runs** from one state that differ in nothing else. -/
structure HousekeepingUnseen (server : Server) (start : State Storage) (first second : List Step) :
    Prop where
  /-- Every other step gives the same, or fails so that the same is told of it. -/
  seen : (server.occurrences first start).filterMap Occurrence.seen? =
    (server.occurrences second start).filterMap Occurrence.seen?
  counters : ∀ deviceId, (server.after first start).counters.count deviceId =
    (server.after second start).counters.count deviceId
  /-- Without housekeeping, no step gives anything else, and some calls fail since a record has
  expired that is missing with it. -/
  lapses : List.Forall₂ Occurrence.LapsesTo
    (server.occurrences (Step.besidesHousekeeping first) start)
    ((server.occurrences first start).filter fun occurrence => !occurrence.step.isHousekeeping)

/-- Housekeeping is left out of what is seen. -/
theorem Occurrence.filterMap_seen?_filter (occurrences : List Occurrence) :
    (occurrences.filter fun occurrence => !occurrence.step.isHousekeeping).filterMap seen? =
      occurrences.filterMap seen? := by
  rw [List.filterMap_filter]
  refine List.filterMap_congr fun occurrence _ => ?_
  unfold Occurrence.seen?
  cases occurrence.step.isHousekeeping <;> rfl

theorem Occurrence.filterMap_seen?_congr {occurrences others : List Occurrence}
    (lapse : List.Forall₂ LapsesTo occurrences others) :
    occurrences.filterMap seen? = others.filterMap seen? := by
  induction lapse with
  | nil => rfl
  | cons lapses _ ih => simp only [List.filterMap_cons, lapses.seen?, ih]

/-- **Housekeeping is not seen,** wherever it is done. The run goes on over a storage of either kind,
with records that can be read back and with ids that are new; time does not go back, and sessions are
ended with their tokens. -/
theorem housekeeping_unseen {checker : ProofChecker} {settings : AuthSettings}
    {given : Option TokenSecret} {material : Bytes} {server : Server}
    (built : Service.ofSettings checker settings given material = .ok server.service)
    {start : State Storage} {resolution : Resolution} {records : MemoryStore} {others : List Step}
    (stocked : start.Stocked resolution (others.flatMap Step.drawn) records)
    (plain : start.now.isLeap = false) (timely : Timely start.now (others.filterMap Step.call?))
    (usual : ∀ step ∈ others, step.IsUsual resolution) {first second : List Step}
    (same : Step.besidesHousekeeping first = others)
    (sameToo : Step.besidesHousekeeping second = others) :
    HousekeepingUnseen server start first second := by
  have run : ∀ steps, Step.besidesHousekeeping steps = others →
      List.Forall₂ Occurrence.LapsesTo (server.occurrences others start)
          ((server.occurrences steps start).filter fun occurrence =>
            !occurrence.step.isHousekeeping) ∧
        (View.current resolution).Joined resolution [] (server.after others start)
          (server.after steps start) := by
    rintro steps rfl
    have joins : (View.current resolution).Joins resolution
        ((Step.besidesHousekeeping steps).flatMap Step.drawn) records records start start :=
      ⟨stocked, stocked, .refl _ _ _, fun _ _ => rfl, rfl, rfl⟩
    exact lapses_run joins.joined plain timely (Service.lasting_ofSettings built) usual
  obtain ⟨lapses, ends⟩ := run first same
  obtain ⟨lapsesToo, endsToo⟩ := run second sameToo
  refine ⟨?_, fun deviceId => ?_, same ▸ lapses⟩
  · rw [← Occurrence.filterMap_seen?_filter, ← Occurrence.filterMap_seen?_congr lapses,
      Occurrence.filterMap_seen?_congr lapsesToo, Occurrence.filterMap_seen?_filter]
  · obtain ⟨_, _, joins⟩ := ends
    obtain ⟨_, _, joinsToo⟩ := endsToo
    exact (joins.counters deviceId trivial).symm.trans (joinsToo.counters deviceId trivial)

end Gateway

/-! A challenge expires, and is removed before its device comes back. -/

namespace Sample

/-- The small service of some settings, with records in a database. -/
def durable : Gateway.Server where
  service := configured
  durable := true

/-- No records are in the database yet. -/
def tabling : State Storage :=
  { vacant with store := database }

/-- A device gets a challenge and lets it expire. -/
def dallying : List Gateway.Step := [
  .happens (.enroll device),
  .happens (.issueChallenge "challenge" (.ofNat 2) "device"),
  .happens (.setClock afterwards)]

/-- The device comes back. -/
def belated : Call :=
  .submitProof "session" "device" "challenge" [1] (values 2)

/-- After the device, somebody looks after the gateway. -/
def returning : List Gateway.Step := [
  .happens belated,
  .serve ⟨"unasked", .ofNat 3, "unopened"⟩ ⟨"GET", "/health", [], []⟩]

end Sample

open Sample Gateway in
theorem housekeeping_unseen_returning :
    (configured.perform belated (durable.after dallying tabling)).1 =
        .error (.refused (.challengeExpired "challenge")) ∧
      (configured.perform belated
          (durable.after (dallying ++ [.happens .removeExpired]) tabling)).1 =
        .error (.refused (.challengeNotFound "challenge")) ∧
      HousekeepingUnseen durable tabling (dallying ++ returning)
        (dallying ++ .happens .removeExpired :: returning) := by
  have built : Service.ofSettings ⟨"accept-all", acceptNonempty⟩ settings (some (.configured []))
      [] = .ok durable.service := rfl
  have stocked : tabling.Stocked .milliseconds ((dallying ++ returning).flatMap Step.drawn) .empty :=
    ⟨⟨MemoryStore.tidy_empty, trivial, true, rfl⟩, .empty (by decide)⟩
  refine ⟨rfl, rfl, housekeeping_unseen built stocked rfl ?_ ?_ rfl rfl⟩
  · exact ⟨Instant.le_refl _, rfl, Instant.le_refl _, rfl, by decide, rfl, Instant.le_refl _, rfl,
      trivial⟩
  · have canonical : ∀ nonce < 4, (Word256.ofNat nonce).IsCanonical := by decide
    simp only [dallying, returning, List.cons_append, List.nil_append, List.forall_mem_cons]
    exact ⟨⟨fun _ => by decide, nofun⟩, ⟨canonical 2 (by decide), nofun⟩, ⟨trivial, nofun⟩,
      ⟨trivial, nofun⟩, canonical 3 (by decide), List.forall_mem_nil _⟩

end DeviceAuth
