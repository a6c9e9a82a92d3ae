import DeviceAuth.Proofs.Auth.Equivalence
import DeviceAuth.Proofs.Auth.Evolution
import DeviceAuth.Proofs.Auth.Quota

/-!
**The records of sessions along a run of the service.** Time does not go back and no two sessions
are opened with one id. Then every session that is read is in its time and stays the same one for as
long as it is there. Renewing it is the only call that changes when it ends, and it never ends
earlier than before; one that has expired stays expired.

The invariant holds of the sessions as they are kept, with all their nanoseconds, and rounding them
down on reading keeps it, since the lifetime of sessions is a whole number of seconds.
-/

namespace DeviceAuth

open Operation Service SessionEvent

/-! ### Runs as events of sessions -/

/-- The time after a call. -/
def Call.clock (now : Instant) : Call → Instant
  | setClock later => later
  | _ => now

/-- Time does not go back and is in no leap second. -/
def Timely (now : Instant) : List Call → Prop
  | [] => True
  | call :: rest => now ≤ call.clock now ∧ (call.clock now).isLeap = false ∧
      Timely (call.clock now) rest

namespace Service

variable {σ : Type} [RecordStore σ] (service : Service)

/-- What the calls of a run do to sessions. -/
def sessionEvents : List Call → State σ → List SessionEvent
  | [], _ => []
  | call :: rest, state =>
    ⟨state.now, Event.sessionEffect ⟨call, (service.perform call state).1⟩⟩ ::
      sessionEvents rest (service.perform call state).2

theorem sessionEvents_append (first second : List Call) (state : State σ) :
    service.sessionEvents (first ++ second) state =
      service.sessionEvents first state ++
        service.sessionEvents second (service.after first state) := by
  induction first generalizing state with
  | nil => rfl
  | cons call rest ih => exact congrArg (_ :: ·) (ih _)

theorem perform_now (call : Call) (state : State σ) :
    (service.perform call state).2.now = call.clock state.now := by
  have kept : ∀ {α : Type} (operation : Operation α), (operation.run state).2.now = state.now :=
    fun operation => (run_sameTerms operation state).now
  cases call with
  | setClock later => rfl
  | replaceLicense gate => rfl
  | submit sessionId request => simp only [perform, kept, Call.clock]
  | _ => exact kept _

/-- In a timely run the events are in order. -/
theorem inOrder_sessionEvents {calls : List Call} {state : State σ}
    (plain : state.now.isLeap = false) (timely : Timely state.now calls) :
    InOrder state.now (service.after calls state).now (service.sessionEvents calls state) ∧
      (service.after calls state).now.isLeap = false := by
  induction calls generalizing state with
  | nil => exact ⟨Instant.le_refl _, plain⟩
  | cons call rest ih =>
    obtain ⟨le, plainNext, timelyRest⟩ := timely
    have next := service.perform_now call state
    rw [← next] at le plainNext timelyRest
    obtain ⟨order, plainAfter⟩ := ih plainNext timelyRest
    exact ⟨⟨Instant.le_refl _, plain, order.of_le le⟩, plainAfter⟩

theorem opened?_sessionEffect (event : Event) :
    event.sessionEffect.opened? = event.opening?.map (·.session.sessionId) := by
  obtain ⟨call, result⟩ := event
  cases call <;> cases result <;> rfl

/-- The sessions that the events open are those that the calls open. -/
theorem opened_sessionEvents (calls : List Call) (state : State σ) :
    opened (service.sessionEvents calls state) =
      (Event.openings (service.events calls state)).map (·.session.sessionId) := by
  rw [Event.openings, List.map_filterMap]
  induction calls generalizing state with
  | nil => rfl
  | cons call rest ih =>
    simp only [opened, sessionEvents, events, List.filterMap_cons, opened?_sessionEffect] at ih ⊢
    rw [ih]

theorem evolution {resolution : Resolution} {records : MemoryStore} {state : State Storage}
    (keeps : state.store.Keeps resolution records) (calls : List Call) :
    ∃ kept, (service.after calls state).store.Keeps resolution kept ∧
      Evolution service.sessions resolution (service.sessionEvents calls state) records.sessions
        kept.sessions := by
  induction calls generalizing state records with
  | nil => exact ⟨records, keeps, .nil _⟩
  | cons call rest ih =>
    obtain ⟨between, keepsNow, evolves⟩ := service.perform_evolves call keeps
    obtain ⟨kept, keepsAfter, goesOn⟩ := ih keepsNow
    exact ⟨kept, keepsAfter, .cons _ evolves goesOn⟩

end Service

/-! ### What a call changes -/

/-- What a call changes of a session that it leaves in its place. -/
def Session.ChangedBy (before after : Session) : Call → Prop
  | .acceptToken _ => after = { before with lastUsedAt := after.lastUsedAt }
  | .extendSession _ =>
    after = { before with
      expiresAt := after.expiresAt
      token := after.token
      lastUsedAt := after.lastUsedAt }
  | _ => after = before

theorem Session.ChangedBy.refl (session : Session) (call : Call) :
    session.ChangedBy session call := by
  cases call <;> rfl

/-- A session that an event leaves in its place is changed as the call of the event may change it,
also as it is read. -/
theorem Evolves.changedBy {policy : SessionPolicy} {resolution : Resolution} {now : Instant}
    {sessionId : String} {held session : Session} {event : Event}
    (evolves : Evolves policy resolution now event.sessionEffect sessionId (some held)
      (some session))
    (unopened : event.sessionEffect.opened? ≠ some sessionId) :
    (held.floor resolution).ChangedBy (session.floor resolution) event.call := by
  generalize effect : event.sessionEffect = shown at evolves unopened
  cases evolves with
  | stays _ _ => exact .refl _ _
  | opened _ _ opens named =>
    rw [opens, SessionEffect.opened?, named] at unopened
    exact absurd rfl unopened
  | used _ uses =>
    obtain ⟨call, result⟩ := event
    rw [uses] at effect
    cases call <;> cases result <;> cases effect
    rfl
  | renewed _ _ _ renews _ _ _ _ _ =>
    obtain ⟨call, result⟩ := event
    rw [renews] at effect
    cases call <;> cases result <;> cases effect
    rfl

/-! ### Runs -/

/-- **The sessions that are there after a run,** as they are read. -/
structure SessionsAlong (service : Service) (start : State Storage) (calls : List Call) : Prop where
  readable : ∀ sessionId, ∃ found,
    RecordStore.session sessionId (service.after calls start).store = .ok found
  inTime : ∀ sessionId session, (service.after calls start).Holds sessionId session →
    session.sessionId = sessionId ∧
      session.InTime service.sessions.lifetime (service.after calls start).now
  /-- A session that was there earlier is the same one. -/
  continues : ∀ earlier later, calls = earlier ++ later → ∀ sessionId before after,
    (service.after earlier start).Holds sessionId before →
      (service.after calls start).Holds sessionId after → before.Continues after
  /-- One that had expired has expired. -/
  expired : ∀ earlier later, calls = earlier ++ later → ∀ sessionId before after,
    (service.after earlier start).Holds sessionId before →
      (service.after calls start).Holds sessionId after →
        before.hasExpired (service.after earlier start).now = true →
          after.hasExpired (service.after calls start).now = true
  /-- The last call changes what it may. -/
  changed : ∀ earlier call, calls = earlier ++ [call] → ∀ sessionId before after,
    (service.after earlier start).Holds sessionId before →
      (service.after calls start).Holds sessionId after → before.ChangedBy after call

/-- A run from records without sessions, in which time does not go back and no two sessions are
opened with one id. -/
structure Orderly (service : Service) (start : State Storage) (calls : List Call)
    (resolution : Resolution) (records : MemoryStore) : Prop where
  keeps : start.store.Keeps resolution records
  vacant : ∀ sessionId, records.sessions.get? sessionId = none
  plain : start.now.isLeap = false
  timely : Timely start.now calls
  distinct : DistinctSessions service start calls

section Runs

variable {service : Service} {resolution : Resolution} {records kept : MemoryStore}
  {start : State Storage} {calls earlier later : List Call} {sessionId : String}
  {before after : Session}

theorem Timely.of_append {now : Instant} (timely : Timely now (earlier ++ later)) :
    Timely now earlier := by
  induction earlier generalizing now with
  | nil => trivial
  | cons call rest ih => exact ⟨timely.1, timely.2.1, ih timely.2.2⟩

theorem Timely.rest (timely : Timely start.now (earlier ++ later)) :
    Timely (service.after earlier start).now later := by
  induction earlier generalizing start with
  | nil => exact timely
  | cons call rest ih =>
    refine ih ?_
    rw [service.perform_now]
    exact timely.2.2

namespace Orderly

theorem of_append (orderly : Orderly service start (earlier ++ later) resolution records) :
    Orderly service start earlier resolution records :=
  { orderly with
    timely := orderly.timely.of_append
    distinct := orderly.distinct.of_prefix (List.prefix_append _ _) }

/-- All sessions that are kept are in their time. -/
theorem inTime (orderly : Orderly service start calls resolution records)
    (evolution : Evolution service.sessions resolution (service.sessionEvents calls start)
      records.sessions kept.sessions) (sessionId : String) (held : Session)
    (found : kept.sessions.get? sessionId = some held) :
    held.InTime service.sessions.lifetime (service.after calls start).now := by
  have order := (service.inOrder_sessionEvents orderly.plain orderly.timely).1
  refine evolution.inTime order (fun other _ was => ?_) sessionId held found
  rw [orderly.vacant other] at was
  cases was

theorem distinct_append (orderly : Orderly service start (earlier ++ later) resolution records) :
    (opened (service.sessionEvents earlier start ++
      service.sessionEvents later (service.after earlier start))).Nodup := by
  have distinct := orderly.distinct
  rwa [DistinctSessions, ← service.opened_sessionEvents, service.sessionEvents_append] at distinct

/-- **What was read earlier has evolved** into what is read now. -/
structure Since (service : Service) (resolution : Resolution) (between : State Storage)
    (later : List Call) (sessionId : String) (first last : Dictionary Session)
    (held current : Session) : Prop where
  evolution : Evolution service.sessions resolution (service.sessionEvents later between) first last
  order : InOrder between.now (service.after later between).now
    (service.sessionEvents later between)
  unopened : sessionId ∉ opened (service.sessionEvents later between)
  found : first.get? sessionId = some held
  left : last.get? sessionId = some current
  inTime : held.InTime service.sessions.lifetime between.now
  inTimeNow : current.InTime service.sessions.lifetime (service.after later between).now

theorem since (orderly : Orderly service start (earlier ++ later) resolution records)
    (was : (service.after earlier start).Holds sessionId before)
    (is : (service.after (earlier ++ later) start).Holds sessionId after) :
    ∃ first last held current,
      Since service resolution (service.after earlier start) later sessionId first last held
        current ∧ held.floor resolution = before ∧ current.floor resolution = after := by
  obtain ⟨first, keepsFirst, begins⟩ := service.evolution orderly.keeps earlier
  have inTime := orderly.of_append.inTime begins
  obtain ⟨held, found, rfl⟩ := (State.holds_iff keepsFirst inTime).mp was
  obtain ⟨last, keepsLast, goesOn⟩ := service.evolution keepsFirst later
  have order := (service.inOrder_sessionEvents
    (service.inOrder_sessionEvents orderly.plain orderly.timely.of_append).2
    orderly.timely.rest).1
  have inTimeNow := goesOn.inTime order inTime
  rw [after_append] at is
  obtain ⟨current, left, rfl⟩ := (State.holds_iff keepsLast inTimeNow).mp is
  have unopened := begins.not_mem_opened orderly.vacant orderly.distinct_append found
  exact ⟨first.sessions, last.sessions, held, current,
    ⟨goesOn, order, unopened, found, left, inTime _ _ found, inTimeNow _ _ left⟩, rfl, rfl⟩

theorem Since.continues {between : State Storage} {first last : Dictionary Session}
    {held current : Session}
    (since : Since service resolution between later sessionId first last held current) :
    (held.floor resolution).Continues (current.floor resolution) := by
  obtain ⟨goesOn, _⟩ :=
    since.evolution.continues since.order since.unopened since.found since.inTime since.left
  refine ⟨goesOn.sessionId, goesOn.deviceId, congrArg resolution.floor goesOn.createdAt, ?_⟩
  exact Resolution.floor_mono since.inTime.plain.expiresAt since.inTimeNow.plain.expiresAt
    goesOn.expiresAt

theorem Since.expired {between : State Storage} {first last : Dictionary Session}
    {held current : Session}
    (since : Since service resolution between later sessionId first last held current)
    (expired : (held.floor resolution).hasExpired between.now = true) :
    (current.floor resolution).hasExpired (service.after later between).now = true := by
  obtain ⟨_, ended⟩ :=
    since.evolution.continues since.order since.unopened since.found since.inTime since.left
  have same : (current.floor resolution).expiresAt = (held.floor resolution).expiresAt :=
    congrArg resolution.floor (ended expired)
  rw [Session.hasExpired, ← same] at expired
  exact Session.hasExpired_mono since.order.le expired

end Orderly

end Runs

/-- **Sessions along a run of a service:** whoever calls it, in whatever order, over storages of
either kind that start without sessions. -/
theorem sessions_along {checker : ProofChecker} {settings : AuthSettings}
    {given : Option TokenSecret} {material : Bytes} {service : Service}
    (built : Service.ofSettings checker settings given material = .ok service)
    {start : State Storage} (written : start.store.Written)
    (vacant : ∀ sessionId, RecordStore.session sessionId start.store = .ok none)
    (plain : start.now.isLeap = false) {calls : List Call} (timely : Timely start.now calls)
    (distinct : DistinctSessions service start calls) : SessionsAlong service start calls := by
  obtain ⟨resolution, records, keeps⟩ := written.keeps
  have none : ∀ sessionId, records.sessions.get? sessionId = none := fun sessionId =>
    keeps.get?_of_session (vacant sessionId)
  have orderly : Orderly service start calls resolution records :=
    ⟨keeps, none, plain, timely, distinct⟩
  have divides : resolution.Divides service.sessions.lifetime := fun _ =>
    (Service.isExact_ofSettings built).sessions
  obtain ⟨kept, keepsKept, evolution⟩ := service.evolution keeps calls
  have inTime := orderly.inTime evolution
  refine ⟨fun sessionId => ?_, fun sessionId session is => ?_, ?_, ?_, ?_⟩
  · exact ⟨_, keepsKept.session_floor (fun id held found => (inTime id held found).plain) sessionId⟩
  · obtain ⟨held, found, rfl⟩ := (State.holds_iff keepsKept inTime).mp is
    have named : held.sessionId = sessionId :=
      keepsKept.tidy.sessions.keyed _ _ (Dictionary.mem_of_get? found)
    exact ⟨named, (inTime sessionId held found).floor divides⟩
  · rintro earlier later rfl sessionId before after was is
    obtain ⟨_, _, held, current, since, rfl, rfl⟩ := orderly.since was is
    exact since.continues
  · rintro earlier later rfl sessionId before after was is expired
    obtain ⟨_, _, held, current, since, rfl, rfl⟩ := orderly.since was is
    rw [after_append]
    exact since.expired expired
  · rintro earlier call rfl sessionId before after was is
    obtain ⟨first, last, held, current, since, rfl, rfl⟩ := orderly.since was is
    cases since.evolution with
    | cons _ evolves rest =>
      cases rest
      have evolved := evolves sessionId
      rw [since.found, since.left] at evolved
      exact evolved.changedBy (not_mem_opened_cons.mp since.unopened).1

/-! A session is opened and expires. -/

namespace Sample

/-- A device redeems a challenge, and the session that it gets is left alone. -/
def lapsing : List Call := [
  .enroll device,
  .issueChallenge "challenge" (.ofNat 2) "device",
  .submitProof "session" "device" "challenge" [1] (values 2),
  .setClock afterwards]

end Sample

open Sample in
theorem sessions_along_lapsing :
    (RecordStore.session "session" (configured.after lapsing vacant).store).toOption.join.isSome ∧
      SessionsAlong configured vacant lapsing := by
  have built : Service.ofSettings ⟨"accept-all", acceptNonempty⟩ settings (some (.configured []))
      [] = .ok configured := rfl
  have written : vacant.store.Written := .vacant trivial (.inl rfl)
  refine ⟨by decide +kernel, sessions_along built written (fun _ => rfl) (by decide) ?_ ?_⟩
  · exact ⟨by decide, by decide, by decide, by decide, by decide, by decide, by decide, by decide,
      trivial⟩
  · unfold DistinctSessions
    decide +kernel

end DeviceAuth
