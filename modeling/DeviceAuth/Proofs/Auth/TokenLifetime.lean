import DeviceAuth.Proofs.Auth.Evolution
import DeviceAuth.Proofs.Auth.Expiry
import DeviceAuth.Proofs.Auth.Token

/-!
**How long a token is accepted.** A token says when it expires in whole seconds, and the record of
its session says when the session does, in nanoseconds or in milliseconds. Along a run of the
operations on sessions the two never contradict each other: what was rounded down in the token is at
most a second early, and only a token that has been replaced can meet a record that lasts longer.
-/

namespace DeviceAuth

open Operation SessionEvent

/-! ### Runs of the operations on sessions -/

/-- An operation on sessions. -/
inductive SessionCall where
  | create (sessionId deviceId : String)
  | accept (token : String)
  | extend (token : String)
  | close (sessionId : String)
  | dropExpired
  | liveNow

/-- What it gives. -/
abbrev SessionCall.Result : SessionCall → Type
  | create _ _ => Session
  | accept _ => TokenClaims
  | extend _ => Session
  | close _ => Unit
  | dropExpired => Nat
  | liveNow => List String

/-- The session that is handed out with a new token, if one is. -/
def SessionCall.issued? : (call : SessionCall) → Except Failure call.Result → Option Session
  | create _ _, result | extend _, result => result.toOption
  | _, _ => none

/-- An operation at an instant. -/
structure TimedCall where
  now : Instant
  call : SessionCall

namespace SessionPolicy

variable {σ : Type} [RecordStore σ] (policy : SessionPolicy)

/-- The operation that is called. -/
def operation : (call : SessionCall) → Operation call.Result
  | .create sessionId deviceId => policy.create sessionId deviceId
  | .accept token => policy.accept token
  | .extend token => policy.extend token
  | .close sessionId => close sessionId
  | .dropExpired => do dropSessions (← Operation.now)
  | .liveNow => liveNow

/-- Performs an operation at its instant. -/
def perform (timed : TimedCall) (state : State σ) :
    Except Failure timed.call.Result × State σ :=
  (policy.operation timed.call).run { state with now := timed.now }

/-- The session that is handed out by an operation in a state. -/
def issued? (timed : TimedCall) (state : State σ) : Option Session :=
  timed.call.issued? (policy.perform timed state).1

/-- The state after operations. -/
def after : List TimedCall → State σ → State σ
  | [], state => state
  | timed :: rest, state => after rest (policy.perform timed state).2

/-- What an operation does to sessions, as its result shows. -/
def effect (timed : TimedCall) (state : State σ) : SessionEffect :=
  match timed.call, (policy.perform timed state).1 with
  | .create _ _, result => .ofResult .opens result
  | .accept _, result => .ofResult (fun claims => .uses claims.sessionId) result
  | .extend _, result => .ofResult .renews result
  | _, _ => .removes

/-- What the operations of a run do to sessions. -/
def events : List TimedCall → State σ → List SessionEvent
  | [], _ => []
  | timed :: rest, state =>
    ⟨timed.now, policy.effect timed state⟩ :: events rest (policy.perform timed state).2

theorem after_append (first second : List TimedCall) (state : State σ) :
    policy.after (first ++ second) state = policy.after second (policy.after first state) := by
  induction first generalizing state with
  | nil => rfl
  | cons timed rest ih => exact ih _

theorem events_append (first second : List TimedCall) (state : State σ) :
    policy.events (first ++ second) state =
      policy.events first state ++ policy.events second (policy.after first state) := by
  induction first generalizing state with
  | nil => rfl
  | cons timed rest ih => exact congrArg (_ :: ·) (ih _)

variable {resolution : Resolution} {records : MemoryStore} {state : State Storage}

theorem perform_evolves (keeps : state.store.Keeps resolution records) (timed : TimedCall) :
    (policy.perform timed state).2.Evolved policy resolution records timed.now
      (policy.effect timed state) := by
  obtain ⟨now, call⟩ := timed
  have keepsNow : State.store { state with now } |>.Keeps resolution records := keeps
  cases call with
  | create sessionId deviceId => exact policy.create_evolves sessionId deviceId keepsNow
  | accept token => exact policy.accept_evolves token keepsNow
  | extend token => exact policy.extend_evolves token keepsNow
  | close sessionId => exact (onlyRemoves_close sessionId).evolved keepsNow
  | dropExpired =>
    have only : Only Request.OnlyRemoves (do dropSessions (← Operation.now)) :=
      .bind (.request .now _ trivial) fun moment => .request (.dropSessions moment) _ trivial
    exact only.evolved keepsNow
  | liveNow =>
    have only : Only Request.OnlyRemoves liveNow :=
      .bind (.request .now _ trivial) fun moment => .request (.liveDevices moment) _ trivial
    exact only.evolved keepsNow

theorem evolution (keeps : state.store.Keeps resolution records) (calls : List TimedCall) :
    ∃ kept, (policy.after calls state).store.Keeps resolution kept ∧
      Evolution policy resolution (policy.events calls state) records.sessions kept.sessions := by
  induction calls generalizing state records with
  | nil => exact ⟨records, keeps, .nil _⟩
  | cons timed rest ih =>
    obtain ⟨between, keepsNow, evolves⟩ := policy.perform_evolves keeps timed
    obtain ⟨kept, keepsAfter, goesOn⟩ := ih keepsNow
    exact ⟨kept, keepsAfter, .cons _ evolves goesOn⟩

end SessionPolicy

/-! ### Handing out a token -/

/-- The session that an effect hands out with a new token. -/
def SessionEffect.issued? : SessionEffect → Option Session
  | opens session | renews session => some session
  | _ => none

theorem SessionPolicy.issued?_effect {σ : Type} [RecordStore σ] (policy : SessionPolicy)
    (timed : TimedCall) (state : State σ) :
    (policy.effect timed state).issued? = policy.issued? timed state := by
  obtain ⟨now, call⟩ := timed
  unfold issued? effect
  cases call with
  | create _ _ | extend _ =>
    simp only [SessionCall.issued?]
    rcases (policy.perform _ state).1 with _ | _ <;> rfl
  | accept _ =>
    simp only [SessionCall.issued?]
    rcases (policy.perform _ state).1 with _ | _ <;> rfl
  | _ => rfl

/-- **What is handed out with a token is kept** for the same device and with the same end. -/
theorem Evolves.issued {policy : SessionPolicy} {resolution : Resolution} {now : Instant}
    {effect : SessionEffect} {issued : Session} {before after : Option Session}
    (evolves : Evolves policy resolution now effect issued.sessionId before after)
    (shows : effect.issued? = some issued) :
    policy.Issues now issued ∧ ∃ held, after = some held ∧ held.deviceId = issued.deviceId ∧
      held.expiresAt = issued.expiresAt := by
  cases evolves with
  | stays _ other =>
    cases effect <;> cases shows
    · exact absurd rfl other
    · exact absurd rfl other
  | removed _ removes =>
    rw [removes] at shows
    cases shows
  | opened _ session opens _ issues _ =>
    rw [opens] at shows
    cases shows
    exact ⟨issues, _, rfl, rfl, rfl⟩
  | used _ uses =>
    rw [uses] at shows
    cases shows
  | renewed _ _ session renews _ owned issues =>
    rw [renews] at shows
    cases shows
    exact ⟨issues, _, rfl, owned.symm, rfl⟩

/-! ### What the claims come to -/

/-- The seconds of an instant are a signed word. -/
theorem Instant.toInt_ofInt_seconds (instant : Instant) :
    (Int64.ofInt instant.seconds).toInt = instant.seconds := by
  have earliest := instant.seconds_ge
  have latest := instant.seconds_le
  rw [earliestSecond] at earliest
  rw [latestSecond] at latest
  exact Int64.toInt_ofInt_of_le (by omega) (by omega)

/-- Claims are in their time until the second in which they expire. -/
theorem TokenClaims.checkPeriod_make {deviceId sessionId : String} {issuedAt expiresAt now : Instant}
    (le : issuedAt ≤ now) : (make deviceId sessionId issuedAt expiresAt).checkPeriod now =
      if expiresAt.seconds < now.seconds then .error (.invalidToken "token expired")
      else .ok () := by
  have begun : ¬ now.seconds < issuedAt.seconds := Int.not_lt.mpr (Instant.seconds_mono le)
  simp only [checkPeriod, make, Instant.toInt_ofInt_seconds, if_neg begun]

/-- **What comes of a token** that was handed out with a session, in a state at an instant: the
record of the session is looked at first, then when it ends, and then when the token expires. -/
inductive TokenVerdict (issued : Session) (state : State Storage) (now : Instant) :
    Except Failure TokenClaims → Prop
  | notFound : RecordStore.session issued.sessionId state.store = .ok none →
      TokenVerdict issued state now (.error (.refused (.sessionNotFound issued.sessionId)))
  | sessionExpired (held : Session) : state.Holds issued.sessionId held → held.expiresAt < now →
      TokenVerdict issued state now (.error (.refused (.sessionExpired issued.sessionId)))
  | tokenExpired (held : Session) : state.Holds issued.sessionId held → now ≤ held.expiresAt →
      issued.expiresAt.seconds < now.seconds →
      TokenVerdict issued state now (.error (.refused (.invalidToken "token expired")))
  | accepted (held : Session) (claims : TokenClaims) : state.Holds issued.sessionId held →
      now ≤ held.expiresAt → now.seconds ≤ issued.expiresAt.seconds →
      claims.sessionId = issued.sessionId → claims.deviceId = issued.deviceId →
      TokenVerdict issued state now (.ok claims)

section Lifetime

variable {policy : SessionPolicy} {resolution : Resolution} {records : MemoryStore}
  {start state : State Storage} {issued held : Session} {issuedAt now : Instant}
  {result : Except Failure TokenClaims}

/-- A token is accepted exactly while its session is stored and neither of the two has expired. -/
theorem TokenVerdict.accepted_iff (verdict : TokenVerdict issued state now result) :
    (∃ claims, result = .ok claims) ↔ ∃ held, state.Holds issued.sessionId held ∧
      now ≤ held.expiresAt ∧ now.seconds ≤ issued.expiresAt.seconds := by
  -- What is read of a store is read once.
  have unique : ∀ {first second : Option Session},
      RecordStore.session issued.sessionId state.store = .ok first →
        RecordStore.session issued.sessionId state.store = .ok second → first = second :=
    fun one other => Except.ok.inj (one.symm.trans other)
  cases verdict with
  | notFound absent =>
    refine ⟨nofun, fun ⟨held, holds, _⟩ => ?_⟩
    cases unique absent holds
  | sessionExpired held holds past =>
    refine ⟨nofun, fun ⟨other, holdsToo, current, _⟩ => ?_⟩
    cases unique holds holdsToo
    exact absurd past (Instant.not_lt.mpr current)
  | tokenExpired held holds _ past =>
    refine ⟨nofun, fun ⟨_, _, _, current⟩ => ?_⟩
    exact absurd past (Int.not_lt.mpr current)
  | accepted held claims holds current valid _ _ =>
    exact ⟨fun _ => ⟨held, holds, current, valid⟩, fun _ => ⟨claims, rfl⟩⟩

/-- What claims come to with the session that they were made for. -/
theorem TokenClaims.judge_make (le : issuedAt ≤ now) (named : held.sessionId = issued.sessionId)
    (owned : held.deviceId = issued.deviceId) :
    (make issued.deviceId issued.sessionId issuedAt issued.expiresAt).judge now (some held) =
      if held.expiresAt < now then .error (.sessionExpired issued.sessionId)
      else if issued.expiresAt.seconds < now.seconds then .error (.invalidToken "token expired")
      else .ok held := by
  have device : ¬ held.deviceId ≠
      (make issued.deviceId issued.sessionId issuedAt issued.expiresAt).deviceId :=
    not_not.mpr owned
  simp only [judge, Session.hasExpired, decide_eq_true_eq, named, if_neg device,
    checkPeriod_make le]
  split
  · rfl
  · split <;> rfl

/-- A token whose session, if it is stored, is the one that it was handed out with. -/
theorem TokenVerdict.of_issues (keeps : state.store.Keeps resolution records)
    (issues : policy.Issues issuedAt issued) (le : issuedAt ≤ now) {found : Option Session}
    (stored : RecordStore.session issued.sessionId state.store = .ok found)
    (same : ∀ held, found = some held →
      held.sessionId = issued.sessionId ∧ held.deviceId = issued.deviceId) :
    TokenVerdict issued state now (policy.perform ⟨now, .accept issued.token⟩ state).1 := by
  have verified : policy.tokenKey.verify issued.token = .ok (.make issued.deviceId
      issued.sessionId issuedAt issued.expiresAt) := by
    rw [issues.token]
    exact TokenKey.verify_sign _ _
  have keepsNow : State.store { state with now } |>.Keeps resolution records := keeps
  have result : (policy.perform ⟨now, .accept issued.token⟩ state).1 = _ :=
    SessionPolicy.accept_of_verify keepsNow verified stored
  rw [result]
  rcases found with _ | held
  · exact .notFound stored
  obtain ⟨named, owned⟩ := same held rfl
  rw [TokenClaims.judge_make le named owned]
  split
  · next past => exact .sessionExpired held stored past
  next current =>
  split
  · next past => exact .tokenExpired held stored (Instant.not_lt.mp current) past
  · next valid =>
    exact .accepted held _ stored (Instant.not_lt.mp current) (Int.not_lt.mp valid) rfl rfl

/-! ### Along a run -/

/-- **The lifetime of a token** that was handed out with a session, after further events. -/
structure TokenLifetime (policy : SessionPolicy) (issued : Session) (since : List SessionEvent)
    (state : State Storage) (now : Instant) : Prop where
  /-- Why it is refused, if it is, and what it says otherwise. -/
  verdict : TokenVerdict issued state now (policy.perform ⟨now, .accept issued.token⟩ state).1
  accepted : (∃ claims, (policy.perform ⟨now, .accept issued.token⟩ state).1 = .ok claims) ↔
    ∃ held, state.Holds issued.sessionId held ∧ now ≤ held.expiresAt ∧
      now.seconds ≤ issued.expiresAt.seconds
  /-- The newest token of a session is accepted for as long as the session lasts. -/
  newest : (∀ event ∈ since, ∀ renewal, event.effect = .renews renewal →
      renewal.sessionId ≠ issued.sessionId) →
    ∀ held, state.Holds issued.sessionId held → now ≤ held.expiresAt →
      ∃ claims, (policy.perform ⟨now, .accept issued.token⟩ state).1 = .ok claims

/-- **The exact lifetime of every token** that is handed out along a run of the operations on
sessions, over storages of either kind that start without sessions. -/
theorem token_lifetime (policy : SessionPolicy) (written : start.store.Written)
    (vacant : ∀ sessionId, RecordStore.session sessionId start.store = .ok none)
    {earlier later : List TimedCall} {timed : TimedCall}
    (order : InOrder start.now now (policy.events (earlier ++ timed :: later) start))
    (distinct : (opened (policy.events (earlier ++ timed :: later) start)).Nodup)
    (handedOut : policy.issued? timed (policy.after earlier start) = some issued) :
    TokenLifetime policy issued (policy.events later (policy.after (earlier ++ [timed]) start))
      (policy.after (earlier ++ timed :: later) start) now := by
  obtain ⟨resolution, records, keeps⟩ := written.keeps
  have none : ∀ sessionId, records.sessions.get? sessionId = none := fun sessionId =>
    keeps.get?_of_session (vacant sessionId)
  obtain ⟨first, keepsFirst, begins⟩ := policy.evolution keeps earlier
  obtain ⟨second, keepsSecond, evolves⟩ := policy.perform_evolves keepsFirst timed
  obtain ⟨third, keepsThird, goesOn⟩ := policy.evolution keepsSecond later
  rw [policy.events_append] at order distinct
  obtain ⟨orderFirst, plainThen, orderLater⟩ := order.split
  have inTimeFirst := begins.inTime orderFirst fun sessionId held found => by
    rw [none sessionId] at found
    cases found
  have inTimeSecond : ∀ sessionId held, second.sessions.get? sessionId = some held →
      held.InTime policy.lifetime timed.now := fun sessionId held found => by
    have evolved := evolves sessionId
    rw [found] at evolved
    exact evolved.inTime plainThen (inTimeFirst sessionId)
  have inTimeThird := goesOn.inTime orderLater inTimeSecond
  have plainThird := fun sessionId held found => (inTimeThird sessionId held found).plain
  rw [← policy.issued?_effect] at handedOut
  obtain ⟨issues, held, found, owned, ends⟩ := (evolves issued.sessionId).issued handedOut
  have begun := begins.append (.cons ⟨timed.now, _⟩ evolves (.nil _))
  have unopened := begun.not_mem_opened none (by rwa [List.append_assoc]) found
  have stored := keepsThird.session_floor plainThird issued.sessionId
  rw [policy.after_append, policy.after_append]
  have verdict : TokenVerdict issued (policy.after later (policy.perform timed
      (policy.after earlier start)).2) now (policy.perform ⟨now, .accept issued.token⟩
        (policy.after later (policy.perform timed (policy.after earlier start)).2)).1 := by
    refine .of_issues keepsThird issues orderLater.le stored fun session is => ?_
    obtain ⟨current, left, rfl⟩ := Option.map_eq_some_iff.mp is
    have named : current.sessionId = issued.sessionId :=
      keepsThird.tidy.sessions.keyed _ _ (Dictionary.mem_of_get? left)
    have same := (goesOn.continues orderLater unopened found (inTimeSecond _ _ found) left).1
    exact ⟨named, same.deviceId.trans owned⟩
  refine ⟨verdict, verdict.accepted_iff, fun unrenewed session holds current => ?_⟩
  obtain ⟨kept, left, rfl⟩ := (State.holds_iff keepsThird inTimeThird).mp holds
  refine verdict.accepted_iff.mpr ⟨_, holds, current, ?_⟩
  -- The record ends with the second of the token, or earlier.
  have same := goesOn.unrenewed unopened unrenewed found left
  have seconds := Instant.seconds_mono current
  rwa [Session.floor, resolution.seconds_floor, same, ends] at seconds

end Lifetime

/-! A token is accepted half a millisecond after it was handed out. -/

namespace Sample

/-- One second after the beginning of 1970. -/
def nextSecond : Instant :=
  (epoch.add? second).getD epoch

/-- A session that lasts for the first second of 1970. -/
def handed : Session where
  sessionId := "session"
  deviceId := "device"
  token := service.sessions.tokenFor "device" "session" epoch nextSecond
  createdAt := epoch
  expiresAt := nextSecond
  lastUsedAt := epoch

end Sample

open Sample in
theorem token_lifetime_halfway :
    TokenLifetime service.sessions handed []
        (service.sessions.after [⟨epoch, .create "session" "device"⟩] vacant) halfway ∧
      ∃ claims, (service.sessions.perform ⟨halfway, .accept handed.token⟩
        (service.sessions.after [⟨epoch, .create "session" "device"⟩] vacant)).1 = .ok claims := by
  have written : vacant.store.Written := .vacant trivial (.inl rfl)
  have order : InOrder vacant.now halfway
      (service.sessions.events ([] ++ ⟨epoch, .create "session" "device"⟩ :: []) vacant) :=
    ⟨Instant.le_refl epoch, rfl, (by decide : epoch ≤ halfway)⟩
  have lifetime := token_lifetime service.sessions written (fun _ => rfl) order (by decide +kernel)
    (rfl : _ = some handed)
  exact ⟨lifetime, lifetime.newest (fun _ inside => by cases inside) handed rfl (by decide)⟩

end DeviceAuth
