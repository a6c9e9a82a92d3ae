import DeviceAuth.Proofs.Auth.Sessions

/-!
**Sessions from one operation to the next.** `Evolution` strings together what operations make of
the sessions. An id under which nothing is kept stays empty until a session is opened with it
(`Evolution.empty`), and a session is the same one until then (`Evolution.continues`).

What every kept session satisfies is that it is `InTime`: it was opened before it was last used, and
it ends between a lifetime after the former and a lifetime after the latter. So a session that is
renewed never ends earlier than before.
-/

namespace DeviceAuth

open Operation

/-- The effect of an operation, and when it had it. -/
structure SessionEvent where
  now : Instant
  effect : SessionEffect

/-- The id of the session that an effect opens. -/
def SessionEffect.opened? : SessionEffect → Option String
  | opens session => some session.sessionId
  | _ => none

namespace SessionEvent

/-- The ids of the sessions that are opened. -/
def opened (events : List SessionEvent) : List String :=
  events.filterMap fun event => event.effect.opened?

theorem not_mem_opened_cons {sessionId : String} {event : SessionEvent}
    {rest : List SessionEvent} : sessionId ∉ opened (event :: rest) ↔
      event.effect.opened? ≠ some sessionId ∧ sessionId ∉ opened rest := by
  rw [opened, List.filterMap_cons]
  rcases event.effect.opened? with _ | other
  · simp [opened]
  · simp [opened, eq_comm]

/-- Time does not go back, from one instant over events to another, and is in no leap second. -/
def InOrder (first last : Instant) : List SessionEvent → Prop
  | [] => first ≤ last
  | event :: rest => first ≤ event.now ∧ event.now.isLeap = false ∧ InOrder event.now last rest

theorem InOrder.of_le {first second last : Instant} {events : List SessionEvent}
    (le : first ≤ second) (order : InOrder second last events) : InOrder first last events := by
  cases events with
  | nil => exact Instant.le_trans le order
  | cons event rest => exact ⟨Instant.le_trans le order.1, order.2⟩

theorem InOrder.le {first last : Instant} {events : List SessionEvent}
    (order : InOrder first last events) : first ≤ last := by
  induction events generalizing first with
  | nil => exact order
  | cons event rest ih => exact Instant.le_trans order.1 (ih order.2.2)

/-- Events in order are in order before and after each of them. -/
theorem InOrder.split {first last : Instant} {earlier later : List SessionEvent}
    {event : SessionEvent} (order : InOrder first last (earlier ++ event :: later)) :
    InOrder first event.now earlier ∧ event.now.isLeap = false ∧
      InOrder event.now last later := by
  induction earlier generalizing first with
  | nil => exact order
  | cons other rest ih =>
    obtain ⟨begins, goesOn⟩ := ih order.2.2
    exact ⟨⟨order.1, order.2.1, begins⟩, goesOn⟩

end SessionEvent

open SessionEvent

/-- **What becomes of all sessions,** event after event. -/
inductive Evolution (policy : SessionPolicy) (resolution : Resolution) :
    List SessionEvent → (before after : Dictionary Session) → Prop
  | nil (sessions : Dictionary Session) : Evolution policy resolution [] sessions sessions
  | cons (event : SessionEvent) {rest : List SessionEvent}
      {before between after : Dictionary Session} :
      (∀ sessionId, Evolves policy resolution event.now event.effect sessionId
        (before.get? sessionId) (between.get? sessionId)) →
      Evolution policy resolution rest between after →
      Evolution policy resolution (event :: rest) before after

variable {policy : SessionPolicy} {resolution : Resolution} {events : List SessionEvent}
  {before after : Dictionary Session} {sessionId : String} {held session : Session}
  {now later : Instant} {effect : SessionEffect}

/-! ### Which sessions there are -/

/-- Only opening a session fills an empty id. -/
theorem Evolves.empty {result : Option Session}
    (evolves : Evolves policy resolution now effect sessionId none result)
    (unopened : effect.opened? ≠ some sessionId) : result = none := by
  cases evolves with
  | stays _ _ => rfl
  | opened _ session effect named =>
    rw [effect, SessionEffect.opened?, named] at unopened
    exact absurd rfl unopened

/-- **An id stays empty** until a session is opened with it. -/
theorem Evolution.empty (evolution : Evolution policy resolution events before after)
    (absent : before.get? sessionId = none) (unopened : sessionId ∉ opened events) :
    after.get? sessionId = none := by
  induction evolution with
  | nil _ => exact absent
  | @cons event rest before between after evolves _ ih =>
    obtain ⟨other, unopenedYet⟩ := not_mem_opened_cons.mp unopened
    have stays := evolves sessionId
    rw [absent] at stays
    exact ih (stays.empty other) unopenedYet

theorem Evolution.append {first second : List SessionEvent} {between : Dictionary Session}
    (begins : Evolution policy resolution first before between)
    (goesOn : Evolution policy resolution second between after) :
    Evolution policy resolution (first ++ second) before after := by
  induction begins with
  | nil _ => exact goesOn
  | cons event evolves _ ih => exact .cons event evolves (ih goesOn)

/-- A session that is there was opened, and none is opened with its id again. -/
theorem Evolution.not_mem_opened (evolution : Evolution policy resolution events before after)
    (vacant : ∀ sessionId, before.get? sessionId = none) {further : List SessionEvent}
    (distinct : (opened (events ++ further)).Nodup) (found : after.get? sessionId = some held) :
    sessionId ∉ opened further := by
  rw [opened, List.filterMap_append, List.nodup_append] at distinct
  intro again
  by_cases already : sessionId ∈ opened events
  · exact distinct.2.2 _ already _ again rfl
  · rw [evolution.empty (vacant sessionId) already] at found
    cases found

/-! ### What holds of every session -/

/-- **A session in its time:** with a lifetime, at an instant. -/
structure Session.InTime (lifetime : Duration) (now : Instant) (session : Session) : Prop where
  plain : session.IsPlain
  created_le : session.createdAt ≤ session.lastUsedAt
  used_le : session.lastUsedAt ≤ now
  /-- It lasts for a lifetime at least. -/
  lasts : session.createdAt.unixNanos + lifetime.nanos ≤ session.expiresAt.unixNanos
  /-- It ends at the latest a lifetime after its last use. -/
  ends : session.expiresAt.unixNanos ≤ session.lastUsedAt.unixNanos + lifetime.nanos

theorem Session.InTime.mono {lifetime : Duration} (inTime : session.InTime lifetime now)
    (le : now ≤ later) : session.InTime lifetime later :=
  { inTime with used_le := Instant.le_trans inTime.used_le le }

/-- What is read back of a session in its time is in its time. -/
theorem Session.InTime.floor {lifetime : Duration} (inTime : session.InTime lifetime now)
    (divides : resolution.Divides lifetime) :
    (session.floor resolution).InTime lifetime now := by
  obtain ⟨plain, created_le, used_le, lasts, ends⟩ := inTime
  refine ⟨⟨resolution.plain_floor plain.createdAt, resolution.plain_floor plain.expiresAt,
    resolution.plain_floor plain.lastUsedAt⟩, ?_, ?_, ?_, ?_⟩
  · exact Resolution.floor_mono plain.createdAt plain.lastUsedAt created_le
  · exact Instant.le_trans (Resolution.floor_le plain.lastUsedAt) used_le
  · cases resolution
    · exact lasts
    · have units := divides rfl
      simp only [Session.floor, Resolution.floor, Instant.unixNanos_floorMillis]
      omega
  · cases resolution
    · exact ends
    · have units := divides rfl
      simp only [Session.floor, Resolution.floor, Instant.unixNanos_floorMillis]
      omega

/-- What is read from records in their time. -/
theorem State.holds_iff {lifetime : Duration} {state : State Storage} {kept : MemoryStore}
    (keeps : state.store.Keeps resolution kept)
    (inTime : ∀ sessionId held, kept.sessions.get? sessionId = some held →
      held.InTime lifetime now) :
    state.Holds sessionId session ↔ ∃ held, kept.sessions.get? sessionId = some held ∧
      held.floor resolution = session := by
  rw [Holds, keeps.session_floor fun id held found => (inTime id held found).plain,
    Except.ok.injEq, Option.map_eq_some_iff]

/-- The same session, which does not end earlier than it did. -/
structure Session.Continues (earlier later : Session) : Prop where
  sessionId : later.sessionId = earlier.sessionId
  deviceId : later.deviceId = earlier.deviceId
  createdAt : later.createdAt = earlier.createdAt
  expiresAt : earlier.expiresAt ≤ later.expiresAt

theorem Session.Continues.refl (session : Session) : session.Continues session :=
  ⟨rfl, rfl, rfl, Instant.le_refl _⟩

theorem Session.Continues.trans {first second third : Session} (begins : first.Continues second)
    (goesOn : second.Continues third) : first.Continues third :=
  ⟨goesOn.sessionId.trans begins.sessionId, goesOn.deviceId.trans begins.deviceId,
    goesOn.createdAt.trans begins.createdAt, Instant.le_trans begins.expiresAt goesOn.expiresAt⟩

/-! ### One operation -/

/-- A session that an operation leaves is in its time if it was. -/
theorem Evolves.inTime {found : Option Session} (plain : now.isLeap = false)
    (evolves : Evolves policy resolution now effect sessionId found (some session))
    (before : ∀ held, found = some held → held.InTime policy.lifetime now) :
    session.InTime policy.lifetime now := by
  cases evolves with
  | stays _ _ => exact before session rfl
  | opened _ _ _ _ issued created =>
    have ends := (Instant.add?_eq_some_iff plain).mp issued.expiresAt
    refine ⟨⟨created ▸ plain, ends.1, issued.lastUsedAt ▸ plain⟩, ?_, ?_, ?_, ?_⟩
    · rw [created, issued.lastUsedAt]
      exact Instant.le_refl now
    · rw [issued.lastUsedAt]
      exact Instant.le_refl now
    · rw [created, ends.2]
    · rw [issued.lastUsedAt, ends.2]
  | used held _ =>
    obtain ⟨plainHeld, created_le, used_le, lasts, ends⟩ := before held rfl
    refine ⟨⟨plainHeld.createdAt, plainHeld.expiresAt, plain⟩, ?_, Instant.le_refl now, lasts, ?_⟩
    · exact Instant.le_trans created_le used_le
    · have used := (Instant.le_iff_unixNanos plainHeld.lastUsedAt plain).mp used_le
      show held.expiresAt.unixNanos ≤ now.unixNanos + policy.lifetime.nanos
      omega
  | renewed held _ renewal _ _ _ issued _ _ =>
    obtain ⟨plainHeld, created_le, used_le, lasts, ends⟩ := before held rfl
    have renews := (Instant.add?_eq_some_iff plain).mp issued.expiresAt
    have created := Instant.le_trans created_le used_le
    refine ⟨⟨plainHeld.createdAt, renews.1, plain⟩, created, Instant.le_refl now, ?_, ?_⟩
    · have order := (Instant.le_iff_unixNanos plainHeld.createdAt plain).mp created
      show held.createdAt.unixNanos + policy.lifetime.nanos ≤ renewal.expiresAt.unixNanos
      omega
    · show renewal.expiresAt.unixNanos ≤ now.unixNanos + policy.lifetime.nanos
      omega

/-- A session in its time goes on as the same one, unless another is opened with its id. -/
theorem Evolves.continues (plain : now.isLeap = false)
    (evolves : Evolves policy resolution now effect sessionId (some held) (some session))
    (unopened : effect.opened? ≠ some sessionId) (inTime : held.InTime policy.lifetime now) :
    held.Continues session := by
  cases evolves with
  | stays _ _ => exact .refl held
  | opened _ _ effect named =>
    rw [effect, SessionEffect.opened?, named] at unopened
    exact absurd rfl unopened
  | used _ _ => exact ⟨rfl, rfl, rfl, Instant.le_refl _⟩
  | renewed _ _ renewal _ _ _ issued _ _ =>
    refine ⟨rfl, rfl, rfl, ?_⟩
    have renews := (Instant.add?_eq_some_iff plain).mp issued.expiresAt
    have used := (Instant.le_iff_unixNanos inTime.plain.lastUsedAt plain).mp inTime.used_le
    have ends := inTime.ends
    rw [Instant.le_iff_unixNanos inTime.plain.expiresAt renews.1]
    show held.expiresAt.unixNanos ≤ renewal.expiresAt.unixNanos
    omega

/-- A session that has expired when it is read is not renewed. -/
theorem Evolves.expired (evolves : Evolves policy resolution now effect sessionId (some held)
      (some session)) (unopened : effect.opened? ≠ some sessionId) (plain : held.IsPlain)
    (expired : (held.floor resolution).hasExpired now = true) :
    session.expiresAt = held.expiresAt := by
  cases evolves with
  | stays _ _ => rfl
  | opened _ _ effect named =>
    rw [effect, SessionEffect.opened?, named] at unopened
    exact absurd rfl unopened
  | used _ _ => rfl
  | renewed _ found _ _ _ _ _ read current =>
    rw [resolution.readSession_of_plain plain] at read
    cases read
    rw [expired] at current
    cases current

/-! ### Many operations -/

theorem Session.hasExpired_mono (le : now ≤ later) (expired : session.hasExpired now = true) :
    session.hasExpired later = true := by
  simp only [hasExpired, decide_eq_true_eq, Instant.lt_def, Instant.le_def] at le expired ⊢
  omega

/-- **Every session stays in its time.** -/
theorem Evolution.inTime (evolution : Evolution policy resolution events before after)
    (order : InOrder now later events)
    (all : ∀ sessionId held, before.get? sessionId = some held → held.InTime policy.lifetime now)
    (sessionId : String) (session : Session) (kept : after.get? sessionId = some session) :
    session.InTime policy.lifetime later := by
  induction evolution generalizing now with
  | nil sessions => exact (all sessionId session kept).mono order
  | cons event evolves _ ih =>
    obtain ⟨le, plain, rest⟩ := order
    refine ih rest (fun other held found => ?_) kept
    have evolved := evolves other
    rw [found] at evolved
    exact evolved.inTime plain fun earlier was => (all other earlier was).mono le

/-- A session that is not renewed ends when it did. -/
theorem Evolution.unrenewed (evolution : Evolution policy resolution events before after)
    (unopened : sessionId ∉ opened events)
    (unrenewed : ∀ event ∈ events, ∀ renewal, event.effect = .renews renewal →
      renewal.sessionId ≠ sessionId)
    (found : before.get? sessionId = some held) (kept : after.get? sessionId = some session) :
    session.expiresAt = held.expiresAt := by
  induction evolution generalizing held with
  | nil sessions =>
    rw [found] at kept
    cases kept
    rfl
  | @cons event rest before between after evolves evolution ih =>
    obtain ⟨other, unopenedYet⟩ := not_mem_opened_cons.mp unopened
    have unrenewedYet := fun event inside => unrenewed event (List.mem_cons_of_mem _ inside)
    have evolved := evolves sessionId
    rw [found] at evolved
    generalize middle : between.get? sessionId = result at evolved
    cases evolved with
    | stays _ _ => exact ih unopenedYet unrenewedYet middle kept
    | removed _ _ =>
      rw [evolution.empty middle unopenedYet] at kept
      cases kept
    | opened _ _ effect named =>
      rw [effect, SessionEffect.opened?, named] at other
      exact absurd rfl other
    | used _ _ =>
      have same := ih unopenedYet unrenewedYet middle kept
      exact same
    | renewed _ _ renewal effect named =>
      exact absurd named (unrenewed event List.mem_cons_self renewal effect)

/-- **A session goes on as the same one** for as long as it is kept, and is not renewed once it has
expired. -/
theorem Evolution.continues (evolution : Evolution policy resolution events before after)
    (order : InOrder now later events) (unopened : sessionId ∉ opened events)
    (found : before.get? sessionId = some held) (inTime : held.InTime policy.lifetime now)
    (kept : after.get? sessionId = some session) :
    held.Continues session ∧ ((held.floor resolution).hasExpired now = true →
      session.expiresAt = held.expiresAt) := by
  induction evolution generalizing now held with
  | nil sessions =>
    rw [found] at kept
    cases kept
    exact ⟨.refl _, fun _ => rfl⟩
  | @cons event rest before between after evolves evolution ih =>
    obtain ⟨le, plain, order⟩ := order
    obtain ⟨other, unopenedYet⟩ := not_mem_opened_cons.mp unopened
    have evolved := evolves sessionId
    rw [found] at evolved
    have inTimeNow := inTime.mono le
    rcases middle : between.get? sessionId with _ | current
    · rw [evolution.empty middle unopenedYet] at kept
      cases kept
    rw [middle] at evolved
    have currentInTime := evolved.inTime plain fun _ same => Option.some.inj same ▸ inTimeNow
    obtain ⟨goesOn, ended⟩ := ih order unopenedYet middle currentInTime kept
    refine ⟨(evolved.continues plain other inTimeNow).trans goesOn, fun expired => ?_⟩
    have expiredNow := Session.hasExpired_mono le expired
    have same := evolved.expired other inTime.plain expiredNow
    rw [← same]
    refine ended ?_
    simp only [Session.hasExpired, Session.floor, same] at expiredNow ⊢
    exact expiredNow

end DeviceAuth
