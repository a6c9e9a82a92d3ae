import DeviceAuth.Proofs.Auth.FailureHistory
import DeviceAuth.Proofs.Auth.Stocked
import DeviceAuth.Proofs.Gateway.Answers

/-!
**Two runs side by side.** A view says which devices, challenges and sessions two states are compared
by; what it hides may be there in one state and not in the other. A view is lawful if a hidden
record serves nobody who is seen: it has expired, or it is somebody else's. Then an operation for a
device that is seen ends alike in both states, except that a hidden record is refused for other
reasons than a missing one, and the states stay alike.

* `Dictionary.Agrees`: two collections with the same entries, as far as they are seen.
* `View.Same`: failures that a hidden record can tell apart, and a client cannot
  (`View.Same.refusalOf`).
* `State.Stocked.examine_hidden`, `State.Stocked.recognize_hidden`: hidden records are refused.
* `View.Joins`: two states that are alike in a view. `View.Ends`: how two runs of one operation end.
-/

namespace DeviceAuth

open Operation Storage

/-- **The same entries, as far as they are seen.** If the entries cover the others, no id is missing
from them that the others have. -/
structure Dictionary.Agrees {α : Type} (covers : Prop) (seen : α → Bool)
    (entries others : Dictionary α) : Prop where
  same : ∀ id, (entries.get? id).filter seen = (others.get? id).filter seen
  missing : covers → ∀ id, entries.get? id = none → others.get? id = none

namespace Dictionary.Agrees

variable {α : Type} {covers : Prop} {seen : α → Bool} {entries others third : Dictionary α}
  {id : String}

theorem refl (entries : Dictionary α) : entries.Agrees covers seen entries :=
  ⟨fun _ => rfl, fun _ _ absent => absent⟩

theorem trans (agrees : entries.Agrees covers seen others)
    (goesOn : others.Agrees covers seen third) : entries.Agrees covers seen third :=
  ⟨fun id => (agrees.same id).trans (goesOn.same id),
    fun covers id absent => goesOn.missing covers id (agrees.missing covers id absent)⟩

/-- What is put under one id on both sides is there on both. -/
theorem put (agrees : entries.Agrees covers seen others) (id : String) (value : α) :
    (entries.put id value).Agrees covers seen (others.put id value) where
  same other := by
    simp only [get?_put]
    split
    · rfl
    · exact agrees.same other
  missing covers other absent := by
    simp only [get?_put] at absent ⊢
    split at absent
    · cases absent
    · next own => rw [if_neg own, agrees.missing covers other absent]

/-- An entry that is there on both sides may be changed on both. -/
theorem update (agrees : entries.Agrees covers seen others)
    (same : entries.get? id = others.get? id) (change : α → α) :
    (entries.update id change).Agrees covers seen (others.update id change) where
  same other := by
    simp only [get?_update]
    split
    · next own => rw [own, same]
    · exact agrees.same other
  missing covers other absent := by
    simp only [get?_update] at absent ⊢
    split at absent
    · next own => rwa [if_pos own, own, ← same, ← own]
    · next own => rw [if_neg own, agrees.missing covers other absent]

theorem erase (agrees : entries.Agrees covers seen others) (id : String) :
    (entries.erase id).Agrees covers seen (others.erase id) where
  same other := by
    simp only [get?_erase]
    split
    · rfl
    · exact agrees.same other
  missing covers other absent := by
    simp only [get?_erase] at absent ⊢
    split
    · rfl
    · next own => exact agrees.missing covers other (by rwa [if_neg own] at absent)

/-- The same entries are dropped on both sides. -/
theorem filter (agrees : entries.Agrees covers seen others) (distinct : entries.Distinct)
    (distinctToo : others.Distinct) (keeps : α → Bool) (uncovered : ¬ covers) :
    Dictionary.Agrees covers seen (entries.filter fun entry => keeps entry.2)
      (others.filter fun entry => keeps entry.2) where
  same id := by
    have swap : ∀ found : Option α,
        (found.filter keeps).filter seen = (found.filter seen).filter keeps := by
      intro found
      rcases found with _ | value
      · rfl
      · cases kept : keeps value <;> cases sees : seen value <;> simp [Option.filter, kept, sees]
    rw [distinct.get?_filter, distinctToo.get?_filter, swap, swap, agrees.same id]
  missing covers := absurd covers uncovered

/-- Entries that are not seen are dropped from the others. -/
theorem filter_seen (agrees : entries.Agrees covers seen others) (distinct : others.Distinct) :
    Dictionary.Agrees covers seen entries (others.filter fun entry => seen entry.2) where
  same id := by
    have again : ∀ found : Option α, (found.filter seen).filter seen = found.filter seen := by
      intro found
      rcases found with _ | value
      · rfl
      · cases sees : seen value <;> simp [Option.filter, sees]
    rw [distinct.get?_filter, again, agrees.same id]
  missing covers id absent := by
    rw [distinct.get?_filter, agrees.missing covers id absent]
    rfl

/-- What is seen may become less on both sides. -/
theorem persists {seenLater : α → Bool} (agrees : entries.Agrees covers seen others)
    (persists : ∀ value, seenLater value = true → seen value = true) :
    entries.Agrees covers seenLater others where
  same id := by
    have later : ∀ found : Option α,
        found.filter seenLater = (found.filter seen).filter seenLater := by
      intro found
      rcases found with _ | value
      · rfl
      rcases sees : seenLater value with _ | _
      · cases shown : seen value <;> simp [Option.filter, sees, shown]
      · simp [Option.filter, sees, persists value sees]
    rw [later, later (others.get? id), agrees.same id]
  missing := agrees.missing

end Dictionary.Agrees

/-- **What two states are compared by.** -/
structure View where
  /-- The devices that are seen. -/
  device : String → Prop
  /-- Whether a challenge is seen at an instant. -/
  challenge : Instant → Challenge → Bool
  /-- Whether a session is seen at an instant. -/
  session : Instant → Session → Bool
  /-- Whether records of other devices may be hidden, and not only those that have expired. -/
  foreign : Prop
  /-- Whether no record is missing from the first state that the second one has. -/
  covers : Prop

namespace View

/-- **A hidden record serves nobody who is seen.** -/
structure Lawful (view : View) (resolution : Resolution) (now : Instant) : Prop where
  challenge : ∀ {hidden found : Challenge} {deviceId : String},
    view.challenge now hidden = false → resolution.readChallenge hidden = .ok found →
      view.device deviceId →
        found.hasExpired now = true ∨ view.foreign ∧ found.deviceId ≠ deviceId
  session : ∀ {hidden found : Session} {deviceId : String},
    view.session now hidden = false → resolution.readSession hidden = .ok found →
      view.device deviceId →
        found.hasExpired now = true ∨ view.foreign ∧ found.deviceId ≠ deviceId

/-! ### Failures -/

/-- Why a challenge is refused that is hidden or missing. -/
inductive OfChallenge (view : View) (challengeId : String) : AuthError → Prop
  | missing : OfChallenge view challengeId (.challengeNotFound challengeId)
  | expired : OfChallenge view challengeId (.challengeExpired challengeId)
  | foreign {error : AuthError} : view.foreign → error.countsAgainstDevice = true →
      OfChallenge view challengeId error

/-- Why a token is refused whose session is hidden or missing. -/
inductive OfSession (view : View) (sessionId : String) : AuthError → Prop
  | missing : OfSession view sessionId (.sessionNotFound sessionId)
  | expired : OfSession view sessionId (.sessionExpired sessionId)
  | foreign (detail : String) : view.foreign → OfSession view sessionId (.invalidToken detail)

/-- **Failures of one operation in two states:** the same, or of one record that is hidden or
missing. -/
inductive Same (view : View) : Failure → Failure → Prop
  | refl (failure : Failure) : Same view failure failure
  | challenge (challengeId : String) {first second : AuthError} :
      view.OfChallenge challengeId first → view.OfChallenge challengeId second →
      (view.covers → first = .challengeNotFound challengeId → first = second) →
      Same view (.refused first) (.refused second)
  | session (sessionId : String) {first second : AuthError} :
      view.OfSession sessionId first → view.OfSession sessionId second →
      (view.covers → first = .sessionNotFound sessionId → first = second) →
      Same view (.refused first) (.refused second)

section Failures

variable {view : View} {id : String} {error : AuthError} {first second : Failure}

theorem OfChallenge.counts (refused : view.OfChallenge id error) :
    error.countsAgainstDevice = true := by
  cases refused with
  | missing | expired => rfl
  | foreign _ counts => exact counts

theorem OfChallenge.status (refused : view.OfChallenge id error) :
    Gateway.statusOf error = 401 :=
  Gateway.statusOf_of_countsAgainstDevice refused.counts

theorem OfSession.status (refused : view.OfSession id error) : Gateway.statusOf error = 401 := by
  cases refused <;> rfl

theorem OfSession.uncounted (refused : view.OfSession id error) :
    error.countsAgainstDevice = false := by
  cases refused <;> rfl

/-- **A client cannot tell such failures apart.** -/
theorem Same.refusalOf (same : view.Same first second) :
    Gateway.refusalOf first = Gateway.refusalOf second := by
  cases same with
  | refl => rfl
  | challenge id refused refusedToo _ =>
    exact (Gateway.refusal_eq_denial refused.status).trans
      (Gateway.refusal_eq_denial refusedToo.status).symm
  | session id refused refusedToo _ =>
    exact (Gateway.refusal_eq_denial refused.status).trans
      (Gateway.refusal_eq_denial refusedToo.status).symm

/-- Either both are refused, and count alike, or both calls are abandoned. -/
theorem Same.cases_refused (same : view.Same first second) :
    (∃ error other, first = .refused error ∧ second = .refused other ∧
      error.countsAgainstDevice = other.countsAgainstDevice) ∨
      first = .overflow ∧ second = .overflow := by
  cases same with
  | refl =>
    rcases first with error | _
    · exact .inl ⟨error, error, rfl, rfl, rfl⟩
    · exact .inr ⟨rfl, rfl⟩
  | challenge id refused refusedToo _ =>
    exact .inl ⟨_, _, rfl, rfl, refused.counts.trans refusedToo.counts.symm⟩
  | session id refused refusedToo _ =>
    exact .inl ⟨_, _, rfl, rfl, refused.uncounted.trans refusedToo.uncounted.symm⟩

end Failures

/-! ### Records -/

/-- **Two stores with the same records,** as far as they are seen. -/
structure Agree (view : View) (now : Instant) (first second : MemoryStore) : Prop where
  devices : ∀ id, view.device id → first.devices.get? id = second.devices.get? id
  challenges : first.challenges.Agrees view.covers (view.challenge now) second.challenges
  sessions : first.sessions.Agrees view.covers (view.session now) second.sessions

namespace Agree

variable {view : View} {now : Instant} {first second third : MemoryStore}

theorem refl (view : View) (now : Instant) (records : MemoryStore) :
    view.Agree now records records :=
  ⟨fun _ _ => rfl, .refl _, .refl _⟩

theorem trans (agree : view.Agree now first second) (goesOn : view.Agree now second third) :
    view.Agree now first third :=
  ⟨fun id seen => (agree.devices id seen).trans (goesOn.devices id seen),
    agree.challenges.trans goesOn.challenges, agree.sessions.trans goesOn.sessions⟩

end Agree

end View

/-- What is the same as far as it is seen is the same, or is not seen on either side. -/
theorem Dictionary.Agrees.eq_or_hidden {α : Type} {covers : Prop} {seen : α → Bool}
    {entries others : Dictionary α} (agrees : entries.Agrees covers seen others) (id : String) :
    entries.get? id = others.get? id ∨
      (∀ value, entries.get? id = some value → seen value = false) ∧
        ∀ value, others.get? id = some value → seen value = false := by
  have same := agrees.same id
  generalize entries.get? id = first, others.get? id = second at same
  rcases first with _ | value <;> rcases second with _ | other
  · exact .inl rfl
  · refine .inr ⟨nofun, ?_⟩
    rintro _ ⟨⟩
    simpa [Option.filter] using same.symm
  · refine .inr ⟨?_, nofun⟩
    rintro _ ⟨⟩
    simpa [Option.filter] using same
  · rcases sees : seen value with _ | _ <;> rcases seesToo : seen other with _ | _ <;>
      simp_all [Option.filter]

namespace State.Stocked

variable {resolution : Resolution} {unused : List String} {records : MemoryStore}
  {state : State Storage} {view : View}

/-! ### Hidden records are refused -/

/-- A challenge that is hidden or missing is refused. -/
theorem examine_hidden (stocked : state.Stocked resolution unused records)
    (lawful : view.Lawful resolution state.now) {deviceId challengeId : String}
    (seen : view.device deviceId) (values : PublicValues)
    (hidden : ∀ challenge, records.challenges.get? challengeId = some challenge →
      view.challenge state.now challenge = false) :
    ∃ error, view.OfChallenge challengeId error ∧
      (error = .challengeNotFound challengeId ↔ records.challenges.get? challengeId = none) ∧
      (Service.examine deviceId challengeId values).run state =
        (.error (.refused error), state) := by
  unfold Service.examine Service.openChallenge
  rcases held : records.challenges.get? challengeId with _ | challenge
  · exact ⟨_, .missing, by simp, by simp [stocked.challenge_none held]⟩
  obtain ⟨found, read, answer⟩ := stocked.challenge_some held
  rcases expired : found.hasExpired state.now with _ | _
  swap
  · exact ⟨_, .expired, by simp, by simp [answer, expired]⟩
  rcases lawful.challenge (hidden challenge held) read seen with late | ⟨foreign, other⟩
  · rw [expired] at late
    cases late
  -- Somebody else's challenge is refused for whichever reason comes first.
  rcases used : found.used with _ | _
  swap
  · exact ⟨.challengeAlreadyUsed challengeId, .foreign foreign rfl, by simp,
      by simp [answer, expired, used]⟩
  rcases known : records.devices.get? deviceId with _ | device
  · exact ⟨.deviceNotFound deviceId, .foreign foreign rfl, by simp,
      by simp [answer, expired, used, Service.credentialOf, stocked.device, known]⟩
  rcases active : device.isActive with _ | _
  · exact ⟨.deviceNotFound deviceId, .foreign foreign rfl, by simp,
      by simp [answer, expired, used, Service.credentialOf, stocked.device, known, active]⟩
  rw [← stocked.deviceId_of_get? known] at other
  refine ⟨.witnessMismatch "challenge was issued to another device", .foreign foreign rfl,
    by simp, ?_⟩
  simp [answer, expired, used, Service.credentialOf, stocked.device, known, active,
    Service.checkValues, other]

/-- A token whose session is hidden or missing is refused. -/
theorem recognize_hidden (stocked : state.Stocked resolution unused records)
    (lawful : view.Lawful resolution state.now) {policy : SessionPolicy} {token : String}
    {claims : TokenClaims} (verified : policy.tokenKey.verify token = .ok claims)
    (seen : view.device claims.deviceId)
    (hidden : ∀ session, records.sessions.get? claims.sessionId = some session →
      view.session state.now session = false) :
    ∃ error, view.OfSession claims.sessionId error ∧
      (error = .sessionNotFound claims.sessionId ↔
        records.sessions.get? claims.sessionId = none) ∧
      (policy.recognize token state.now).run state = (.error (.refused error), state) := by
  unfold SessionPolicy.recognize
  rcases held : records.sessions.get? claims.sessionId with _ | session
  · exact ⟨_, .missing, by simp, by simp [verified, stocked.session_none held]⟩
  obtain ⟨found, read, own, answer⟩ := stocked.session_some held
  rcases expired : found.hasExpired state.now with _ | _
  swap
  · exact ⟨_, .expired, by simp, by simp [verified, answer, expired, own]⟩
  rcases lawful.session (hidden session held) read seen with late | ⟨foreign, other⟩
  · rw [expired] at late
    cases late
  · exact ⟨_, .foreign "token device does not match session" foreign, by simp,
      by simp [verified, answer, expired, other]⟩

end State.Stocked

namespace View

/-! ### States that are alike -/

/-- **Two states that are alike, as far as they are seen.** -/
structure Joins (view : View) (resolution : Resolution) (unused : List String)
    (kept keptToo : MemoryStore) (first second : State Storage) : Prop where
  stocked : first.Stocked resolution unused kept
  stockedToo : second.Stocked resolution unused keptToo
  agree : view.Agree first.now kept keptToo
  counters : ∀ id, view.device id → first.counters.count id = second.counters.count id
  license : first.license = second.license
  now : first.now = second.now

/-- Two states that are alike, whatever records they keep. -/
def Joined (view : View) (resolution : Resolution) (unused : List String)
    (first second : State Storage) : Prop :=
  ∃ kept keptToo, view.Joins resolution unused kept keptToo first second

/-- **How two runs of one operation end:** with the same value, or with failures that a client
cannot tell apart. -/
inductive Ends (view : View) (resolution : Resolution) (unused : List String) {α : Type} :
    Except Failure α × State Storage → Except Failure α × State Storage → Prop
  | value (value : α) {first second : State Storage} :
      view.Joined resolution unused first second →
      Ends view resolution unused (.ok value, first) (.ok value, second)
  | failure {failure other : Failure} {first second : State Storage} : view.Same failure other →
      view.Joined resolution unused first second →
      Ends view resolution unused (.error failure, first) (.error other, second)

section Joins

variable {view : View} {resolution : Resolution} {unused used : List String}
  {kept keptToo : MemoryStore} {first second : State Storage} {id : String}

theorem Joins.of_append
    (joins : view.Joins resolution (used ++ unused) kept keptToo first second) :
    view.Joins resolution unused kept keptToo first second :=
  { joins with
    stocked := joins.stocked.of_append
    stockedToo := joins.stockedToo.of_append }

theorem Joins.tail (joins : view.Joins resolution (id :: unused) kept keptToo first second) :
    view.Joins resolution unused kept keptToo first second := by
  have appended : view.Joins resolution ([id] ++ unused) kept keptToo first second := joins
  exact appended.of_append

theorem Joined.of_append (joined : view.Joined resolution (used ++ unused) first second) :
    view.Joined resolution unused first second := by
  obtain ⟨kept, keptToo, joins⟩ := joined
  exact ⟨kept, keptToo, joins.of_append⟩

theorem Joined.tail (joined : view.Joined resolution (id :: unused) first second) :
    view.Joined resolution unused first second := by
  obtain ⟨kept, keptToo, joins⟩ := joined
  exact ⟨kept, keptToo, joins.tail⟩

namespace Joins

theorem joined (joins : view.Joins resolution unused kept keptToo first second) :
    view.Joined resolution unused first second :=
  ⟨kept, keptToo, joins⟩

/-- A device that is seen is the same in both states. -/
theorem device (joins : view.Joins resolution unused kept keptToo first second)
    (seen : view.device id) :
    RecordStore.device id first.store = RecordStore.device id second.store := by
  rw [joins.stocked.device, joins.stockedToo.device, joins.agree.devices id seen]

theorem knows (joins : view.Joins resolution unused kept keptToo first second)
    (seen : view.device id) : first.knows id = second.knows id := by
  unfold State.knows
  rw [joins.device seen]

/-- The stores of both states are changed. -/
theorem change (joins : view.Joins resolution unused kept keptToo first second)
    {left : List String} {records recordsToo : MemoryStore} {store storeToo : Storage}
    (stocked : State.Stocked resolution left records { first with store })
    (stockedToo : State.Stocked resolution left recordsToo { second with store := storeToo })
    (agree : view.Agree first.now records recordsToo) :
    view.Joins resolution left records recordsToo { first with store }
      { second with store := storeToo } where
  stocked
  stockedToo
  agree
  counters := joins.counters
  license := joins.license
  now := joins.now

/-- A failure is counted in both states. -/
theorem countFailure (joins : view.Joins resolution unused kept keptToo first second)
    (seen : view.device id) :
    view.Joins resolution unused kept keptToo
      { first with counters := (first.counters.countFailure id).2 }
      { second with counters := (second.counters.countFailure id).2 } :=
  { joins with
    stocked := ⟨joins.stocked.keeps, joins.stocked.ready⟩
    stockedToo := ⟨joins.stockedToo.keeps, joins.stockedToo.ready⟩
    counters := fun other seenToo => by
      simp only [FailureCounters.count_countFailure, joins.counters id seen,
        joins.counters other seenToo] }

theorem forgetFailures (joins : view.Joins resolution unused kept keptToo first second)
    (id : String) :
    view.Joins resolution unused kept keptToo
      { first with counters := first.counters.forget id }
      { second with counters := second.counters.forget id } :=
  { joins with
    stocked := ⟨joins.stocked.keeps, joins.stocked.ready⟩
    stockedToo := ⟨joins.stockedToo.keeps, joins.stockedToo.ready⟩
    counters := fun other seenToo => by
      simp only [FailureCounters.count_forget, joins.counters other seenToo] }

end Joins

end Joins

end View

end DeviceAuth
