import DeviceAuth.Proofs.Auth.Kept
import DeviceAuth.Proofs.Auth.Upkeep
import DeviceAuth.Proofs.Field.WordText

/-!
**Where rounding plays no part.** Records whose instants are whole milliseconds and whose words are
canonical are read back from a database as they are, and expiry on milliseconds is expiry. As long
as there are only such records, a storage answers every request as the store in memory would that
has its records, wherever it keeps them itself.

* `DeviceRow.toDevice_ofDevice`, `ChallengeRow.toChallenge_ofChallenge`,
  `SessionRow.toSession_ofSession`: what is written reads back.
* `State.onto`: a state with its records in a storage. `Storage.Keeps.perform_onto`: a request is
  answered there as it is answered by the records.
* `Request.perform_isExact`: exact records stay exact.
-/

namespace DeviceAuth

open Storage

/-! ### Records that are kept exactly -/

/-- A challenge that a row keeps exactly. -/
structure Challenge.IsExact (challenge : Challenge) : Prop where
  nonce : challenge.nonce.IsCanonical
  createdAt : challenge.createdAt.IsWhole
  expiresAt : challenge.expiresAt.IsWhole

/-- A session that a row keeps exactly. -/
structure Session.IsExact (session : Session) : Prop where
  createdAt : session.createdAt.IsWhole
  expiresAt : session.expiresAt.IsWhole
  lastUsedAt : session.lastUsedAt.IsWhole

/-- Records that rows keep exactly. -/
structure MemoryStore.IsExact (records : MemoryStore) : Prop where
  devices : ∀ id device, (id, device) ∈ records.devices → device.commitment.IsCanonical
  challenges : ∀ id challenge, (id, challenge) ∈ records.challenges → challenge.IsExact
  sessions : ∀ id session, (id, session) ∈ records.sessions → session.IsExact

theorem MemoryStore.isExact_empty : empty.IsExact where
  devices _ _ member := by cases member
  challenges _ _ member := by cases member
  sessions _ _ member := by cases member

/-! ### Reading back -/

theorem Cell.readInstant_ofInstant {instant : Instant} (whole : instant.IsWhole) (index : Nat)
    (name : String) : (ofInstant instant).readInstant index name = .ok instant := by
  simp only [ofInstant, readInstant, readInteger, bind, Except.bind,
    Instant.ofMillis?_toMillis whole]

theorem readWord_toHex {word : Word256} (canonical : word.IsCanonical) (index : Nat) :
    readWord index word.toHex = .ok word := by
  rw [readWord, Word256.ofHex_toHex canonical]

theorem DeviceRow.toDevice_ofDevice {device : Credential}
    (canonical : device.commitment.IsCanonical) : (ofDevice device).toDevice = .ok device := by
  simp only [toDevice, ofDevice, readWord_toHex canonical, Standing.ofName, Standing.ofName?_name]
  rfl

theorem ChallengeRow.toChallenge_ofChallenge {challenge : Challenge} (exact : challenge.IsExact) :
    (ofChallenge challenge).toChallenge = .ok challenge := by
  have used : decide ((if challenge.used = true then (1 : Int) else 0) ≠ 0) = challenge.used := by
    cases challenge.used <;> rfl
  simp only [toChallenge, ofChallenge, readWord_toHex exact.nonce,
    Cell.readInstant_ofInstant exact.createdAt, Cell.readInstant_ofInstant exact.expiresAt,
    Cell.readInteger, bind, Except.bind, used]
  rfl

theorem SessionRow.toSession_ofSession {session : Session} (exact : session.IsExact) :
    (ofSession session).toSession = .ok session := by
  simp only [toSession, ofSession, Cell.readInstant_ofInstant exact.createdAt,
    Cell.readInstant_ofInstant exact.expiresAt, Cell.readInstant_ofInstant exact.lastUsedAt]
  rfl

namespace Resolution

variable (resolution : Resolution)

theorem readDevice_eq {device : Credential} (canonical : device.commitment.IsCanonical) :
    resolution.readDevice device = .ok device := by
  cases resolution
  · rfl
  · exact DeviceRow.toDevice_ofDevice canonical

theorem readChallenge_eq {challenge : Challenge} (exact : challenge.IsExact) :
    resolution.readChallenge challenge = .ok challenge := by
  cases resolution
  · rfl
  · exact ChallengeRow.toChallenge_ofChallenge exact

theorem readSession_eq {session : Session} (exact : session.IsExact) :
    resolution.readSession session = .ok session := by
  cases resolution
  · rfl
  · exact SessionRow.toSession_ofSession exact

theorem isPast_eq {expiry now : Instant} (whole : expiry.IsWhole) (wholeNow : now.IsWhole) :
    resolution.isPast expiry now = decide (expiry < now) := by
  cases resolution
  · rfl
  · simp only [isPast, Instant.lt_iff_toMillis_lt whole wholeNow]

end Resolution

/-- What is read of exact values is found. -/
theorem Dictionary.read_eq {α : Type} {entries : Dictionary α} {read : α → Except AuthError α}
    {id : String} (exact : ∀ value, (id, value) ∈ entries → read value = .ok value) :
    (entries.get? id).mapM read = .ok (entries.get? id) := by
  rcases held : entries.get? id with _ | value
  · rfl
  · simp only [Option.mapM_some, exact value (mem_of_get? held)]
    rfl

theorem MemoryStore.dropExpired_congr {α : Type} {isPast isStale : α → Bool}
    {entries : Dictionary α}
    (agree : ∀ id value, (id, value) ∈ entries → isPast value = isStale value) :
    dropExpired isPast entries = dropExpired isStale entries := by
  have kept : (entries.filter fun entry => !isPast entry.2) =
      entries.filter fun entry => !isStale entry.2 :=
    List.filter_congr fun entry member => congrArg (!·) (agree entry.1 entry.2 member)
  simp only [dropExpired, kept]

namespace Storage.Keeps

variable {resolution : Resolution} {records : MemoryStore} {storage : Storage}

/-- What is found is what is recorded. -/
theorem found (keeps : storage.Keeps resolution records) (exact : records.IsExact) (id : String) :
    RecordStore.device id storage = .ok (records.devices.get? id) ∧
      RecordStore.challenge id storage = .ok (records.challenges.get? id) ∧
      RecordStore.session id storage = .ok (records.sessions.get? id) := by
  rw [keeps.device, keeps.challenge, keeps.session]
  exact ⟨
    Dictionary.read_eq fun device member => resolution.readDevice_eq (exact.devices id _ member),
    Dictionary.read_eq fun _ member => resolution.readChallenge_eq (exact.challenges id _ member),
    Dictionary.read_eq fun _ member => resolution.readSession_eq (exact.sessions id _ member)⟩

/-- The live devices are those of the records. -/
theorem listed (keeps : storage.Keeps resolution records) (exact : records.IsExact)
    {now : Instant} (whole : now.IsWhole) :
    ∃ live, RecordStore.liveDevices now storage = .ok live ∧
      live.Perm (records.liveDevices now) := by
  obtain ⟨live, listed, nodup, mem_iff⟩ := keeps.liveDevices now
  refine ⟨live, listed, (List.perm_ext_iff_of_nodup nodup (nodup_eraseDups _)).mpr fun id => ?_⟩
  rw [mem_iff, List.mem_eraseDups]
  change _ ↔ id ∈ records.holders fun session => session.hasExpired now
  simp only [MemoryStore.mem_holders]
  refine exists_congr fun sessionId => exists_congr fun session => ?_
  refine and_congr_right fun member => ?_
  rw [resolution.isPast_eq (exact.sessions _ _ member).expiresAt whole]
  rfl

end Storage.Keeps

/-! ### Requests -/

/-- Whether a request carries only what is kept exactly. -/
def Request.IsExact : Request → Prop
  | enroll credential => credential.commitment.IsCanonical
  | addChallenge added => added.IsExact
  | addSession added => added.IsExact
  | dropChallenges moment | dropSessions moment | liveDevices moment | noteUse _ moment
  | prolongSession _ moment _ => moment.IsWhole
  | _ => True

/-- What two states answer that are alike: the same, but live devices in any order, and a clock that
shows a whole instant. -/
def Request.Alike : (request : Request) → request.Answer → request.Answer → Prop
  | now, first, second => first = second ∧ first.IsWhole
  | liveDevices _, first, second => ∃ live others : List String,
      first = .ok live ∧ second = .ok others ∧ live.Perm others
  | _, first, second => first = second

/-- A state with its records in a storage. -/
def State.onto (plain : State MemoryStore) (storage : Storage) : State Storage where
  store := storage
  counters := plain.counters
  license := plain.license
  now := plain.now

/-- A storage changes as the records do, with the same answer. -/
def Storage.Follows {α : Type} (resolution : Resolution) (result : Except AuthError (α × Storage)) :
    Except AuthError (α × MemoryStore) → Prop
  | .ok (answer, kept) => ∃ after, result = .ok (answer, after) ∧ after.Keeps resolution kept
  | .error error => result = .error error

/-- The id of the record that a request adds. -/
def Request.added? : Request → Option String
  | addChallenge added => some added.challengeId
  | addSession added => some added.sessionId
  | _ => none

/-- No challenge and no session has this id. -/
def Ledger.Lacks (id : String) (ledger : Ledger) : Prop :=
  (∀ deviceId used, ¬ ledger.challenges id deviceId used) ∧
    ∀ deviceId, ¬ ledger.sessions id deviceId

theorem MemoryStore.lacks_empty (id : String) : empty.ledger.Lacks id := by
  constructor
  · rintro deviceId used ⟨challenge, member, _⟩
    cases member
  · rintro deviceId ⟨session, member, _⟩
    cases member

/-- Nothing is found under an id that is lacking. -/
theorem Ledger.Lacks.get? {id : String} {records : MemoryStore} (lacks : records.ledger.Lacks id) :
    records.challenges.get? id = none ∧ records.sessions.get? id = none := by
  constructor
  · rcases held : records.challenges.get? id with _ | challenge
    · rfl
    · exact absurd ⟨challenge, Dictionary.mem_of_get? held, rfl, rfl⟩
        (lacks.1 challenge.deviceId challenge.used)
  · rcases held : records.sessions.get? id with _ | session
    · rfl
    · exact absurd ⟨session, Dictionary.mem_of_get? held, rfl⟩ (lacks.2 session.deviceId)

/-! What each change does to the records, it does to a storage that keeps them. -/

namespace Storage.Keeps

variable {resolution : Resolution} {records : MemoryStore} {storage : Storage}

theorem follows_enroll (keeps : storage.Keeps resolution records) (device : Credential) :
    Follows resolution ((RecordStore.enroll device storage).map fun after => ((), after))
      ((RecordStore.enroll device records).map fun kept => ((), kept)) := by
  rcases encoded : DeviceId.encode device.deviceId with error | word
  · rw [keeps.enroll_refused encoded]
    simp only [RecordStore.enroll, MemoryStore.enroll, encoded]
    rfl
  · obtain ⟨after, enrolled, now⟩ := keeps.enroll encoded
    simp only [RecordStore.enroll, MemoryStore.enroll, encoded]
    exact ⟨after, congrArg (Except.map _) enrolled, now⟩

theorem follows_addChallenge (keeps : storage.Keeps resolution records) {challenge : Challenge}
    (fresh : records.challenges.get? challenge.challengeId = none) :
    Follows resolution ((RecordStore.addChallenge challenge storage).map fun after => ((), after))
      ((RecordStore.addChallenge challenge records).map fun kept => ((), kept)) := by
  obtain ⟨after, added, now⟩ := keeps.addChallenge fresh
  simp only [RecordStore.addChallenge, MemoryStore.addChallenge, fresh]
  exact ⟨after, congrArg (Except.map _) added, now⟩

theorem follows_addSession (keeps : storage.Keeps resolution records) {session : Session}
    (fresh : records.sessions.get? session.sessionId = none) :
    Follows resolution ((RecordStore.addSession session storage).map fun after => ((), after))
      ((RecordStore.addSession session records).map fun kept => ((), kept)) := by
  obtain ⟨after, added, now⟩ := keeps.addSession fun _ => fresh
  exact ⟨after, congrArg (Except.map _) added, now⟩

theorem follows_dropChallenges (keeps : storage.Keeps resolution records) (exact : records.IsExact)
    {moment : Instant} (whole : moment.IsWhole) :
    Follows resolution (RecordStore.dropChallenges moment storage)
      (RecordStore.dropChallenges moment records) := by
  have dropped := keeps.dropChallenges moment
  rw [MemoryStore.dropExpired_congr fun id challenge member =>
    resolution.isPast_eq (exact.challenges id challenge member).expiresAt whole] at dropped
  exact dropped

theorem follows_dropSessions (keeps : storage.Keeps resolution records) (exact : records.IsExact)
    {moment : Instant} (whole : moment.IsWhole) :
    Follows resolution (RecordStore.dropSessions moment storage)
      (RecordStore.dropSessions moment records) := by
  have dropped := keeps.dropSessions moment
  rw [MemoryStore.dropExpired_congr fun id session member =>
    resolution.isPast_eq (exact.sessions id session member).expiresAt whole] at dropped
  exact dropped

end Storage.Keeps

section Requests

variable {resolution : Resolution} {plain : State MemoryStore} {storage : Storage}

theorem Storage.Follows.change {α : Type} {result : Except AuthError (α × Storage)}
    {ofRecords : Except AuthError (α × MemoryStore)}
    (follows : Follows resolution result ofRecords)
    (keeps : storage.Keeps resolution plain.store) :
    ∃ after, (plain.onto storage).change result =
        ((plain.change ofRecords).1, (plain.change ofRecords).2.onto after) ∧
      after.Keeps resolution (plain.change ofRecords).2.store := by
  rcases ofRecords with error | ⟨answer, kept⟩
  · obtain rfl : result = .error error := follows
    exact ⟨storage, rfl, keeps⟩
  · obtain ⟨after, rfl, now⟩ := follows
    exact ⟨after, rfl, now⟩

/-- **A request is answered by a storage as it is by the records,** if both are exact and a record
that is added has a new id. -/
theorem Storage.Keeps.perform_onto (keeps : storage.Keeps resolution plain.store)
    (exact : plain.store.IsExact) (whole : plain.now.IsWhole) {request : Request}
    (may : request.IsExact) (fresh : ∀ id, request.added? = some id → plain.store.ledger.Lacks id) :
    ∃ answer after,
      request.perform (plain.onto storage) = (answer, (request.perform plain).2.onto after) ∧
        request.Alike answer (request.perform plain).1 ∧
        after.Keeps resolution (request.perform plain).2.store := by
  have changes : ∀ {α : Type} {result : Except AuthError (α × Storage)}
      {ofRecords : Except AuthError (α × MemoryStore)}, Follows resolution result ofRecords →
        ∃ answer after, (plain.onto storage).change result =
            (answer, (plain.change ofRecords).2.onto after) ∧
          answer = (plain.change ofRecords).1 ∧
          after.Keeps resolution (plain.change ofRecords).2.store := fun follows => by
    obtain ⟨after, changed, now⟩ := follows.change keeps
    exact ⟨_, after, changed, rfl, now⟩
  cases request with
  | now => exact ⟨_, storage, rfl, ⟨rfl, whole⟩, keeps⟩
  | device id => exact ⟨_, storage, rfl, (keeps.found exact id).1, keeps⟩
  | challenge id => exact ⟨_, storage, rfl, (keeps.found exact id).2.1, keeps⟩
  | session id => exact ⟨_, storage, rfl, (keeps.found exact id).2.2, keeps⟩
  | liveDevices moment =>
    have wholeToo : moment.IsWhole := may
    obtain ⟨live, listed, perm⟩ := keeps.listed exact wholeToo
    exact ⟨_, storage, rfl, ⟨live, _, listed, rfl, perm⟩, keeps⟩
  | failures _ | countFailure _ | forgetFailures _ | license =>
    exact ⟨_, storage, rfl, rfl, keeps⟩
  | enroll device => exact changes (keeps.follows_enroll device)
  | addChallenge challenge => exact changes (keeps.follows_addChallenge (fresh _ rfl).get?.1)
  | addSession session => exact changes (keeps.follows_addSession (fresh _ rfl).get?.2)
  | spendChallenge challengeId => exact changes (keeps.spendChallenge challengeId)
  | dropChallenges moment => exact changes (keeps.follows_dropChallenges exact may)
  | noteUse sessionId usedAt => exact changes (keeps.noteUse sessionId usedAt)
  | prolongSession sessionId expiresAt token =>
    exact changes (keeps.prolongSession sessionId expiresAt token)
  | removeSession sessionId => exact changes (keeps.removeSession sessionId)
  | dropSessions moment => exact changes (keeps.follows_dropSessions exact may)

/-! ### What stays exact -/

/-- No record has an id that none had and that is not the id of the record that is added. -/
theorem Request.perform_lacks (request : Request) {id : String}
    (lacks : plain.store.ledger.Lacks id) (other : request.added? ≠ some id) :
    (request.perform plain).2.store.ledger.Lacks id := by
  have shrunk : ∀ {before after : Ledger}, before.Shrinks after → before.Lacks id →
      after.Lacks id := fun shrinks lacks => by
    refine ⟨fun deviceId used held => ?_, fun deviceId held => ?_⟩
    · obtain ⟨earlier, before⟩ := shrinks.held held
      exact lacks.1 deviceId earlier before
    · exact lacks.2 deviceId (shrinks.sessions _ _ held)
  cases request with
  | addChallenge challenge =>
    simp only [perform, State.write_store]
    rcases added : RecordStore.addChallenge challenge plain.store with _ | store
    · exact lacks
    · have offers := LedgerStore.addChallenge_offers added
      refine ⟨fun deviceId used held => ?_, fun deviceId held => ?_⟩
      · rcases offers.challenges _ _ _ held with before | ⟨rfl, _⟩
        · exact lacks.1 deviceId used before
        · exact other rfl
      · exact lacks.2 deviceId (offers.sessions _ _ held)
  | addSession session =>
    simp only [perform, State.write_store]
    rcases added : RecordStore.addSession session plain.store with _ | store
    · exact lacks
    · have opens := LedgerStore.addSession_opens added
      refine ⟨fun deviceId used held => ?_, fun deviceId held => ?_⟩
      · exact lacks.1 deviceId used (opens.challenges _ _ _ held)
      · rcases opens.sessions _ _ held with before | ⟨rfl, _⟩
        · exact lacks.2 deviceId before
        · exact other rfl
  | _ => exact shrunk (perform_shrinks _ plain fun adds => adds) lacks

section Records

variable {records : MemoryStore}

/-- A change of sessions that keeps them exact. -/
theorem MemoryStore.IsExact.updateSession (exact : records.IsExact) (sessionId : String)
    {change : Session → Session} (same : ∀ session, session.IsExact → (change session).IsExact) :
    (records.updateSession sessionId change).2.IsExact := by
  unfold MemoryStore.updateSession
  split
  · refine { exact with sessions := fun id session member => ?_ }
    obtain ⟨held, inside, ⟨_, rfl⟩ | ⟨_, rfl⟩⟩ := Dictionary.mem_update member
    · exact same held (exact.sessions id held inside)
    · exact exact.sessions id session inside
  · exact exact

theorem MemoryStore.IsExact.spendChallenge (exact : records.IsExact) (challengeId : String) :
    (records.spendChallenge challengeId).2.IsExact := by
  unfold MemoryStore.spendChallenge
  split
  · split
    · exact exact
    · refine { exact with challenges := fun id challenge member => ?_ }
      have entry : (id, challenge) ∈ records.challenges.update challengeId marked := member
      obtain ⟨held, inside, ⟨_, rfl⟩ | ⟨_, rfl⟩⟩ := Dictionary.mem_update entry
      · have before := exact.challenges id held inside
        exact ⟨before.nonce, before.createdAt, before.expiresAt⟩
      · exact exact.challenges id challenge inside
  · exact exact

theorem MemoryStore.IsExact.removeSession (exact : records.IsExact) (sessionId : String) :
    (records.removeSession sessionId).2.IsExact := by
  unfold MemoryStore.removeSession
  split
  · exact { exact with
      sessions := fun id session member => exact.sessions id session (List.mem_filter.mp member).1 }
  · exact exact

end Records

/-- **Exact records stay exact.** -/
theorem Request.perform_isExact {request : Request} (may : request.IsExact)
    (exact : plain.store.IsExact) : (request.perform plain).2.store.IsExact := by
  cases request with
  | now | device _ | challenge _ | session _ | liveDevices _ | failures _ | countFailure _
  | forgetFailures _ | license => exact exact
  | enroll device =>
    simp only [perform, State.write_store, RecordStore.enroll, MemoryStore.enroll]
    rcases DeviceId.encode device.deviceId with error | word
    · exact exact
    · refine { exact with devices := fun id other member => ?_ }
      rcases Dictionary.mem_put member with before | ⟨_, rfl⟩
      · exact exact.devices id other before
      · exact may
  | addChallenge challenge =>
    simp only [perform, State.write_store, RecordStore.addChallenge, MemoryStore.addChallenge]
    rcases plain.store.challenges.get? challenge.challengeId with _ | held
    · refine { exact with challenges := fun id other member => ?_ }
      rcases Dictionary.mem_put member with before | ⟨_, rfl⟩
      · exact exact.challenges id other before
      · exact may
    · exact exact
  | addSession session =>
    refine { exact with sessions := fun id other member => ?_ }
    rcases Dictionary.mem_put member with before | ⟨_, rfl⟩
    · exact exact.sessions id other before
    · exact may
  | spendChallenge challengeId => exact exact.spendChallenge challengeId
  | dropChallenges moment =>
    exact { exact with
      challenges := fun id other member => exact.challenges id other (List.mem_filter.mp member).1 }
  | noteUse sessionId usedAt =>
    exact exact.updateSession sessionId fun session held => { held with lastUsedAt := may }
  | prolongSession sessionId expiresAt token =>
    exact exact.updateSession sessionId fun session held => { held with expiresAt := may }
  | removeSession sessionId => exact exact.removeSession sessionId
  | dropSessions moment =>
    exact { exact with
      sessions := fun id other member => exact.sessions id other (List.mem_filter.mp member).1 }

end Requests

end DeviceAuth
