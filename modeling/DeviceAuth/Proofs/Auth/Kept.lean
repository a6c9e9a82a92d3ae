import DeviceAuth.Proofs.Auth.Ledger.Storage
import DeviceAuth.Proofs.Auth.Tables
import DeviceAuth.Proofs.Time.Millis

/-!
**What a storage keeps,** said of records whether they are kept in memory or in a database that can
be written. `storage.Keeps resolution records` holds if the storage has exactly these records, as
they are (`nanoseconds`) or as rows (`milliseconds`). For each request to a store there is one
lemma: what is answered, and which records are kept afterwards. For any request at all
`Keeps.applied` says only the latter. The two resolutions differ in how a record is read back, in
when an instant is past, and in what becomes of a second session with one id.

`Storage.Written` says of a storage that requests have brought it about; then it keeps some records
(`Written.keeps`).
-/

namespace DeviceAuth

/-- How exactly instants are kept. -/
inductive Resolution where
  | nanoseconds
  | milliseconds
  deriving DecidableEq

namespace Resolution

/-- Whether an expiry is past, as it is decided for all records at once. -/
def isPast : Resolution → (expiry now : Instant) → Bool
  | nanoseconds, expiry, now => expiry < now
  | milliseconds, expiry, now => expiry.toMillis < now.toMillis

/-- A credential as it is read back. -/
def readDevice : Resolution → Credential → Except AuthError Credential
  | nanoseconds, device => .ok device
  | milliseconds, device => (DeviceRow.ofDevice device).toDevice

/-- A challenge as it is read back. -/
def readChallenge : Resolution → Challenge → Except AuthError Challenge
  | nanoseconds, challenge => .ok challenge
  | milliseconds, challenge => (ChallengeRow.ofChallenge challenge).toChallenge

/-- A session as it is read back. -/
def readSession : Resolution → Session → Except AuthError Session
  | nanoseconds, session => .ok session
  | milliseconds, session => (SessionRow.ofSession session).toSession

/-- Records as the contents of a storage. -/
def write (logged : Bool) (records : MemoryStore) : Resolution → MemoryStore ⊕ Database
  | nanoseconds => .inl records
  | milliseconds => .inr (records.tables logged)

end Resolution

/-! ### Reading back -/

theorem Cell.of_readInstant {instant moment : Instant} {index : Nat} {name : String}
    (read : (ofInstant instant).readInstant index name = .ok moment) :
    moment.IsWhole ∧ moment.toMillis = instant.toMillis := by
  simp only [readInstant, ofInstant, readInteger, bind, Except.bind] at read
  rcases found : Instant.ofMillis? instant.toMillis with _ | held <;> rw [found] at read <;>
    cases read
  exact Instant.of_ofMillis? found

/-- What is read back of a session. -/
theorem SessionRow.of_toSession {session found : Session}
    (read : (ofSession session).toSession = .ok found) :
    found.sessionId = session.sessionId ∧ found.deviceId = session.deviceId ∧
      found.expiresAt.IsWhole ∧ found.expiresAt.toMillis = session.expiresAt.toMillis := by
  unfold toSession at read
  rcases created : (ofSession session).createdAt.readInstant 3 "created_at" with _ | createdAt
  · rw [created] at read; cases read
  rcases expires : (ofSession session).expiresAt.readInstant 4 "expires_at" with _ | expiresAt
  · rw [created, expires] at read; cases read
  rcases used : (ofSession session).lastUsedAt.readInstant 5 "last_used_at" with _ | lastUsedAt
  · rw [created, expires, used] at read; cases read
  rw [created, expires, used] at read
  cases read
  exact ⟨rfl, rfl, Cell.of_readInstant expires⟩

/-- What is read back of a challenge. -/
theorem ChallengeRow.of_toChallenge {challenge found : Challenge}
    (read : (ofChallenge challenge).toChallenge = .ok found) :
    found.challengeId = challenge.challengeId ∧ found.deviceId = challenge.deviceId ∧
      found.expiresAt.IsWhole ∧ found.expiresAt.toMillis = challenge.expiresAt.toMillis := by
  unfold toChallenge at read
  rcases nonce : readWord 2 (ofChallenge challenge).nonce with _ | nonce
  · rw [nonce] at read; cases read
  rcases created : (ofChallenge challenge).createdAt.readInstant 3 "created_at" with _ | createdAt
  · rw [nonce, created] at read; cases read
  rcases expires : (ofChallenge challenge).expiresAt.readInstant 4 "expires_at" with _ | expiresAt
  · rw [nonce, created, expires] at read; cases read
  rw [nonce, created, expires] at read
  cases read
  exact ⟨rfl, rfl, Cell.of_readInstant expires⟩

namespace Resolution

variable {resolution : Resolution}

theorem of_readSession {session found : Session}
    (read : resolution.readSession session = .ok found) :
    found.sessionId = session.sessionId ∧ found.deviceId = session.deviceId ∧
      (∀ now, resolution.isPast found.expiresAt now = resolution.isPast session.expiresAt now) ∧
      (resolution = .milliseconds → found.expiresAt.IsWhole) := by
  cases resolution
  · cases read
    exact ⟨rfl, rfl, fun _ => rfl, nofun⟩
  · obtain ⟨named, owned, whole, same⟩ := SessionRow.of_toSession read
    exact ⟨named, owned, fun now => by simp only [isPast, same], fun _ => whole⟩

theorem of_readChallenge {challenge found : Challenge}
    (read : resolution.readChallenge challenge = .ok found) :
    found.challengeId = challenge.challengeId ∧ found.deviceId = challenge.deviceId ∧
      (∀ now, resolution.isPast found.expiresAt now =
        resolution.isPast challenge.expiresAt now) ∧
      (resolution = .milliseconds → found.expiresAt.IsWhole) := by
  cases resolution
  · cases read
    exact ⟨rfl, rfl, fun _ => rfl, nofun⟩
  · obtain ⟨named, owned, whole, same⟩ := ChallengeRow.of_toChallenge read
    exact ⟨named, owned, fun now => by simp only [isPast, same], fun _ => whole⟩

theorem used_of_readChallenge {challenge found : Challenge}
    (read : resolution.readChallenge challenge = .ok found) : found.used = challenge.used := by
  cases resolution
  · cases read
    rfl
  · have unused : found.used = false ↔
        ((ChallengeRow.ofChallenge challenge).used == .integer 0) = true :=
      (Database.of_toChallenge read).2.trans beq_iff_eq.symm
    rw [MemoryStore.unused_ofChallenge, Bool.not_eq_true'] at unused
    exact Bool.eq_iff_iff.mpr (by simpa using not_congr unused)

end Resolution

/-- What is read of a dictionary is read from one of its values. -/
theorem Dictionary.exists_of_read {α : Type} {entries : Dictionary α}
    {read : α → Except AuthError α} {id : String} {found : α}
    (held : (entries.get? id).mapM read = .ok (some found)) :
    ∃ value, entries.get? id = some value ∧ read value = .ok found := by
  rcases inside : entries.get? id with _ | value <;> rw [inside] at held
  · cases held
  · rcases content : read value with _ | other <;>
      simp only [Option.mapM_some, content] at held <;> cases held
    exact ⟨value, rfl, content⟩

/-- Whether a request neither adds a session nor makes one last longer. -/
def Request.Shortens : Request → Prop
  | addSession _ | prolongSession _ _ _ => False
  | _ => True

/-- **The records that a request makes of others.** -/
def Request.applied (resolution : Resolution) (records : MemoryStore) : Request → MemoryStore
  | enroll added =>
    if DeviceId.encodable added.deviceId then
      { records with devices := records.devices.put added.deviceId added }
    else records
  | addChallenge added =>
    if (records.challenges.get? added.challengeId).isSome then records
    else { records with challenges := records.challenges.put added.challengeId added }
  | addSession added =>
    if resolution = .milliseconds ∧ (records.sessions.get? added.sessionId).isSome then records
    else { records with sessions := records.sessions.put added.sessionId added }
  | spendChallenge challengeId => (records.spendChallenge challengeId).2
  | dropChallenges moment =>
    { records with
      challenges := (MemoryStore.dropExpired
        (fun challenge => resolution.isPast challenge.expiresAt moment) records.challenges).2 }
  | noteUse sessionId usedAt =>
    (records.updateSession sessionId fun session => { session with lastUsedAt := usedAt }).2
  | prolongSession sessionId expiresAt token =>
    (records.updateSession sessionId fun session => { session with expiresAt, token }).2
  | removeSession sessionId => (records.removeSession sessionId).2
  | dropSessions moment =>
    { records with
      sessions := (MemoryStore.dropExpired
        (fun session => resolution.isPast session.expiresAt moment) records.sessions).2 }
  | _ => records

theorem Request.fewer_applied (resolution : Resolution) (records : MemoryStore)
    (request : Request) (shortens : request.Shortens) :
    records.Fewer (request.applied resolution records) := by
  cases request with
  | addSession _ | prolongSession _ _ _ => cases shortens
  | enroll _ | addChallenge _ =>
    simp only [applied]
    split <;> exact .of_sessions rfl
  | spendChallenge challengeId => exact .spendChallenge _ _
  | noteUse sessionId usedAt => exact .updateSession _ _ _ fun _ => ⟨rfl, rfl⟩
  | removeSession sessionId => exact .removeSession _ _
  | dropSessions moment => exact .filter _
  | _ => exact .of_sessions rfl

namespace Storage

/-! ### Places that can be written -/

/-- Records can be changed in the place of a storage. -/
def Writable (storage : Storage) : Prop :=
  match storage.place with
  | .file _ writable => writable = true
  | _ => True

section Change

variable {α : Type} {storage : Storage}
  {inMemory : MemoryStore → Except AuthError (α × MemoryStore)}
  {inDatabase : Database → Except AuthError (α × Database)} {answer : α}

theorem change_inl {records kept : MemoryStore} (inside : storage.contents = some (.inl records))
    (step : inMemory records = .ok (answer, kept)) :
    ∃ after, storage.change inMemory inDatabase = .ok (answer, after) ∧
      after.contents = some (.inl kept) ∧ after.Writable := by
  obtain ⟨place, disk⟩ := storage
  cases place with
  | memory held =>
    cases inside
    exact ⟨⟨.memory kept, disk⟩, by simp only [change, step]; rfl, rfl, trivial⟩
  | unnamed _ | named _ => cases inside
  | file location writable =>
    simp only [contents] at inside
    split at inside <;> cases inside

theorem change_inr {database kept : Database} (inside : storage.contents = some (.inr database))
    (writable : storage.Writable) (step : inDatabase database = .ok (answer, kept)) :
    ∃ after, storage.change inMemory inDatabase = .ok (answer, after) ∧
      after.contents = some (.inr kept) ∧ after.Writable := by
  obtain ⟨place, disk⟩ := storage
  cases place with
  | memory _ => cases inside
  | unnamed held =>
    cases inside
    exact ⟨⟨.unnamed kept, disk⟩, by simp only [change, step]; rfl, rfl, trivial⟩
  | named name =>
    cases inside
    refine ⟨⟨.named name, disk.insertNamed name kept⟩, by simp only [change, step]; rfl, ?_,
      trivial⟩
    simp [contents, Files.Tree.insertNamed]
  | file location may =>
    simp only [contents] at inside
    split at inside <;> cases inside
    next entry =>
    have below : location ≠ [] := by
      rintro rfl
      cases entry
    obtain rfl : may = true := writable
    refine ⟨⟨.file location true, disk.insert location (.database kept)⟩, ?_, ?_, rfl⟩
    · simp only [change, entry, step]
      rfl
    · simp only [contents, Files.Tree.find?_insert _ _ below]

end Change

/-! ### Keeping records -/

/-- **A storage keeps exactly these records,** and can be changed. -/
structure Keeps (resolution : Resolution) (records : MemoryStore) (storage : Storage) : Prop where
  tidy : records.Tidy
  writable : storage.Writable
  contents : ∃ logged, storage.contents = some (resolution.write logged records)

namespace Keeps

variable {resolution : Resolution} {records kept : MemoryStore} {storage : Storage}

/-- What is read of the records is read of the storage. -/
theorem look {α : Type} (keeps : storage.Keeps resolution records)
    {inMemory : MemoryStore → Except AuthError α} {inDatabase : Database → Except AuthError α}
    {answer : Except AuthError α}
    (ofMemory : resolution = .nanoseconds → inMemory records = answer)
    (ofTables : resolution = .milliseconds → ∀ logged,
      inDatabase (records.tables logged) = answer) :
    storage.look inMemory inDatabase = answer := by
  obtain ⟨logged, inside⟩ := keeps.contents
  rw [look_eq, inside]
  cases resolution
  · exact ofMemory rfl
  · exact ofTables rfl logged

/-- What is done to the records is done to the storage. -/
theorem change {α : Type} (keeps : storage.Keeps resolution records) (tidy : kept.Tidy)
    {inMemory : MemoryStore → Except AuthError (α × MemoryStore)}
    {inDatabase : Database → Except AuthError (α × Database)} {answer : α}
    (ofMemory : resolution = .nanoseconds → inMemory records = .ok (answer, kept))
    (ofTables : resolution = .milliseconds → ∀ logged,
      inDatabase (records.tables logged) = .ok (answer, kept.tables logged)) :
    ∃ after, storage.change inMemory inDatabase = .ok (answer, after) ∧
      after.Keeps resolution kept := by
  obtain ⟨logged, inside⟩ := keeps.contents
  cases resolution
  · obtain ⟨after, changed, now, writable⟩ := change_inl inside (ofMemory rfl)
    exact ⟨after, changed, tidy, writable, logged, now⟩
  · obtain ⟨after, changed, now, writable⟩ :=
      change_inr inside keeps.writable (ofTables rfl logged)
    exact ⟨after, changed, tidy, writable, logged, now⟩

/-- A change without another answer is a change. -/
theorem write (keeps : storage.Keeps resolution records) (tidy : kept.Tidy)
    {inMemory : MemoryStore → Except AuthError MemoryStore}
    {inDatabase : Database → Except AuthError Database}
    (ofMemory : resolution = .nanoseconds → inMemory records = .ok kept)
    (ofTables : resolution = .milliseconds → ∀ logged,
      inDatabase (records.tables logged) = .ok (kept.tables logged)) :
    ∃ after, storage.write inMemory inDatabase = .ok after ∧ after.Keeps resolution kept := by
  have changes : ∃ after, storage.change (fun records => return ((), ← inMemory records))
      (fun database => return ((), ← inDatabase database)) = .ok ((), after) ∧
        after.Keeps resolution kept :=
    keeps.change tidy (fun same => by rw [ofMemory same]; rfl)
      fun same logged => by rw [ofTables same logged]; rfl
  obtain ⟨after, changed, now⟩ := changes
  refine ⟨after, ?_, now⟩
  rw [Storage.write, changed]
  rfl

/-- A change of the records that fails, fails in the storage. -/
theorem write_error (keeps : storage.Keeps resolution records)
    {inMemory : MemoryStore → Except AuthError MemoryStore}
    {inDatabase : Database → Except AuthError Database} {error : AuthError}
    (ofMemory : resolution = .nanoseconds → inMemory records = .error error)
    (ofTables : resolution = .milliseconds → ∀ logged,
      inDatabase (records.tables logged) = .error error) :
    storage.write inMemory inDatabase = .error error := by
  obtain ⟨logged, inside⟩ := keeps.contents
  have writable := keeps.writable
  obtain ⟨place, disk⟩ := storage
  cases resolution
  · cases place with
    | memory held =>
      cases inside
      simp only [Storage.write, Storage.change, ofMemory rfl]
      rfl
    | unnamed _ | named _ => cases inside
    | file location may =>
      simp only [Storage.contents] at inside
      split at inside <;> cases inside
  · have failed := ofTables rfl logged
    simp only [Resolution.write] at inside
    generalize records.tables logged = database at inside failed
    cases place with
    | memory _ => cases inside
    | unnamed _ | named _ =>
      cases inside
      simp only [Storage.write, Storage.change, failed]
      rfl
    | file location may =>
      simp only [Storage.contents] at inside
      split at inside <;> cases inside
      next entry =>
      obtain rfl : may = true := writable
      simp only [Storage.write, Storage.change, entry, failed]
      rfl

/-! ### One lemma for each request -/

theorem device (keeps : storage.Keeps resolution records) (deviceId : String) :
    RecordStore.device deviceId storage =
      (records.devices.get? deviceId).mapM resolution.readDevice := by
  refine keeps.look ?_ ?_
  · rintro rfl
    cases held : records.devices.get? deviceId <;> simp [RecordStore.device, held] <;> rfl
  · rintro rfl logged
    exact MemoryStore.device_tables keeps.tidy deviceId

theorem challenge (keeps : storage.Keeps resolution records) (challengeId : String) :
    RecordStore.challenge challengeId storage =
      (records.challenges.get? challengeId).mapM resolution.readChallenge := by
  refine keeps.look ?_ ?_
  · rintro rfl
    cases held : records.challenges.get? challengeId <;> simp [RecordStore.challenge, held] <;> rfl
  · rintro rfl logged
    exact MemoryStore.challenge_tables keeps.tidy challengeId

theorem session (keeps : storage.Keeps resolution records) (sessionId : String) :
    RecordStore.session sessionId storage =
      (records.sessions.get? sessionId).mapM resolution.readSession := by
  refine keeps.look ?_ ?_
  · rintro rfl
    cases held : records.sessions.get? sessionId <;> simp [RecordStore.session, held] <;> rfl
  · rintro rfl logged
    exact MemoryStore.session_tables keeps.tidy sessionId

/-- The devices that hold a session, each once. -/
theorem liveDevices (keeps : storage.Keeps resolution records) (now : Instant) :
    ∃ live, RecordStore.liveDevices now storage = .ok live ∧ live.Nodup ∧
      ∀ deviceId, deviceId ∈ live ↔
        deviceId ∈ records.holders fun session => resolution.isPast session.expiresAt now := by
  have listed : ∀ holders : List String, holders.eraseDups.Nodup ∧
      ∀ deviceId, deviceId ∈ holders.eraseDups ↔ deviceId ∈ holders :=
    fun holders => ⟨nodup_eraseDups holders, fun _ => List.mem_eraseDups⟩
  cases resolution
  · exact ⟨_, keeps.look (fun _ => rfl) nofun, listed _⟩
  · refine ⟨_, keeps.look nofun fun _ logged =>
      congrArg Except.ok (MemoryStore.liveDevices_tables now), ?_⟩
    obtain ⟨nodup, listed⟩ := listed _
    exact ⟨nodup, fun deviceId => (listed deviceId).trans List.mem_reverse⟩

theorem enroll (keeps : storage.Keeps resolution records) {device : Credential} {word : Word256}
    (encoded : DeviceId.encode device.deviceId = .ok word) :
    ∃ after, RecordStore.enroll device storage = .ok after ∧ after.Keeps resolution
      { records with devices := records.devices.put device.deviceId device } := by
  have inMemory : RecordStore.enroll device records =
      .ok { records with devices := records.devices.put device.deviceId device } := by
    simp only [RecordStore.enroll, MemoryStore.enroll, encoded]
    rfl
  refine keeps.write (keeps.tidy.enroll device) (fun _ => inMemory) fun _ logged => ?_
  rw [MemoryStore.enroll_tables keeps.tidy, inMemory]
  rfl

/-- A device whose id cannot be encoded is refused. -/
theorem enroll_refused (keeps : storage.Keeps resolution records) {device : Credential}
    {error : ZkpError} (failed : DeviceId.encode device.deviceId = .error error) :
    RecordStore.enroll device storage = .error (.ofZkp error) := by
  have inMemory : RecordStore.enroll device records = .error (.ofZkp error) := by
    simp only [RecordStore.enroll, MemoryStore.enroll, failed]
    rfl
  refine keeps.write_error (fun _ => inMemory) fun _ logged => ?_
  rw [MemoryStore.enroll_tables keeps.tidy, inMemory]
  rfl

theorem addChallenge (keeps : storage.Keeps resolution records) {challenge : Challenge}
    (absent : records.challenges.get? challenge.challengeId = none) :
    ∃ after, RecordStore.addChallenge challenge storage = .ok after ∧ after.Keeps resolution
      { records with challenges := records.challenges.put challenge.challengeId challenge } := by
  refine keeps.write (keeps.tidy.addChallenge challenge) (fun _ => ?_) fun _ logged => ?_
  · simp only [RecordStore.addChallenge, MemoryStore.addChallenge, absent]
  · rw [MemoryStore.addChallenge_tables keeps.tidy, absent]

/-- A challenge whose id is taken is refused. -/
theorem addChallenge_taken (keeps : storage.Keeps resolution records) {challenge : Challenge}
    (taken : (records.challenges.get? challenge.challengeId).isSome) :
    ∃ detail, RecordStore.addChallenge challenge storage = .error (.storage detail) := by
  obtain ⟨held, found⟩ := Option.isSome_iff_exists.mp taken
  cases resolution
  · refine ⟨"duplicate challenge id " ++ challenge.challengeId,
      keeps.write_error (fun _ => ?_) nofun⟩
    simp only [RecordStore.addChallenge, MemoryStore.addChallenge, found]
  · refine ⟨"UNIQUE constraint failed: challenges.challenge_id",
      keeps.write_error nofun fun _ logged => ?_⟩
    rw [MemoryStore.addChallenge_tables keeps.tidy, found]

/-- A challenge that has been added had a new id, and is kept. -/
theorem of_addChallenge (keeps : storage.Keeps resolution records) {challenge : Challenge}
    {after : Storage} (added : RecordStore.addChallenge challenge storage = .ok after) :
    records.challenges.get? challenge.challengeId = none ∧ after.Keeps resolution
      { records with challenges := records.challenges.put challenge.challengeId challenge } := by
  rcases held : records.challenges.get? challenge.challengeId with _ | _
  · obtain ⟨kept, addedToo, now⟩ := keeps.addChallenge held
    rw [added] at addedToo
    cases addedToo
    exact ⟨rfl, now⟩
  · obtain ⟨_, refused⟩ := keeps.addChallenge_taken (Option.isSome_of_eq_some held)
    rw [refused] at added
    cases added

theorem addSession (keeps : storage.Keeps resolution records) {session : Session}
    (free : resolution = .milliseconds → records.sessions.get? session.sessionId = none) :
    ∃ after, RecordStore.addSession session storage = .ok after ∧ after.Keeps resolution
      { records with sessions := records.sessions.put session.sessionId session } := by
  refine keeps.write (keeps.tidy.addSession session) (fun _ => rfl) fun same logged => ?_
  rw [MemoryStore.addSession_tables keeps.tidy, free same]

/-- A database refuses a session whose id is taken. -/
theorem addSession_taken (keeps : storage.Keeps .milliseconds records) {session : Session}
    (taken : (records.sessions.get? session.sessionId).isSome) :
    ∃ detail, RecordStore.addSession session storage = .error (.storage detail) := by
  obtain ⟨held, found⟩ := Option.isSome_iff_exists.mp taken
  refine ⟨"UNIQUE constraint failed: sessions.session_id",
    keeps.write_error nofun fun _ logged => ?_⟩
  rw [MemoryStore.addSession_tables keeps.tidy, found]

/-- A session that has been added is kept, in place of any other with its id. -/
theorem of_addSession (keeps : storage.Keeps resolution records) {session : Session}
    {after : Storage} (added : RecordStore.addSession session storage = .ok after) :
    after.Keeps resolution
      { records with sessions := records.sessions.put session.sessionId session } := by
  -- A database would have refused an id that is taken.
  have free : resolution = .milliseconds → records.sessions.get? session.sessionId = none := by
    rintro rfl
    rcases held : records.sessions.get? session.sessionId with _ | _
    · rfl
    · obtain ⟨detail, refused⟩ := keeps.addSession_taken (Option.isSome_of_eq_some held)
      rw [refused] at added
      cases added
  obtain ⟨kept, addedToo, now⟩ := keeps.addSession free
  rw [added] at addedToo
  cases addedToo
  exact now

theorem spendChallenge (keeps : storage.Keeps resolution records) (challengeId : String) :
    ∃ after, RecordStore.spendChallenge challengeId storage =
        .ok ((records.spendChallenge challengeId).1, after) ∧
      after.Keeps resolution (records.spendChallenge challengeId).2 :=
  keeps.change (keeps.tidy.spendChallenge challengeId) (fun _ => rfl) fun _ _ =>
    congrArg Except.ok (MemoryStore.spendChallenge_tables keeps.tidy challengeId)

theorem of_spendChallenge (keeps : storage.Keeps resolution records) {challengeId : String}
    {spent : Bool} {after : Storage}
    (spends : RecordStore.spendChallenge challengeId storage = .ok (spent, after)) :
    after.Keeps resolution (records.spendChallenge challengeId).2 := by
  obtain ⟨kept, spendsToo, now⟩ := keeps.spendChallenge challengeId
  rw [spends] at spendsToo
  cases spendsToo
  exact now

theorem dropChallenges (keeps : storage.Keeps resolution records) (now : Instant) :
    ∃ after, RecordStore.dropChallenges now storage =
        .ok ((MemoryStore.dropExpired (fun challenge => resolution.isPast challenge.expiresAt now)
          records.challenges).1, after) ∧
      after.Keeps resolution { records with
        challenges := (MemoryStore.dropExpired
          (fun challenge => resolution.isPast challenge.expiresAt now) records.challenges).2 } := by
  refine keeps.change (keeps.tidy.dropChallenges _) ?_ ?_
  · rintro rfl
    rfl
  · rintro rfl logged
    exact MemoryStore.dropChallenges_tables now

theorem noteUse (keeps : storage.Keeps resolution records) (sessionId : String)
    (usedAt : Instant) :
    ∃ after, RecordStore.noteUse sessionId usedAt storage =
        .ok ((records.updateSession sessionId fun session =>
          { session with lastUsedAt := usedAt }).1, after) ∧
      after.Keeps resolution (records.updateSession sessionId fun session =>
        { session with lastUsedAt := usedAt }).2 := by
  refine keeps.change ?_ (fun _ => rfl) fun _ _ => ?_
  · exact keeps.tidy.updateSession sessionId _ fun _ => rfl
  · exact congrArg Except.ok
      (MemoryStore.updateSession_tables keeps.tidy sessionId _ _ fun _ => rfl)

theorem prolongSession (keeps : storage.Keeps resolution records) (sessionId : String)
    (expiresAt : Instant) (token : String) :
    ∃ after, RecordStore.prolongSession sessionId expiresAt token storage =
        .ok ((records.updateSession sessionId fun session =>
          { session with expiresAt, token }).1, after) ∧
      after.Keeps resolution (records.updateSession sessionId fun session =>
        { session with expiresAt, token }).2 := by
  refine keeps.change ?_ (fun _ => rfl) fun _ _ => ?_
  · exact keeps.tidy.updateSession sessionId _ fun _ => rfl
  · exact congrArg Except.ok
      (MemoryStore.updateSession_tables keeps.tidy sessionId _ _ fun _ => rfl)

theorem of_prolongSession (keeps : storage.Keeps resolution records) {sessionId : String}
    {expiresAt : Instant} {token : String} {found : Bool} {after : Storage}
    (prolonged : RecordStore.prolongSession sessionId expiresAt token storage =
      .ok (found, after)) :
    after.Keeps resolution (records.updateSession sessionId fun session =>
      { session with expiresAt, token }).2 := by
  obtain ⟨kept, prolongedToo, now⟩ := keeps.prolongSession sessionId expiresAt token
  rw [prolonged] at prolongedToo
  cases prolongedToo
  exact now

theorem removeSession (keeps : storage.Keeps resolution records) (sessionId : String) :
    ∃ after, RecordStore.removeSession sessionId storage =
        .ok ((records.removeSession sessionId).1, after) ∧
      after.Keeps resolution (records.removeSession sessionId).2 :=
  keeps.change (keeps.tidy.removeSession sessionId) (fun _ => rfl) fun _ _ =>
    congrArg Except.ok (MemoryStore.removeSession_tables keeps.tidy sessionId)

theorem dropSessions (keeps : storage.Keeps resolution records) (now : Instant) :
    ∃ after, RecordStore.dropSessions now storage =
        .ok ((MemoryStore.dropExpired (fun session => resolution.isPast session.expiresAt now)
          records.sessions).1, after) ∧
      after.Keeps resolution { records with
        sessions := (MemoryStore.dropExpired
          (fun session => resolution.isPast session.expiresAt now) records.sessions).2 } := by
  refine keeps.change (keeps.tidy.dropSessions _) ?_ ?_
  · rintro rfl
    rfl
  · rintro rfl logged
    exact MemoryStore.dropSessions_tables now

/-! ### The ledger of the records -/

theorem filed (keeps : storage.Keeps resolution records) :
    (LedgerStore.ledger storage).filed := by
  obtain ⟨logged, inside⟩ := keeps.contents
  change storage.ledger.filed
  cases resolution
  · rw [ledger_inl inside]
    exact keeps.tidy.devices.keyed
  · rw [ledger_inr inside]
    trivial

/-- Every session that is kept is in the ledger. -/
theorem ledger_session (keeps : storage.Keeps resolution records) {sessionId : String}
    {session : Session} (member : (sessionId, session) ∈ records.sessions) :
    (LedgerStore.ledger storage).sessions sessionId session.deviceId := by
  obtain ⟨logged, inside⟩ := keeps.contents
  change storage.ledger.sessions sessionId session.deviceId
  cases resolution
  · rw [ledger_inl inside]
    exact ⟨session, member, rfl⟩
  · rw [ledger_inr inside]
    have own := keeps.tidy.sessions.keyed sessionId session member
    exact ⟨.ofSession session, Dictionary.mem_rows.mpr ⟨sessionId, session, member, rfl⟩,
      congrArg some own, rfl⟩

/-! ### Any request -/

/-- **After any request the records are kept that it makes of them,** at the same resolution. -/
theorem applied {state : State Storage} (keeps : state.store.Keeps resolution records)
    (request : Request) :
    (request.perform state).2.store.Keeps resolution (request.applied resolution records) := by
  cases request with
  | enroll device =>
    rcases encoded : DeviceId.encode device.deviceId with error | word
    · have refused : DeviceId.encodable device.deviceId = false := by
        rw [DeviceId.encodable, encoded]
        rfl
      simp only [Request.perform, Request.applied, keeps.enroll_refused encoded, refused]
      exact keeps
    · have accepted : DeviceId.encodable device.deviceId = true := by
        rw [DeviceId.encodable, encoded]
        rfl
      obtain ⟨after, answered, now⟩ := keeps.enroll encoded
      simp only [Request.perform, Request.applied, answered, accepted]
      exact now
  | addChallenge challenge =>
    rcases held : records.challenges.get? challenge.challengeId with _ | _
    · obtain ⟨after, answered, now⟩ := keeps.addChallenge held
      simp only [Request.perform, Request.applied, answered, held]
      exact now
    · obtain ⟨detail, refused⟩ := keeps.addChallenge_taken (Option.isSome_of_eq_some held)
      simp only [Request.perform, Request.applied, refused, held]
      exact keeps
  | addSession session =>
    simp only [Request.applied]
    split
    · next taken =>
      obtain ⟨rfl, some⟩ := taken
      obtain ⟨detail, refused⟩ := keeps.addSession_taken some
      simp only [Request.perform, refused]
      exact keeps
    · next free =>
      obtain ⟨after, answered, now⟩ := keeps.addSession fun same =>
        Option.not_isSome_iff_eq_none.mp fun some => free ⟨same, some⟩
      simp only [Request.perform, answered]
      exact now
  | spendChallenge challengeId =>
    obtain ⟨after, answered, now⟩ := keeps.spendChallenge challengeId
    simp only [Request.perform, answered]
    exact now
  | dropChallenges moment =>
    obtain ⟨after, answered, now⟩ := keeps.dropChallenges moment
    simp only [Request.perform, answered]
    exact now
  | noteUse sessionId usedAt =>
    obtain ⟨after, answered, now⟩ := keeps.noteUse sessionId usedAt
    simp only [Request.perform, answered]
    exact now
  | prolongSession sessionId expiresAt token =>
    obtain ⟨after, answered, now⟩ := keeps.prolongSession sessionId expiresAt token
    simp only [Request.perform, answered]
    exact now
  | removeSession sessionId =>
    obtain ⟨after, answered, now⟩ := keeps.removeSession sessionId
    simp only [Request.perform, answered]
    exact now
  | dropSessions moment =>
    obtain ⟨after, answered, now⟩ := keeps.dropSessions moment
    simp only [Request.perform, answered]
    exact now
  | now | device _ | challenge _ | session _ | liveDevices _ | failures _ | countFailure _
  | forgetFailures _ | license => exact keeps

/-- **After any request some records are kept,** at the same resolution, and there are no more
sessions and none that last longer unless the request says so. -/
theorem perform {state : State Storage} (keeps : state.store.Keeps resolution records)
    (request : Request) : ∃ kept, (request.perform state).2.store.Keeps resolution kept ∧
      (request.Shortens → records.Fewer kept) :=
  ⟨_, keeps.applied request, request.fewer_applied resolution records⟩

end Keeps

/-! ### Storages that requests have brought about -/

/-- No records are kept. -/
def Vacant (storage : Storage) : Prop :=
  storage.contents = some (.inl .empty) ∨
    ∃ logged, storage.contents = some (.inr { Database.empty with logged })

/-- **A storage that was written by requests alone,** in a place that can be written. -/
inductive Written : Storage → Prop
  | vacant {storage : Storage} : storage.Writable → storage.Vacant → Written storage
  | perform (request : Request) (state : State Storage) :
      Written state.store → Written (request.perform state).2.store

/-- It keeps records. -/
theorem Written.keeps {storage : Storage} (written : storage.Written) :
    ∃ resolution records, storage.Keeps resolution records := by
  induction written with
  | vacant writable vacant =>
    rcases vacant with inside | ⟨logged, inside⟩
    · exact ⟨.nanoseconds, .empty, MemoryStore.tidy_empty, writable, true, inside⟩
    · exact ⟨.milliseconds, .empty, MemoryStore.tidy_empty, writable, logged, inside⟩
  | perform request state _ ih =>
    obtain ⟨resolution, records, keeps⟩ := ih
    obtain ⟨kept, now, _⟩ := keeps.perform request
    exact ⟨resolution, kept, now⟩

end Storage

end DeviceAuth
