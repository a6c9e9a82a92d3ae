import DeviceAuth.Proofs.Auth.History
import DeviceAuth.Proofs.Auth.Kept

/-!
**Expiry is decided in two ways:** on a record that has been read, and for all records at once when
expired ones are removed or live devices are listed. In memory both compare instants as they are. A
database compares milliseconds when it decides for all at once, so within the millisecond of its
expiry a record has expired for who reads it, and not for who removes expired records or lists the
live devices.

* `Storage.ExpiryAgrees`: the two ways agree at an instant.
* `Resolution.isPast_eq_decide`: for one record they agree unless it is `JustPast`.
* `expiryAgrees_iff`: they agree in a storage exactly if it is in memory or no record in it has just
  expired.
-/

namespace DeviceAuth

open Storage

/-- An expiry is past, in the same millisecond. -/
def JustPast (expiry now : Instant) : Prop :=
  expiry < now ∧ expiry.toMillis = now.toMillis

/-- **What is removed, and who is live, is what the records say that are read.** -/
structure Storage.ExpiryAgrees (now : Instant) (storage : Storage) : Prop where
  /-- Exactly the challenges that have expired when they are read are removed. -/
  challenges : ∃ count after, RecordStore.dropChallenges now storage = .ok (count, after) ∧
    ∀ id found, RecordStore.challenge id storage = .ok found →
      RecordStore.challenge id after = .ok (found.filter fun challenge => !challenge.hasExpired now)
  /-- Exactly the sessions that have expired when they are read are removed. -/
  sessions : ∃ count after, RecordStore.dropSessions now storage = .ok (count, after) ∧
    ∀ id found, RecordStore.session id storage = .ok found →
      RecordStore.session id after = .ok (found.filter fun session => !session.hasExpired now)
  /-- The devices of exactly the other sessions are live. -/
  live : ∃ live, RecordStore.liveDevices now storage = .ok live ∧
    ∀ deviceId, deviceId ∈ live ↔ ∃ id session,
      RecordStore.session id storage = .ok (some session) ∧
        session.hasExpired now = false ∧ session.deviceId = deviceId

/-- No record that can be read has just expired. -/
structure Storage.NoneJustPast (now : Instant) (storage : Storage) : Prop where
  challenges : ∀ id challenge, RecordStore.challenge id storage = .ok (some challenge) →
    ¬ JustPast challenge.expiresAt now
  sessions : ∀ id session, RecordStore.session id storage = .ok (some session) →
    ¬ JustPast session.expiresAt now

/-- The records are kept in memory. -/
def Storage.InMemory (storage : Storage) : Prop :=
  ∃ records, storage.place = .memory records

/-! ### One record -/

namespace Resolution

variable {resolution : Resolution} {expiry now : Instant}

/-- In milliseconds an expiry is past if it is past and not just past. -/
theorem isPast_milliseconds (plain : expiry.isLeap = false) (plainNow : now.isLeap = false) :
    milliseconds.isPast expiry now = true ↔ expiry < now ∧ ¬ JustPast expiry now := by
  simp only [isPast, decide_eq_true_eq, JustPast]
  constructor
  · intro less
    exact ⟨Instant.lt_of_toMillis_lt plain plainNow less, fun same => by omega⟩
  · rintro ⟨less, apart⟩
    have monotone : expiry.toMillis ≤ now.toMillis := by
      refine Instant.toMillis_le plain plainNow ?_
      rw [Instant.le_def]
      rw [Instant.lt_def] at less
      omega
    have differs : expiry.toMillis ≠ now.toMillis := fun same => apart ⟨less, same⟩
    omega

/-- **For a record that has been read** both decisions agree, unless it has just expired in a
database. -/
theorem isPast_eq_decide (whole : resolution = .milliseconds → expiry.IsWhole)
    (plain : now.isLeap = false) (apart : resolution = .milliseconds → ¬ JustPast expiry now) :
    resolution.isPast expiry now = decide (expiry < now) := by
  cases resolution
  · rfl
  · rw [Bool.eq_iff_iff, isPast_milliseconds (whole rfl).plain plain, decide_eq_true_eq]
    exact and_iff_left (apart rfl)

end Resolution

/-! ### All records at once -/

namespace Storage

variable {resolution : Resolution} {records : MemoryStore} {storage : Storage} {now : Instant}

/-- A record of a dictionary is read back before and after some are dropped. -/
theorem read_filter {α : Type} {entries : Dictionary α} (distinct : entries.Distinct)
    {read : α → Except AuthError α} {isPast stale : α → Bool}
    (agree : ∀ value found, read value = .ok found → isPast value = stale found)
    {id : String} {found : Option α} (held : (entries.get? id).mapM read = .ok found) :
    (Dictionary.get? id (MemoryStore.dropExpired isPast entries).2).mapM read =
      .ok (found.filter fun value => !stale value) := by
  simp only [MemoryStore.dropExpired]
  rw [distinct.get?_filter fun value => !isPast value]
  rcases inside : entries.get? id with _ | value <;> rw [inside] at held
  · cases held
    rfl
  · rcases content : read value with _ | other
    · simp only [Option.mapM_some, content] at held
      cases held
    · simp only [Option.mapM_some, content] at held
      cases held
      have same := agree value other content
      cases past : stale other
      · simp only [Option.filter, same, past, Bool.not_false, ↓reduceIte, Option.mapM_some, content]
        rfl
      · simp only [Option.filter, same, past, Bool.not_true, Bool.false_eq_true, ↓reduceIte,
          Option.mapM_none]
        rfl

/-- Removing sessions leaves those that are not past, as they are read. -/
theorem Keeps.session_dropSessions (keeps : storage.Keeps resolution records) (now : Instant) :
    ∃ count after, RecordStore.dropSessions now storage = .ok (count, after) ∧
      ∀ id found, RecordStore.session id storage = .ok found →
        RecordStore.session id after =
          .ok (found.filter fun session => !resolution.isPast session.expiresAt now) := by
  obtain ⟨after, dropped, left⟩ := keeps.dropSessions now
  refine ⟨_, after, dropped, fun id found held => ?_⟩
  rw [keeps.session] at held
  rw [left.session]
  exact read_filter keeps.tidy.sessions.distinct
    (fun session other read => ((Resolution.of_readSession read).2.2.1 now).symm) held

/-- Removing challenges leaves those that are not past, as they are read. -/
theorem Keeps.challenge_dropChallenges (keeps : storage.Keeps resolution records)
    (now : Instant) :
    ∃ count after, RecordStore.dropChallenges now storage = .ok (count, after) ∧
      ∀ id found, RecordStore.challenge id storage = .ok found →
        RecordStore.challenge id after =
          .ok (found.filter fun challenge => !resolution.isPast challenge.expiresAt now) := by
  obtain ⟨after, dropped, left⟩ := keeps.dropChallenges now
  refine ⟨_, after, dropped, fun id found held => ?_⟩
  rw [keeps.challenge] at held
  rw [left.challenge]
  exact read_filter keeps.tidy.challenges.distinct
    (fun challenge other read => ((Resolution.of_readChallenge read).2.2.1 now).symm) held

/-- What is removed of the records in memory, or of those that have not just expired, is what has
expired. -/
theorem Keeps.expiryAgrees (keeps : storage.Keeps resolution records) (plain : now.isLeap = false)
    (readable : ∀ id, ∃ found, RecordStore.session id storage = .ok found)
    (apart : resolution = .milliseconds → storage.NoneJustPast now) : storage.ExpiryAgrees now := by
  have challengeAgrees : ∀ id challenge,
      RecordStore.challenge id storage = .ok (some challenge) →
        resolution.isPast challenge.expiresAt now = challenge.hasExpired now := by
    intro id challenge found
    obtain ⟨held, _, read⟩ := Dictionary.exists_of_read ((keeps.challenge id).symm.trans found)
    exact Resolution.isPast_eq_decide (Resolution.of_readChallenge read).2.2.2 plain
      fun same => (apart same).challenges id challenge found
  have sessionAgrees : ∀ id session, RecordStore.session id storage = .ok (some session) →
      resolution.isPast session.expiresAt now = session.hasExpired now := by
    intro id session found
    obtain ⟨held, _, read⟩ := Dictionary.exists_of_read ((keeps.session id).symm.trans found)
    exact Resolution.isPast_eq_decide (Resolution.of_readSession read).2.2.2 plain
      fun same => (apart same).sessions id session found
  refine ⟨?_, ?_, ?_⟩
  · obtain ⟨count, after, dropped, left⟩ := keeps.challenge_dropChallenges now
    refine ⟨count, after, dropped, fun id found held => ?_⟩
    rw [left id found held]
    rcases found with _ | challenge
    · rfl
    · simp only [Option.filter, challengeAgrees id challenge held]
  · obtain ⟨count, after, dropped, left⟩ := keeps.session_dropSessions now
    refine ⟨count, after, dropped, fun id found held => ?_⟩
    rw [left id found held]
    rcases found with _ | session
    · rfl
    · simp only [Option.filter, sessionAgrees id session held]
  · obtain ⟨live, listed, _, mem_iff⟩ := keeps.liveDevices now
    refine ⟨live, listed, fun deviceId => ?_⟩
    rw [mem_iff, MemoryStore.mem_holders]
    constructor
    -- Devices are listed by their rows, whether or not a row can be read as a session.
    · rintro ⟨id, held, inside, current, rfl⟩
      obtain ⟨found, answered⟩ := readable id
      have kept := keeps.tidy.sessions.distinct.get?_eq_some_iff.mpr inside
      have reading := (keeps.session id).symm.trans answered
      rw [kept] at reading
      rcases content : resolution.readSession held with _ | session <;>
        simp only [Option.mapM_some, content] at reading <;> cases reading
      obtain ⟨_, owned, same, _⟩ := Resolution.of_readSession content
      refine ⟨id, session, answered, ?_, owned⟩
      rw [← sessionAgrees id session answered, same, current]
    · rintro ⟨id, session, answered, current, rfl⟩
      obtain ⟨held, kept, read⟩ :=
        Dictionary.exists_of_read ((keeps.session id).symm.trans answered)
      obtain ⟨_, owned, same, _⟩ := Resolution.of_readSession read
      refine ⟨id, held, Dictionary.mem_of_get? kept, ?_, owned.symm⟩
      rw [← same, sessionAgrees id session answered, current]

/-- In a database a record that has just expired stays. -/
theorem Keeps.noneJustPast (keeps : storage.Keeps .milliseconds records)
    (agrees : storage.ExpiryAgrees now) :
    storage.NoneJustPast now := by
  refine ⟨fun id challenge found just => ?_, fun id session found just => ?_⟩
  · obtain ⟨_, after, dropped, left⟩ := agrees.challenges
    obtain ⟨_, _, droppedToo, stays⟩ := keeps.challenge_dropChallenges now
    rw [dropped] at droppedToo
    cases droppedToo
    have gone := (stays id _ found).symm.trans (left id _ found)
    have current : Resolution.milliseconds.isPast challenge.expiresAt now = false := by
      simp [Resolution.isPast, just.2]
    have expired : challenge.hasExpired now = true := decide_eq_true just.1
    simp [Option.filter, current, expired] at gone
  · obtain ⟨_, after, dropped, left⟩ := agrees.sessions
    obtain ⟨_, _, droppedToo, stays⟩ := keeps.session_dropSessions now
    rw [dropped] at droppedToo
    cases droppedToo
    have gone := (stays id _ found).symm.trans (left id _ found)
    have current : Resolution.milliseconds.isPast session.expiresAt now = false := by
      simp [Resolution.isPast, just.2]
    have expired : session.hasExpired now = true := decide_eq_true just.1
    simp [Option.filter, current, expired] at gone

/-- The records in memory are those that are kept in nanoseconds. -/
theorem Keeps.inMemory_iff (keeps : storage.Keeps resolution records) :
    storage.InMemory ↔ resolution = .nanoseconds := by
  obtain ⟨logged, inside⟩ := keeps.contents
  obtain ⟨place, disk⟩ := storage
  constructor
  · rintro ⟨held, rfl⟩
    cases resolution
    · rfl
    · cases inside
  · rintro rfl
    cases place with
    | memory held => exact ⟨held, rfl⟩
    | unnamed _ | named _ => cases inside
    | file location writable =>
      simp only [Storage.contents] at inside
      split at inside <;> cases inside

end Storage

/-- **When lazy and bulk expiry agree.** In a storage that requests have written and whose sessions
can all be read, at an instant outside leap seconds, removing expired records and listing live
devices go by what is read of each record if the records are in memory, and in a database exactly if
no record has just expired. Only a session that is timed to a leap second after the last instant
there is cannot be read back. -/
theorem expiryAgrees_iff {storage : Storage} (written : storage.Written) {now : Instant}
    (plain : now.isLeap = false)
    (readable : ∀ id, ∃ found, RecordStore.session id storage = .ok found) :
    storage.ExpiryAgrees now ↔ storage.InMemory ∨ storage.NoneJustPast now := by
  obtain ⟨resolution, records, keeps⟩ := written.keeps
  rw [keeps.inMemory_iff]
  constructor
  · intro agrees
    cases resolution
    · exact .inl rfl
    · exact .inr (keeps.noneJustPast agrees)
  · rintro (rfl | none)
    · exact keeps.expiryAgrees plain readable nofun
    · exact keeps.expiryAgrees plain readable fun _ => none

/-! A session in a database, half a millisecond after its expiry. -/

namespace Sample

/-- A session that expires with the beginning of 1970. -/
def brief : Session where
  sessionId := "session"
  deviceId := "device"
  token := ""
  createdAt := epoch
  expiresAt := epoch
  lastUsedAt := epoch

/-- A database with the session, and nothing else. -/
def tabled : Storage :=
  ((Request.addSession brief).perform
    { vacant with store := ⟨.unnamed .empty, ⟨[], [], []⟩⟩ }).2.store

/-- Half a millisecond later. -/
def halfway : Instant :=
  { epoch with
    nanos := 500000
    nanos_lt := by decide
    leap_aligned := by decide }

end Sample

open Sample in
theorem expiryAgrees_iff_halfway :
    ¬ tabled.ExpiryAgrees halfway ∧
      (tabled.ExpiryAgrees halfway ↔ tabled.InMemory ∨ tabled.NoneJustPast halfway) := by
  have written : tabled.Written := .perform _ _ (.vacant trivial (.inr ⟨true, rfl⟩))
  have readable : ∀ id, ∃ found, RecordStore.session id tabled = .ok found := by
    intro id
    change ∃ found, (List.find? (fun row : SessionRow => row.sessionId == some id)
      [.ofSession brief]).mapM SessionRow.toSession = .ok found
    cases hit : (SessionRow.ofSession brief).sessionId == some id <;> simp only [List.find?, hit]
    · exact ⟨none, rfl⟩
    · exact ⟨some brief, rfl⟩
  have iff : tabled.ExpiryAgrees halfway ↔ tabled.InMemory ∨ tabled.NoneJustPast halfway :=
    expiryAgrees_iff written (by decide) readable
  refine ⟨fun agrees => ?_, iff⟩
  rcases iff.mp agrees with ⟨_, elsewhere⟩ | none
  · cases elsewhere
  · exact none.sessions "session" brief rfl ⟨by decide, by decide⟩

end DeviceAuth
