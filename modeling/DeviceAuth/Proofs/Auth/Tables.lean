import DeviceAuth.Auth.Database
import DeviceAuth.Auth.MemoryStore
import DeviceAuth.Proofs.Auth.Ledger.Database
import DeviceAuth.Proofs.Dictionary

/-!
**Tables of records.** `MemoryStore.tables` writes the records of a store in memory as the rows of a
database, in the order in which they were put. What a database does to the rows is then what it does
to the records: it finds, adds, changes and removes the rows of the same records as the store in
memory. Three things differ. A record is read back from its row, so instants come back rounded down;
expiry is decided on milliseconds; and a second session with one id is refused.

* `Dictionary.rows` and the lemmas about it: each change of a table is a change of a dictionary.
* `MemoryStore.Tidy`: every record stands once and under its own id, and what keeps it so.
-/

namespace DeviceAuth

/-! ### Dictionaries as tables -/

namespace Dictionary

variable {α ρ : Type}

/-- Every value stands once, and under its own key. -/
structure Filed (keyOf : α → String) (dictionary : Dictionary α) : Prop where
  distinct : dictionary.Distinct
  keyed : ∀ key value, (key, value) ∈ dictionary → keyOf value = key

/-- The values as rows, the last that was put at the end. -/
def rows (write : α → ρ) (dictionary : Dictionary α) : List ρ :=
  (dictionary.values.map write).reverse

namespace Filed

variable {keyOf : α → String} {dictionary : Dictionary α}

theorem nil : Filed keyOf [] :=
  ⟨distinct_nil, fun _ _ member => by cases member⟩

theorem put (filed : dictionary.Filed keyOf) (value : α) :
    (dictionary.put (keyOf value) value).Filed keyOf := by
  refine ⟨filed.distinct.put _ _, fun key held member => ?_⟩
  rcases mem_put member with before | ⟨rfl, rfl⟩
  · exact filed.keyed key held before
  · rfl

theorem filter (filed : dictionary.Filed keyOf) (keeps : String × α → Bool) :
    Filed keyOf (dictionary.filter keeps) :=
  ⟨filed.distinct.filter keeps, fun key value member =>
    filed.keyed key value (List.mem_filter.mp member).1⟩

theorem update (filed : dictionary.Filed keyOf) (key : String) (change : α → α)
    (same : ∀ value, keyOf (change value) = keyOf value) :
    (dictionary.update key change).Filed keyOf := by
  refine ⟨filed.distinct.update key change, fun other value member => ?_⟩
  obtain ⟨held, inside, ⟨_, rfl⟩ | ⟨_, rfl⟩⟩ := mem_update member
  · rw [same]
    exact filed.keyed other held inside
  · exact filed.keyed other value inside

end Filed

section Rows

variable {keyOf : α → String} {write : α → ρ} {idOf : ρ → Option String}
  {dictionary : Dictionary α}

theorem mem_rows {row : ρ} :
    row ∈ dictionary.rows write ↔ ∃ key value, (key, value) ∈ dictionary ∧ write value = row := by
  simp [rows, values]

/-- The row that is found under an id is that of the record. -/
theorem row?_rows (filed : dictionary.Filed keyOf)
    (named : ∀ value, idOf (write value) = some (keyOf value)) (id : String) :
    Database.row? idOf id (dictionary.rows write) = (dictionary.get? id).map write := by
  rcases found : Database.row? idOf id (dictionary.rows write) with _ | row
  · rcases held : dictionary.get? id with _ | value
    · rfl
    · have member := mem_of_get? held
      have absent := List.find?_eq_none.mp found (write value)
        (mem_rows.mpr ⟨id, value, member, rfl⟩)
      simp [named, filed.keyed id value member] at absent
  · obtain ⟨key, value, member, rfl⟩ := mem_rows.mp (List.mem_of_find?_eq_some found)
    have same : keyOf value = id := by simpa [named] using List.find?_some found
    rw [filed.keyed key value member] at same
    subst same
    rw [filed.distinct.get?_eq_some_iff.mpr member]
    rfl

/-- Dropping rows drops records. -/
theorem filter_rows (write : α → ρ) (dictionary : Dictionary α) (keepsRow : ρ → Bool)
    (keeps : String × α → Bool)
    (agree : ∀ key value, (key, value) ∈ dictionary → keepsRow (write value) = keeps (key, value)) :
    (dictionary.rows write).filter keepsRow = rows write (dictionary.filter keeps) := by
  simp only [rows, values, List.filter_reverse, List.map_map]
  rw [List.filter_map]
  congr 2
  exact List.filter_congr fun entry member => agree entry.1 entry.2 member

/-- Putting a row in another's place puts a record. -/
theorem replaceRow_rows (filed : dictionary.Filed keyOf)
    (named : ∀ value, idOf (write value) = some (keyOf value)) (value : α) :
    Database.replaceRow idOf (write value) (dictionary.rows write) =
      rows write (dictionary.put (keyOf value) value) := by
  have dropped := filter_rows write dictionary
    (fun other => !Database.sameId idOf (write value) other) (fun entry => entry.1 ≠ keyOf value)
    (fun key held member => by
      rw [Bool.eq_iff_iff]
      simp [Database.sameId, named, filed.keyed key held member])
  rw [Database.replaceRow, dropped]
  simp [rows, values, put, erase]

/-- Whether a row of an id has some property is said by the record. -/
theorem any_rows (write : α → ρ) (filed : dictionary.Filed keyOf) (id : String)
    (hits : ρ → Bool) (holds : α → Bool)
    (agree : ∀ value, hits (write value) = (keyOf value == id && holds value)) :
    (dictionary.rows write).any hits = (dictionary.get? id).any holds := by
  rw [Bool.eq_iff_iff, List.any_eq_true, Option.any_eq_true]
  constructor
  · rintro ⟨row, member, hit⟩
    obtain ⟨key, value, inside, rfl⟩ := mem_rows.mp member
    simp only [agree, Bool.and_eq_true, beq_iff_eq] at hit
    have own := filed.keyed key value inside
    rw [hit.1] at own
    exact ⟨value, own ▸ filed.distinct.get?_eq_some_iff.mpr inside, hit.2⟩
  · rintro ⟨value, held, hit⟩
    have inside := mem_of_get? held
    have own := filed.keyed id value inside
    exact ⟨write value, mem_rows.mpr ⟨id, value, inside, rfl⟩, by simp [agree, own, hit]⟩

/-- A row can be inserted if there is no record with its id. -/
theorem insertRow_rows (filed : dictionary.Filed keyOf)
    (named : ∀ value, idOf (write value) = some (keyOf value)) (column : String) (value : α) :
    Database.insertRow column idOf (write value) (dictionary.rows write) =
      match dictionary.get? (keyOf value) with
      | some _ => .error (.storage ("UNIQUE constraint failed: " ++ column))
      | none => .ok (rows write (dictionary.put (keyOf value) value)) := by
  have taken : (dictionary.rows write).any (Database.sameId idOf (write value)) =
      (dictionary.get? (keyOf value)).isSome := by
    rw [any_rows write filed (keyOf value) _ fun _ => true]
    · cases dictionary.get? (keyOf value) <;> rfl
    · intro other
      simp [Database.sameId, named]
  rw [Database.insertRow, taken]
  rcases held : dictionary.get? (keyOf value) with _ | _
  · simp [rows, values, put, erase_of_get? held]
  · rfl

/-- Changing rows changes records. -/
theorem updateRows_rows (write : α → ρ) (dictionary : Dictionary α) (matching : ρ → Bool)
    (change : ρ → ρ) (key : String) (revise : α → α)
    (agree : ∀ name value, (name, value) ∈ dictionary →
      (if matching (write value) then change (write value) else write value) =
        write (if name = key then revise value else value)) :
    Database.updateRows matching change (dictionary.rows write) =
      rows write (dictionary.update key revise) := by
  simp only [rows, values, Database.updateRows, update, List.map_reverse, List.map_map]
  congr 1
  refine List.map_congr_left fun entry member => ?_
  simp only [Function.comp_apply, agree entry.1 entry.2 member]
  split <;> rfl

theorem length_rows : (dictionary.rows write).length = dictionary.length := by
  simp [rows, values]

end Rows

end Dictionary

/-! ### Stores as tables -/

theorem DeviceRow.deviceId_ofDevice (device : Credential) :
    (ofDevice device).deviceId = some device.deviceId := rfl

theorem ChallengeRow.challengeId_ofChallenge (challenge : Challenge) :
    (ofChallenge challenge).challengeId = some challenge.challengeId := rfl

theorem ChallengeRow.expiresAt_ofChallenge (challenge : Challenge) :
    (ofChallenge challenge).expiresAt = .ofInstant challenge.expiresAt := rfl

theorem SessionRow.sessionId_ofSession (session : Session) :
    (ofSession session).sessionId = some session.sessionId := rfl

theorem SessionRow.expiresAt_ofSession (session : Session) :
    (ofSession session).expiresAt = .ofInstant session.expiresAt := rfl

namespace MemoryStore

/-- The records as the rows of a database. -/
def tables (logged : Bool) (records : MemoryStore) : Database where
  devices := records.devices.rows DeviceRow.ofDevice
  challenges := records.challenges.rows ChallengeRow.ofChallenge
  sessions := records.sessions.rows SessionRow.ofSession
  logged

/-- Every record stands once, and under its own id. -/
structure Tidy (records : MemoryStore) : Prop where
  devices : records.devices.Filed Credential.deviceId
  challenges : records.challenges.Filed Challenge.challengeId
  sessions : records.sessions.Filed Session.sessionId

theorem tidy_empty : empty.Tidy :=
  ⟨.nil, .nil, .nil⟩

/-- The devices of the sessions that have not passed, once for each session. -/
def holders (isPast : Session → Bool) (records : MemoryStore) : List String :=
  (records.sessions.values.filter fun session => !isPast session).map Session.deviceId

variable {records : MemoryStore} {logged : Bool}

theorem mem_holders {isPast : Session → Bool} {deviceId : String} :
    deviceId ∈ records.holders isPast ↔ ∃ sessionId session,
      (sessionId, session) ∈ records.sessions ∧ isPast session = false ∧
        session.deviceId = deviceId := by
  simp only [holders, Dictionary.values, List.mem_map, List.mem_filter, Bool.not_eq_true']
  constructor
  · rintro ⟨session, ⟨⟨entry, inside, rfl⟩, live⟩, owned⟩
    exact ⟨entry.1, entry.2, inside, live, owned⟩
  · rintro ⟨sessionId, session, inside, live, owned⟩
    exact ⟨session, ⟨⟨_, inside, rfl⟩, live⟩, owned⟩

/-! ### Looking up -/

theorem device_tables (tidy : records.Tidy) (deviceId : String) :
    RecordStore.device deviceId (records.tables logged) =
      (records.devices.get? deviceId).mapM fun device => (DeviceRow.ofDevice device).toDevice := by
  change (Database.row? DeviceRow.deviceId deviceId (records.devices.rows _)).mapM _ = _
  rw [Dictionary.row?_rows tidy.devices DeviceRow.deviceId_ofDevice]
  cases records.devices.get? deviceId <;> rfl

theorem challenge_tables (tidy : records.Tidy) (challengeId : String) :
    RecordStore.challenge challengeId (records.tables logged) =
      (records.challenges.get? challengeId).mapM fun challenge =>
        (ChallengeRow.ofChallenge challenge).toChallenge := by
  change (Database.row? ChallengeRow.challengeId challengeId (records.challenges.rows _)).mapM _ = _
  rw [Dictionary.row?_rows tidy.challenges ChallengeRow.challengeId_ofChallenge]
  cases records.challenges.get? challengeId <;> rfl

theorem session_tables (tidy : records.Tidy) (sessionId : String) :
    RecordStore.session sessionId (records.tables logged) =
      (records.sessions.get? sessionId).mapM fun session =>
        (SessionRow.ofSession session).toSession := by
  change (Database.row? SessionRow.sessionId sessionId (records.sessions.rows _)).mapM _ = _
  rw [Dictionary.row?_rows tidy.sessions SessionRow.sessionId_ofSession]
  cases records.sessions.get? sessionId <;> rfl

theorem liveDevices_tables (now : Instant) :
    (records.tables logged).liveDevices now =
      (records.holders fun session =>
        session.expiresAt.toMillis < now.toMillis).reverse.eraseDups := by
  have kept := Dictionary.filter_rows SessionRow.ofSession records.sessions
    (fun row => !row.expiresAt.lessThan now.toMillis)
    (fun entry => !decide (entry.2.expiresAt.toMillis < now.toMillis)) fun _ _ _ => rfl
  simp only [Database.liveDevices, tables, kept]
  simp only [holders, Dictionary.rows, Dictionary.values, List.filter_map, List.map_reverse,
    List.map_map]
  rfl

/-! ### Changing -/

theorem enroll_tables (tidy : records.Tidy) (device : Credential) :
    RecordStore.enroll device (records.tables logged) =
      (RecordStore.enroll device records).map (tables logged) := by
  simp only [RecordStore.enroll, Database.enroll, enroll]
  rcases AuthError.liftZkp (DeviceId.encode device.deviceId) with error | _
  · rfl
  · refine congrArg Except.ok ?_
    simp only [tables]
    rw [Dictionary.replaceRow_rows tidy.devices DeviceRow.deviceId_ofDevice]

theorem addChallenge_tables (tidy : records.Tidy) (challenge : Challenge) :
    RecordStore.addChallenge challenge (records.tables logged) =
      match records.challenges.get? challenge.challengeId with
      | some _ => .error (.storage ("UNIQUE constraint failed: challenges.challenge_id"))
      | none => .ok (tables logged { records with
          challenges := records.challenges.put challenge.challengeId challenge }) := by
  simp only [RecordStore.addChallenge, Database.addChallenge, tables]
  rw [Dictionary.insertRow_rows tidy.challenges ChallengeRow.challengeId_ofChallenge]
  rcases records.challenges.get? challenge.challengeId with _ | _ <;> rfl

theorem addSession_tables (tidy : records.Tidy) (session : Session) :
    RecordStore.addSession session (records.tables logged) =
      match records.sessions.get? session.sessionId with
      | some _ => .error (.storage ("UNIQUE constraint failed: sessions.session_id"))
      | none => .ok (tables logged { records with
          sessions := records.sessions.put session.sessionId session }) := by
  simp only [RecordStore.addSession, Database.addSession, tables]
  rw [Dictionary.insertRow_rows tidy.sessions SessionRow.sessionId_ofSession]
  rcases records.sessions.get? session.sessionId with _ | _ <;> rfl

theorem unused_ofChallenge (challenge : Challenge) :
    ((ChallengeRow.ofChallenge challenge).used == .integer 0) = !challenge.used := by
  cases spent : challenge.used <;> simp [ChallengeRow.ofChallenge, spent]

theorem spendChallenge_tables (tidy : records.Tidy) (challengeId : String) :
    (records.tables logged).spendChallenge challengeId =
      ((records.spendChallenge challengeId).1,
        tables logged (records.spendChallenge challengeId).2) := by
  have hit := Dictionary.any_rows ChallengeRow.ofChallenge tidy.challenges challengeId
    (fun row => row.challengeId == some challengeId && row.used == .integer 0)
    (fun challenge => !challenge.used) fun challenge => by
      simp only [ChallengeRow.challengeId_ofChallenge, unused_ofChallenge]
      rfl
  have changed := Dictionary.updateRows_rows ChallengeRow.ofChallenge records.challenges
    (fun row => row.challengeId == some challengeId && row.used == .integer 0)
    (fun row => { row with used := .integer 1 }) challengeId marked fun name challenge member => by
      obtain rfl : challenge.challengeId = name := tidy.challenges.keyed name challenge member
      simp only [ChallengeRow.challengeId_ofChallenge, unused_ofChallenge]
      by_cases same : challenge.challengeId = challengeId <;> cases spent : challenge.used <;>
        simp [same, spent, marked, ChallengeRow.ofChallenge]
  -- Where nothing is spent, the change does nothing.
  have idle : (∀ challenge, records.challenges.get? challengeId = some challenge →
      challenge.used = true) →
        records.challenges.update challengeId marked = records.challenges := by
    intro spent
    refine tidy.challenges.distinct.update_eq_self fun challenge held => ?_
    simp only [marked, ← spent challenge held]
  simp only [Database.spendChallenge, tables, hit, changed, spendChallenge]
  rcases held : records.challenges.get? challengeId with _ | challenge
  · rw [idle fun challenge found => by rw [held] at found; cases found]
    rfl
  · cases spent : challenge.used
    · simp only [Option.any_some, spent, Bool.not_false, Bool.false_eq_true, if_false]
      rfl
    · rw [idle fun other found => by rw [held] at found; cases found; exact spent]
      simp [spent]

theorem updateSession_tables (tidy : records.Tidy) (sessionId : String)
    (change : SessionRow → SessionRow) (revise : Session → Session)
    (same : ∀ session, change (.ofSession session) = .ofSession (revise session)) :
    (records.tables logged).updateSession sessionId change =
      ((records.updateSession sessionId revise).1,
        tables logged (records.updateSession sessionId revise).2) := by
  have hit := Dictionary.any_rows SessionRow.ofSession tidy.sessions sessionId
    (fun row => row.sessionId == some sessionId) (fun _ => true) fun session => by
      simp only [SessionRow.sessionId_ofSession, Bool.and_true]
      rfl
  have changed := Dictionary.updateRows_rows SessionRow.ofSession records.sessions
    (fun row => row.sessionId == some sessionId) change sessionId revise
    fun name session member => by
      have own : session.sessionId = name := tidy.sessions.keyed name session member
      simp only [SessionRow.sessionId_ofSession, own, same]
      by_cases here : name = sessionId <;> simp [here]
  simp only [Database.updateSession, tables, hit, changed, updateSession]
  rcases held : records.sessions.get? sessionId with _ | session
  · rw [tidy.sessions.distinct.update_eq_self fun session found => by
      rw [held] at found
      cases found]
    rfl
  · rfl

theorem removeSession_tables (tidy : records.Tidy) (sessionId : String) :
    (records.tables logged).removeSession sessionId =
      ((records.removeSession sessionId).1,
        tables logged (records.removeSession sessionId).2) := by
  have hit := Dictionary.any_rows SessionRow.ofSession tidy.sessions sessionId
    (fun row => row.sessionId == some sessionId) (fun _ => true) fun session => by
      simp only [SessionRow.sessionId_ofSession, Bool.and_true]
      rfl
  have kept := Dictionary.filter_rows SessionRow.ofSession records.sessions
    (fun row => row.sessionId != some sessionId) (fun entry => entry.1 ≠ sessionId)
    fun name session member => by
      have own : session.sessionId = name := tidy.sessions.keyed name session member
      rw [Bool.eq_iff_iff]
      simp [SessionRow.sessionId_ofSession, own]
  simp only [Database.removeSession, tables, hit, kept, removeSession]
  rcases held : records.sessions.get? sessionId with _ | session
  · have idle := Dictionary.erase_of_get? held
    simp only [Dictionary.erase] at idle
    rw [idle]
    rfl
  · rfl

/-- Rows are dropped by their milliseconds. -/
theorem dropBefore_rows {α ρ : Type} {write : α → ρ} {expiryOf : ρ → Cell} {expiry : α → Instant}
    (written : ∀ value, expiryOf (write value) = .ofInstant (expiry value))
    (now : Instant) (entries : Dictionary α) :
    Database.dropBefore expiryOf now.toMillis (entries.rows write) =
      ((dropExpired (fun value => (expiry value).toMillis < now.toMillis) entries).1,
        Dictionary.rows write
          (dropExpired (fun value => (expiry value).toMillis < now.toMillis) entries).2) := by
  have kept := Dictionary.filter_rows write entries
    (fun row => !(expiryOf row).lessThan now.toMillis)
    (fun entry => !decide ((expiry entry.2).toMillis < now.toMillis)) fun _ value _ => by
      rw [written]
      rfl
  simp only [Database.dropBefore, dropExpired, kept, Dictionary.length_rows]

theorem dropChallenges_tables (now : Instant) :
    RecordStore.dropChallenges now (records.tables logged) =
      .ok ((dropExpired (fun challenge => challenge.expiresAt.toMillis < now.toMillis)
          records.challenges).1,
        tables logged { records with
          challenges := (dropExpired (fun challenge => challenge.expiresAt.toMillis < now.toMillis)
            records.challenges).2 }) := by
  simp only [RecordStore.dropChallenges, tables]
  rw [dropBefore_rows ChallengeRow.expiresAt_ofChallenge]

theorem dropSessions_tables (now : Instant) :
    RecordStore.dropSessions now (records.tables logged) =
      .ok ((dropExpired (fun session => session.expiresAt.toMillis < now.toMillis)
          records.sessions).1,
        tables logged { records with
          sessions := (dropExpired (fun session => session.expiresAt.toMillis < now.toMillis)
            records.sessions).2 }) := by
  simp only [RecordStore.dropSessions, tables]
  rw [dropBefore_rows SessionRow.expiresAt_ofSession]

/-! ### What keeps records tidy -/

namespace Tidy

theorem enroll (tidy : records.Tidy) (device : Credential) :
    Tidy { records with devices := records.devices.put device.deviceId device } :=
  { tidy with devices := tidy.devices.put device }

theorem addChallenge (tidy : records.Tidy) (challenge : Challenge) :
    Tidy { records with
      challenges := records.challenges.put challenge.challengeId challenge } :=
  { tidy with challenges := tidy.challenges.put challenge }

theorem addSession (tidy : records.Tidy) (session : Session) :
    Tidy { records with sessions := records.sessions.put session.sessionId session } :=
  { tidy with sessions := tidy.sessions.put session }

theorem dropChallenges (tidy : records.Tidy) (isPast : Challenge → Bool) :
    Tidy { records with challenges := (dropExpired isPast records.challenges).2 } :=
  { tidy with challenges := tidy.challenges.filter _ }

theorem dropSessions (tidy : records.Tidy) (isPast : Session → Bool) :
    Tidy { records with sessions := (dropExpired isPast records.sessions).2 } :=
  { tidy with sessions := tidy.sessions.filter _ }

theorem spendChallenge (tidy : records.Tidy) (challengeId : String) :
    (records.spendChallenge challengeId).2.Tidy := by
  unfold MemoryStore.spendChallenge
  split
  · split
    · exact tidy
    · exact { tidy with challenges := tidy.challenges.update challengeId marked fun _ => rfl }
  · exact tidy

theorem updateSession (tidy : records.Tidy) (sessionId : String) (change : Session → Session)
    (same : ∀ session, (change session).sessionId = session.sessionId) :
    (records.updateSession sessionId change).2.Tidy := by
  unfold MemoryStore.updateSession
  split
  · exact { tidy with sessions := tidy.sessions.update sessionId change same }
  · exact tidy

theorem removeSession (tidy : records.Tidy) (sessionId : String) :
    (records.removeSession sessionId).2.Tidy := by
  unfold MemoryStore.removeSession
  split
  · exact { tidy with sessions := tidy.sessions.filter _ }
  · exact tidy

end Tidy

/-! ### What using up a challenge leaves -/

theorem devices_spendChallenge (records : MemoryStore) (challengeId : String) :
    (records.spendChallenge challengeId).2.devices = records.devices := by
  unfold spendChallenge
  split
  · split <;> rfl
  · rfl

theorem sessions_spendChallenge (records : MemoryStore) (challengeId : String) :
    (records.spendChallenge challengeId).2.sessions = records.sessions := by
  unfold spendChallenge
  split
  · split <;> rfl
  · rfl

/-! ### Sessions that are left -/

/-- Every session that is left was there, for its device and with its expiry. -/
def Fewer (before after : MemoryStore) : Prop :=
  ∀ sessionId session, (sessionId, session) ∈ after.sessions → ∃ held,
    (sessionId, held) ∈ before.sessions ∧ held.deviceId = session.deviceId ∧
      held.expiresAt = session.expiresAt

namespace Fewer

/-- Other records play no part. -/
theorem of_sessions {after : MemoryStore} (same : after.sessions = records.sessions) :
    records.Fewer after :=
  fun _ session member => ⟨session, same ▸ member, rfl, rfl⟩

theorem trans {second third : MemoryStore} (begins : records.Fewer second)
    (goesOn : second.Fewer third) : records.Fewer third := by
  intro sessionId session member
  obtain ⟨held, inside, owned, expires⟩ := goesOn sessionId session member
  obtain ⟨first, before, ownedFirst, expiresFirst⟩ := begins sessionId held inside
  exact ⟨first, before, ownedFirst.trans owned, expiresFirst.trans expires⟩

theorem filter (keeps : String × Session → Bool) :
    records.Fewer { records with sessions := records.sessions.filter keeps } :=
  fun _ session member => ⟨session, (List.mem_filter.mp member).1, rfl, rfl⟩

theorem removeSession (records : MemoryStore) (sessionId : String) :
    records.Fewer (records.removeSession sessionId).2 := by
  unfold MemoryStore.removeSession
  split
  · exact filter _
  · exact of_sessions rfl

theorem spendChallenge (records : MemoryStore) (challengeId : String) :
    records.Fewer (records.spendChallenge challengeId).2 :=
  of_sessions (records.sessions_spendChallenge challengeId)

theorem updateSession (records : MemoryStore) (sessionId : String) (change : Session → Session)
    (same : ∀ session, (change session).deviceId = session.deviceId ∧
      (change session).expiresAt = session.expiresAt) :
    records.Fewer (records.updateSession sessionId change).2 := by
  unfold MemoryStore.updateSession
  split
  · intro other session member
    obtain ⟨held, inside, ⟨_, rfl⟩ | ⟨_, rfl⟩⟩ := Dictionary.mem_update member
    · exact ⟨held, inside, (same held).1.symm, (same held).2.symm⟩
    · exact ⟨session, inside, rfl, rfl⟩
  · exact of_sessions rfl

end Fewer

end MemoryStore

end DeviceAuth
