import DeviceAuth.Proofs.Auth.Exact
import DeviceAuth.Proofs.Time.Floor

/-!
**Records that can be read back.** A row is read back if its word is canonical and its instants can
be kept in milliseconds; that is all of them but the leap second at the end of the calendar. A
lifetime of a second or more never begins there, so a service never asks for a record that it
cannot read, whatever its clock shows.

* `Instant.IsReadable`: `of_le` and `isReadable_of_add?` are how the instants of a service come
  about.
* `MemoryStore.Ready`: all records can be read back, and the ids that are still to be drawn are
  free. Each change of the records keeps this.
-/

namespace DeviceAuth

/-! ### Instants -/

namespace Instant

variable {instant later first second : Instant} {duration : Duration}

/-- An instant can be kept in milliseconds. -/
def IsReadable (instant : Instant) : Prop :=
  instant.isLeap = true → instant.seconds < latestSecond

theorem isReadable_of_plain (plain : instant.isLeap = false) : instant.IsReadable := by
  intro leap
  rw [plain] at leap
  cases leap

theorem IsReadable.exists_ofMillis? (readable : instant.IsReadable) :
    ∃ moment, ofMillis? instant.toMillis = some moment := by
  refine Option.isSome_iff_exists.mp (isSome_ofUnix?_iff _ _ |>.mpr ?_)
  have earliest := instant.seconds_ge
  have latest := instant.seconds_le
  have bound := instant.nanos_lt
  simp only [IsReadable, isLeap, decide_eq_true_eq] at readable
  simp only [toMillis, nanosPerSecond] at *
  omega

/-- No leap second stands at the end of the calendar and before another instant. -/
theorem IsReadable.of_le (plain : second.isLeap = false) (le : first ≤ second) :
    first.IsReadable := by
  intro leap
  have latest := second.seconds_le
  have below := nanos_lt_of_plain plain
  rw [le_iff] at le
  simp only [isLeap, decide_eq_true_eq] at leap
  omega

/-- What lasts a second or more begins at a readable instant, and ends in no leap second. -/
theorem isReadable_of_add? (span : nanosPerSecond ≤ duration.nanos)
    (moved : instant.add? duration = some later) :
    instant.IsReadable ∧ later.isLeap = false := by
  rcases leap : instant.isLeap with _ | _
  · exact ⟨isReadable_of_plain leap, plain_add? leap moved⟩
  have whole : 0 < duration.nanos.tdiv nanosPerSecond := by
    rw [Int.tdiv_eq_ediv_of_nonneg (Int.le_trans (by decide) span)]
    simp only [nanosPerSecond] at span ⊢
    omega
  simp only [add?, leap, if_true, whole, true_or, ofUnixNanos?] at moved
  obtain ⟨seconds, nanos⟩ := eq_of_ofUnix? moved
  have latest := later.seconds_le
  simp only [isLeap, decide_eq_true_eq, decide_eq_false_iff_not] at leap ⊢
  simp only [unixNanos, nanosPerSecond] at *
  exact ⟨fun _ => by omega, by omega⟩

end Instant

/-! ### Records -/

/-- An instant is read back, where that is not as a matter of course. -/
def Resolution.Reads (resolution : Resolution) (instant : Instant) : Prop :=
  resolution = .milliseconds → instant.IsReadable

/-- A credential can be read back. -/
def Credential.IsReadable (resolution : Resolution) (device : Credential) : Prop :=
  resolution = .milliseconds → device.commitment.IsCanonical

/-- A challenge can be read back. -/
structure Challenge.IsReadable (resolution : Resolution) (challenge : Challenge) : Prop where
  nonce : resolution = .milliseconds → challenge.nonce.IsCanonical
  createdAt : resolution.Reads challenge.createdAt
  expiresAt : resolution.Reads challenge.expiresAt

/-- A session can be read back. -/
structure Session.IsReadable (resolution : Resolution) (session : Session) : Prop where
  createdAt : resolution.Reads session.createdAt
  expiresAt : resolution.Reads session.expiresAt
  lastUsedAt : resolution.Reads session.lastUsedAt

section Reading

variable {resolution : Resolution}

theorem Cell.exists_readInstant {instant : Instant} (readable : instant.IsReadable) (index : Nat)
    (name : String) : ∃ moment, (ofInstant instant).readInstant index name = .ok moment := by
  obtain ⟨moment, found⟩ := readable.exists_ofMillis?
  refine ⟨moment, ?_⟩
  simp only [readInstant, ofInstant, readInteger, bind, Except.bind, found]

theorem Credential.IsReadable.read {device : Credential} (readable : device.IsReadable resolution) :
    resolution.readDevice device = .ok device := by
  cases resolution
  · rfl
  · exact DeviceRow.toDevice_ofDevice (readable rfl)

theorem Challenge.IsReadable.exists_read {challenge : Challenge}
    (readable : challenge.IsReadable resolution) :
    ∃ found, resolution.readChallenge challenge = .ok found := by
  cases resolution
  · exact ⟨challenge, rfl⟩
  obtain ⟨created, readCreated⟩ :=
    Cell.exists_readInstant (readable.createdAt rfl) 3 "created_at"
  obtain ⟨expires, readExpires⟩ :=
    Cell.exists_readInstant (readable.expiresAt rfl) 4 "expires_at"
  simp only [Resolution.readChallenge, ChallengeRow.toChallenge, ChallengeRow.ofChallenge,
    readWord_toHex (readable.nonce rfl), readCreated, readExpires, Cell.readInteger, bind,
    Except.bind]
  exact ⟨_, rfl⟩

theorem Session.IsReadable.exists_read {session : Session}
    (readable : session.IsReadable resolution) :
    ∃ found, resolution.readSession session = .ok found := by
  cases resolution
  · exact ⟨session, rfl⟩
  obtain ⟨created, readCreated⟩ :=
    Cell.exists_readInstant (readable.createdAt rfl) 3 "created_at"
  obtain ⟨expires, readExpires⟩ :=
    Cell.exists_readInstant (readable.expiresAt rfl) 4 "expires_at"
  obtain ⟨used, readUsed⟩ :=
    Cell.exists_readInstant (readable.lastUsedAt rfl) 5 "last_used_at"
  simp only [Resolution.readSession, SessionRow.toSession, SessionRow.ofSession, readCreated,
    readExpires, readUsed, bind, Except.bind]
  exact ⟨_, rfl⟩

end Reading

/-! ### Stores -/

namespace MemoryStore

/-- **Records that are ready to be used:** each can be read back, and no challenge and no session
has one of the unused ids. -/
structure Ready (resolution : Resolution) (unused : List String) (records : MemoryStore) :
    Prop where
  devices : ∀ id device, records.devices.get? id = some device → device.IsReadable resolution
  challenges : ∀ id challenge, records.challenges.get? id = some challenge →
    challenge.IsReadable resolution
  sessions : ∀ id session, records.sessions.get? id = some session →
    session.IsReadable resolution
  distinct : unused.Nodup
  free : ∀ id ∈ unused, records.challenges.get? id = none ∧ records.sessions.get? id = none

namespace Ready

variable {resolution : Resolution} {unused used : List String} {records : MemoryStore} {id : String}

theorem empty (distinct : unused.Nodup) : MemoryStore.empty.Ready resolution unused where
  devices _ _ found := by cases found
  challenges _ _ found := by cases found
  sessions _ _ found := by cases found
  distinct
  free _ _ := ⟨rfl, rfl⟩

theorem of_append (ready : records.Ready resolution (used ++ unused)) :
    records.Ready resolution unused where
  devices := ready.devices
  challenges := ready.challenges
  sessions := ready.sessions
  distinct := (List.nodup_append.mp ready.distinct).2.1
  free id member := ready.free id (List.mem_append_right used member)

theorem tail (ready : records.Ready resolution (id :: unused)) :
    records.Ready resolution unused := by
  have appended : records.Ready resolution ([id] ++ unused) := ready
  exact appended.of_append

/-- What is put under one id leaves the free ids free, if it is none of them. -/
theorem get?_put_of_free {α : Type} {entries : Dictionary α} {value : α} {other : String}
    (distinct : (id :: unused).Nodup) (member : other ∈ unused) (free : entries.get? other = none) :
    (entries.put id value).get? other = none := by
  have different : other ≠ id := fun same => (List.nodup_cons.mp distinct).1 (same ▸ member)
  rw [Dictionary.get?_put, if_neg different, free]

/-- What is put among readable entries, if it is readable. -/
theorem of_get?_put {α : Type} {entries : Dictionary α} {readable : α → Prop} {value : α}
    (before : ∀ id held, entries.get? id = some held → readable held) (own : readable value)
    (other : String) (held : α) (found : (entries.put id value).get? other = some held) :
    readable held := by
  rw [Dictionary.get?_put] at found
  split at found
  · cases found
    exact own
  · exact before other held found

theorem enroll (ready : records.Ready resolution unused) {device : Credential}
    (readable : device.IsReadable resolution) :
    Ready resolution unused
      { records with devices := records.devices.put device.deviceId device } :=
  { ready with
    devices := of_get?_put ready.devices readable }

theorem addChallenge {challenge : Challenge}
    (ready : records.Ready resolution (challenge.challengeId :: unused))
    (readable : challenge.IsReadable resolution) :
    Ready resolution unused
      { records with challenges := records.challenges.put challenge.challengeId challenge } :=
  { ready.tail with
    challenges := of_get?_put ready.challenges readable
    free := fun id member =>
      ⟨get?_put_of_free ready.distinct member (ready.tail.free id member).1,
        (ready.tail.free id member).2⟩ }

theorem addSession {session : Session}
    (ready : records.Ready resolution (session.sessionId :: unused))
    (readable : session.IsReadable resolution) :
    Ready resolution unused
      { records with sessions := records.sessions.put session.sessionId session } :=
  { ready.tail with
    sessions := of_get?_put ready.sessions readable
    free := fun id member =>
      ⟨(ready.tail.free id member).1,
        get?_put_of_free ready.distinct member (ready.tail.free id member).2⟩ }

/-- A change of one entry that keeps it readable. -/
theorem of_get?_update {α : Type} {entries : Dictionary α} {readable : α → Prop} {change : α → α}
    (before : ∀ id value, entries.get? id = some value → readable value)
    (kept : ∀ value, readable value → readable (change value)) (other : String) (value : α)
    (found : (entries.update id change).get? other = some value) : readable value := by
  rw [Dictionary.get?_update] at found
  split at found
  · obtain ⟨held, inside, rfl⟩ := Option.map_eq_some_iff.mp found
    exact kept held (before other held inside)
  · exact before other value found

theorem get?_update_of_free {α : Type} {entries : Dictionary α} {other : String} (id : String)
    (change : α → α) (free : entries.get? other = none) :
    (entries.update id change).get? other = none := by
  rw [Dictionary.get?_update, free]
  split <;> rfl

theorem updateChallenge (ready : records.Ready resolution unused) (challengeId : String)
    {change : Challenge → Challenge}
    (kept : ∀ challenge, challenge.IsReadable resolution →
      (change challenge).IsReadable resolution) :
    Ready resolution unused
      { records with challenges := records.challenges.update challengeId change } :=
  { ready with
    challenges := of_get?_update ready.challenges kept
    free := fun id member =>
      ⟨get?_update_of_free _ _ (ready.free id member).1, (ready.free id member).2⟩ }

theorem updateSession (ready : records.Ready resolution unused) (sessionId : String)
    {change : Session → Session}
    (kept : ∀ session, session.IsReadable resolution → (change session).IsReadable resolution) :
    Ready resolution unused
      { records with sessions := records.sessions.update sessionId change } :=
  { ready with
    sessions := of_get?_update ready.sessions kept
    free := fun id member =>
      ⟨(ready.free id member).1, get?_update_of_free _ _ (ready.free id member).2⟩ }

theorem eraseSession (ready : records.Ready resolution unused) (sessionId : String) :
    Ready resolution unused { records with sessions := records.sessions.erase sessionId } :=
  { ready with
    sessions := by
      intro id held found
      rw [Dictionary.get?_erase] at found
      split at found
      · cases found
      · exact ready.sessions id held found
    free := fun id member => by
      refine ⟨(ready.free id member).1, ?_⟩
      rw [Dictionary.get?_erase, (ready.free id member).2]
      split <;> rfl }

theorem filterChallenges (ready : records.Ready resolution unused)
    (distinct : records.challenges.Distinct) (keeps : Challenge → Bool) :
    Ready resolution unused
      { records with challenges := records.challenges.filter fun entry => keeps entry.2 } :=
  { ready with
    challenges := by
      intro id held found
      rw [distinct.get?_filter] at found
      exact ready.challenges id held (Option.filter_eq_some_iff.mp found).1
    free := fun id member => by
      refine ⟨?_, (ready.free id member).2⟩
      rw [distinct.get?_filter, (ready.free id member).1]
      rfl }

theorem filterSessions (ready : records.Ready resolution unused)
    (distinct : records.sessions.Distinct) (keeps : Session → Bool) :
    Ready resolution unused
      { records with sessions := records.sessions.filter fun entry => keeps entry.2 } :=
  { ready with
    sessions := by
      intro id held found
      rw [distinct.get?_filter] at found
      exact ready.sessions id held (Option.filter_eq_some_iff.mp found).1
    free := fun id member => by
      refine ⟨(ready.free id member).1, ?_⟩
      rw [distinct.get?_filter, (ready.free id member).2]
      rfl }

end Ready

end MemoryStore

end DeviceAuth
