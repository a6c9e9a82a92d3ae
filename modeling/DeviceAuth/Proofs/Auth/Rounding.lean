import DeviceAuth.Proofs.Auth.Kept
import DeviceAuth.Proofs.Time.Floor

/-!
**Sessions as they are read back.** A resolution rounds instants down, to themselves or to whole
milliseconds (`Resolution.floor`). Outside leap seconds that keeps their order and their second, and
it commutes with adding a duration of whole milliseconds (`floor_add?`). A session is read back with
its three instants rounded down (`readSession_of_plain`).
-/

namespace DeviceAuth

namespace Resolution

variable {resolution : Resolution} {instant later first second : Instant} {duration : Duration}

/-- An instant as it is read back. -/
def floor : Resolution → Instant → Instant
  | nanoseconds, instant => instant
  | milliseconds, instant => instant.floorMillis

/-- Whether a duration is a whole number of the resolution's units. -/
def Divides (resolution : Resolution) (duration : Duration) : Prop :=
  resolution = milliseconds → duration.nanos % 1000000 = 0

theorem seconds_floor (resolution : Resolution) (instant : Instant) :
    (resolution.floor instant).seconds = instant.seconds := by
  cases resolution <;> rfl

theorem plain_floor (plain : instant.isLeap = false) :
    (resolution.floor instant).isLeap = false := by
  cases resolution
  · exact plain
  · exact Instant.plain_floorMillis plain

theorem floor_le (plain : instant.isLeap = false) : resolution.floor instant ≤ instant := by
  cases resolution
  · exact Int.le_refl _
  · rw [Instant.le_iff_unixNanos (plain_floor plain) plain]
    simp only [floor, Instant.unixNanos_floorMillis]
    omega

theorem floor_mono (plain : first.isLeap = false) (plainToo : second.isLeap = false)
    (le : first ≤ second) : resolution.floor first ≤ resolution.floor second := by
  cases resolution
  · exact le
  · rw [Instant.le_iff_unixNanos plain plainToo] at le
    rw [Instant.le_iff_unixNanos (plain_floor plain) (plain_floor plainToo)]
    simp only [floor, Instant.unixNanos_floorMillis]
    omega

/-- **Rounding down commutes with adding a duration** of whole units. -/
theorem floor_add? (plain : instant.isLeap = false) (divides : resolution.Divides duration)
    (moved : instant.add? duration = some later) :
    (resolution.floor instant).add? duration = some (resolution.floor later) := by
  cases resolution
  · exact moved
  · obtain ⟨plainLater, sum⟩ := (Instant.add?_eq_some_iff plain).mp moved
    rw [Instant.add?_eq_some_iff (plain_floor plain)]
    refine ⟨plain_floor plainLater, ?_⟩
    have units := divides rfl
    simp only [floor, Instant.unixNanos_floorMillis, sum]
    omega

end Resolution

/-! ### Sessions -/

/-- A session in no leap second. -/
structure Session.IsPlain (session : Session) : Prop where
  createdAt : session.createdAt.isLeap = false
  expiresAt : session.expiresAt.isLeap = false
  lastUsedAt : session.lastUsedAt.isLeap = false

/-- A session as it is read back. -/
def Session.floor (resolution : Resolution) (session : Session) : Session :=
  { session with
    createdAt := resolution.floor session.createdAt
    expiresAt := resolution.floor session.expiresAt
    lastUsedAt := resolution.floor session.lastUsedAt }

theorem Cell.readInstant_eq {instant : Instant} (plain : instant.isLeap = false) (index : Nat)
    (name : String) : (ofInstant instant).readInstant index name = .ok instant.floorMillis := by
  simp only [readInstant, ofInstant, readInteger, bind, Except.bind,
    Instant.ofMillis?_toMillis_eq plain]

/-- **A session in no leap second is read back,** with its instants rounded down. -/
theorem Resolution.readSession_of_plain (resolution : Resolution) {session : Session}
    (plain : session.IsPlain) : resolution.readSession session = .ok (session.floor resolution) := by
  cases resolution
  · rfl
  · simp only [readSession, SessionRow.toSession, SessionRow.ofSession, Session.floor, floor,
      Cell.readInstant_eq plain.createdAt, Cell.readInstant_eq plain.expiresAt,
      Cell.readInstant_eq plain.lastUsedAt]
    rfl

/-- Where no session is read, none is kept. -/
theorem Storage.Keeps.get?_of_session {resolution : Resolution} {records : MemoryStore}
    {storage : Storage} {sessionId : String} (keeps : storage.Keeps resolution records)
    (absent : RecordStore.session sessionId storage = .ok none) :
    records.sessions.get? sessionId = none := by
  have read := (keeps.session sessionId).symm.trans absent
  rcases held : records.sessions.get? sessionId with _ | session
  · rfl
  · rcases content : resolution.readSession session with _ | found <;>
      simp only [held, Option.mapM_some, content] at read <;> cases read

/-- What is read of a storage, if no session is timed in a leap second. -/
theorem Storage.Keeps.session_floor {resolution : Resolution} {records : MemoryStore}
    {storage : Storage} (keeps : storage.Keeps resolution records)
    (plain : ∀ sessionId held, records.sessions.get? sessionId = some held → held.IsPlain)
    (sessionId : String) : RecordStore.session sessionId storage =
      .ok ((records.sessions.get? sessionId).map (Session.floor resolution)) := by
  rw [keeps.session]
  rcases found : records.sessions.get? sessionId with _ | held
  · rfl
  · simp only [Option.mapM_some, resolution.readSession_of_plain (plain sessionId held found)]
    rfl

end DeviceAuth
