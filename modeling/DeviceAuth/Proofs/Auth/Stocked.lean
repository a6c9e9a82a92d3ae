import DeviceAuth.Proofs.Auth.Readable
import DeviceAuth.Proofs.Auth.Requests

/-!
**States that are ready to be used.** In such a state whatever is asked for by id is read, unless it
is missing, and no operation fails that adds a record under an unused id or changes one that is
there.

* `State.Stocked`: the storage keeps records that can be read back, and none has an unused id.
* One lemma for each operation on records: it succeeds, and leaves a state that is ready with the
  records that have been changed.
-/

namespace DeviceAuth

open Operation Storage

/-- An entry that is there has been changed. -/
theorem Dictionary.get?_update_self {α : Type} {entries : Dictionary α} {id : String} {value : α}
    (inside : entries.get? id = some value) (change : α → α) :
    (entries.update id change).get? id = some (change value) := by
  rw [get?_update, if_pos rfl, inside, Option.map_some]

/-- A state whose storage keeps these records, which are ready to be used. -/
structure State.Stocked (resolution : Resolution) (unused : List String) (records : MemoryStore)
    (state : State Storage) : Prop where
  keeps : state.store.Keeps resolution records
  ready : records.Ready resolution unused

namespace State.Stocked

variable {resolution : Resolution} {unused : List String} {records : MemoryStore}
  {state : State Storage} {id : String}

theorem of_append {used : List String}
    (stocked : state.Stocked resolution (used ++ unused) records) :
    state.Stocked resolution unused records :=
  ⟨stocked.keeps, stocked.ready.of_append⟩

theorem tail (stocked : state.Stocked resolution (id :: unused) records) :
    state.Stocked resolution unused records :=
  ⟨stocked.keeps, stocked.ready.tail⟩

theorem device (stocked : state.Stocked resolution unused records) (deviceId : String) :
    RecordStore.device deviceId state.store = .ok (records.devices.get? deviceId) := by
  rw [stocked.keeps.device]
  rcases held : records.devices.get? deviceId with _ | device
  · rfl
  · simp only [Option.mapM_some, (stocked.ready.devices deviceId device held).read]
    rfl

theorem deviceId_of_get? (stocked : state.Stocked resolution unused records) {device : Credential}
    (held : records.devices.get? id = some device) : device.deviceId = id :=
  stocked.keeps.tidy.devices.keyed id device (Dictionary.mem_of_get? held)

theorem challenge_none (stocked : state.Stocked resolution unused records)
    (absent : records.challenges.get? id = none) :
    RecordStore.challenge id state.store = .ok none := by
  rw [stocked.keeps.challenge, absent]
  rfl

theorem challenge_some (stocked : state.Stocked resolution unused records) {challenge : Challenge}
    (held : records.challenges.get? id = some challenge) :
    ∃ found, resolution.readChallenge challenge = .ok found ∧
      RecordStore.challenge id state.store = .ok (some found) := by
  obtain ⟨found, read⟩ := (stocked.ready.challenges id challenge held).exists_read
  refine ⟨found, read, ?_⟩
  rw [stocked.keeps.challenge, held]
  simp only [Option.mapM_some, read]
  rfl

theorem session_none (stocked : state.Stocked resolution unused records)
    (absent : records.sessions.get? id = none) : RecordStore.session id state.store = .ok none := by
  rw [stocked.keeps.session, absent]
  rfl

theorem session_some (stocked : state.Stocked resolution unused records) {session : Session}
    (held : records.sessions.get? id = some session) :
    ∃ found, resolution.readSession session = .ok found ∧ found.sessionId = id ∧
      RecordStore.session id state.store = .ok (some found) := by
  obtain ⟨found, read⟩ := (stocked.ready.sessions id session held).exists_read
  have own := stocked.keeps.tidy.sessions.keyed id session (Dictionary.mem_of_get? held)
  refine ⟨found, read, (Resolution.of_readSession read).1.trans own, ?_⟩
  rw [stocked.keeps.session, held]
  simp only [Option.mapM_some, read]
  rfl

/-! ### Operations on records -/

/-- A session that is there is changed. -/
theorem updateSession (stocked : state.Stocked resolution unused records) {session : Session}
    (inside : records.sessions.get? id = some session) (change : Session → Session)
    (readable : ∀ session, session.IsReadable resolution → (change session).IsReadable resolution)
    {operation : Operation Bool}
    (runs : ∃ store,
      operation.run state = (.ok (records.updateSession id change).1, { state with store }) ∧
        store.Keeps resolution (records.updateSession id change).2) :
    ∃ store, operation.run state = (.ok true, { state with store }) ∧
      State.Stocked resolution unused
        { records with sessions := records.sessions.update id change } { state with store } := by
  obtain ⟨store, ran, keeps⟩ := runs
  simp only [MemoryStore.updateSession, inside] at ran keeps
  exact ⟨store, ran, keeps, stocked.ready.updateSession id readable⟩

/-- The use of a session that is there is recorded. -/
theorem noteUse (stocked : state.Stocked resolution unused records) {session : Session}
    (inside : records.sessions.get? id = some session) {moment : Instant}
    (reads : resolution.Reads moment) :
    ∃ store, (Operation.noteUse id moment).run state = (.ok true, { state with store }) ∧
      State.Stocked resolution unused
        { records with
          sessions := records.sessions.update id fun session =>
            { session with lastUsedAt := moment } } { state with store } := by
  obtain ⟨store, noted, keeps⟩ := stocked.keeps.noteUse id moment
  exact stocked.updateSession inside (fun session => { session with lastUsedAt := moment })
    (fun _ readable => ⟨readable.createdAt, readable.expiresAt, reads⟩)
    ⟨store, by simp only [run_noteUse, noted], keeps⟩

/-- A session that is there is extended. -/
theorem prolongSession (stocked : state.Stocked resolution unused records) {session : Session}
    (inside : records.sessions.get? id = some session) {expiresAt : Instant}
    (reads : resolution.Reads expiresAt) (token : String) :
    ∃ store,
      (Operation.prolongSession id expiresAt token).run state = (.ok true, { state with store }) ∧
      State.Stocked resolution unused
        { records with
          sessions := records.sessions.update id fun session =>
            { session with expiresAt, token } } { state with store } := by
  obtain ⟨store, prolonged, keeps⟩ := stocked.keeps.prolongSession id expiresAt token
  exact stocked.updateSession inside (fun session => { session with expiresAt, token })
    (fun _ readable => ⟨readable.createdAt, reads, readable.lastUsedAt⟩)
    ⟨store, by simp only [run_prolongSession, prolonged], keeps⟩

/-- A session that is there is removed. -/
theorem close (stocked : state.Stocked resolution unused records) {session : Session}
    (inside : records.sessions.get? id = some session) :
    ∃ store, (SessionPolicy.close id).run state = (.ok (), { state with store }) ∧
      State.Stocked resolution unused { records with sessions := records.sessions.erase id }
        { state with store } := by
  obtain ⟨store, removed, keeps⟩ := stocked.keeps.removeSession id
  simp only [MemoryStore.removeSession, inside] at removed keeps
  exact ⟨store, by simp [SessionPolicy.close, removed], keeps, stocked.ready.eraseSession id⟩

/-- A challenge with an unused id is added. -/
theorem addChallenge {challenge : Challenge}
    (stocked : state.Stocked resolution (challenge.challengeId :: unused) records)
    (readable : challenge.IsReadable resolution) :
    ∃ store, (Operation.addChallenge challenge).run state = (.ok (), { state with store }) ∧
      State.Stocked resolution unused
        { records with challenges := records.challenges.put challenge.challengeId challenge }
        { state with store } := by
  obtain ⟨store, added, keeps⟩ := stocked.keeps.addChallenge (stocked.ready.free _ (.head _)).1
  exact ⟨store, by simp only [run_addChallenge, added], keeps, stocked.ready.addChallenge readable⟩

/-- A session with an unused id is added. -/
theorem addSession {session : Session}
    (stocked : state.Stocked resolution (session.sessionId :: unused) records)
    (readable : session.IsReadable resolution) :
    ∃ store, (Operation.addSession session).run state = (.ok (), { state with store }) ∧
      State.Stocked resolution unused
        { records with sessions := records.sessions.put session.sessionId session }
        { state with store } := by
  obtain ⟨store, added, keeps⟩ :=
    stocked.keeps.addSession fun _ => (stocked.ready.free _ (.head _)).2
  exact ⟨store, by simp only [run_addSession, added], keeps, stocked.ready.addSession readable⟩

/-- An unused challenge that is there is used up. -/
theorem spendChallenge (stocked : state.Stocked resolution unused records) {challenge : Challenge}
    (inside : records.challenges.get? id = some challenge) (fresh : challenge.used = false) :
    ∃ store, (Operation.spendChallenge id).run state = (.ok true, { state with store }) ∧
      State.Stocked resolution unused
        { records with
          challenges := records.challenges.update id fun challenge =>
            { challenge with used := true } } { state with store } := by
  obtain ⟨store, ran, keeps⟩ := stocked.keeps.spendChallenge id
  simp only [MemoryStore.spendChallenge, inside, fresh, Bool.false_eq_true, if_false] at ran keeps
  have readable : ∀ challenge : Challenge, challenge.IsReadable resolution →
      Challenge.IsReadable resolution { challenge with used := true } :=
    fun _ readable => ⟨readable.nonce, readable.createdAt, readable.expiresAt⟩
  exact ⟨store, by simp only [run_spendChallenge, ran], keeps,
    stocked.ready.updateChallenge id readable⟩

/-- A device is enrolled, unless its id cannot be encoded. -/
theorem enroll (stocked : state.Stocked resolution unused records) {device : Credential}
    (readable : device.IsReadable resolution) :
    (∃ error, DeviceId.encode device.deviceId = .error error ∧
        (Operation.enroll device).run state = (.error (.refused (.ofZkp error)), state)) ∨
      ∃ word store, DeviceId.encode device.deviceId = .ok word ∧
        (Operation.enroll device).run state = (.ok (), { state with store }) ∧
        State.Stocked resolution unused
          { records with devices := records.devices.put device.deviceId device }
          { state with store } := by
  rcases encoded : DeviceId.encode device.deviceId with error | word
  · exact .inl ⟨error, rfl, by simp only [run_enroll, stocked.keeps.enroll_refused encoded]⟩
  · obtain ⟨store, enrolled, keeps⟩ := stocked.keeps.enroll encoded
    exact .inr ⟨word, store, rfl, by simp only [run_enroll, enrolled], keeps,
      stocked.ready.enroll readable⟩

end State.Stocked

end DeviceAuth
