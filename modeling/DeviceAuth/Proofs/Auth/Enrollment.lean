import DeviceAuth.Proofs.Auth.Ledger.Storage
import DeviceAuth.Proofs.Auth.Requests
import DeviceAuth.Proofs.Dictionary

/-!
**Who is enrolled.** Only enrolling changes the devices of a storage, and it takes none away. So the
ids in it (`Storage.deviceIds`) become more and never fewer, and all of them can be encoded if that
was so at first (`Storage.perform_deviceIds`).
-/

namespace DeviceAuth

/-- The ids in a table after a row has been put into it. -/
theorem Database.mem_ids_replaceRow {ρ : Type} {idOf : ρ → Option String} {row : ρ} {rows : List ρ}
    {id name : String} (named : idOf row = some name) :
    id ∈ (replaceRow idOf row rows).filterMap idOf ↔ id = name ∨ id ∈ rows.filterMap idOf := by
  simp only [replaceRow, List.filterMap_append, List.mem_append, List.mem_filterMap,
    List.mem_filter, List.mem_singleton, sameId, named]
  constructor
  · rintro (⟨other, ⟨member, _⟩, found⟩ | ⟨_, rfl, found⟩)
    · exact .inr ⟨other, member, found⟩
    · exact .inl (Option.some.inj (found.symm.trans named))
  · rintro (rfl | ⟨other, member, found⟩)
    · exact .inr ⟨row, rfl, named⟩
    · by_cases same : id = name
      · exact .inr ⟨row, rfl, named.trans (congrArg some same.symm)⟩
      · exact .inl ⟨other, ⟨member, by simp [found, same]⟩, found⟩

namespace Storage

/-- The devices of a storage, as records or as rows, if its place leads to any. -/
def deviceTable (storage : Storage) : Option (Dictionary Credential ⊕ List DeviceRow) :=
  storage.contents.map (Sum.map MemoryStore.devices Database.devices)

/-- The ids of the devices. -/
def deviceIds (storage : Storage) : List String :=
  match storage.deviceTable with
  | some (.inl entries) => entries.keys
  | some (.inr rows) => rows.filterMap DeviceRow.deviceId
  | none => []

/-! ### Looking devices up -/

theorem device_eq (deviceId : String) (storage : Storage) :
    RecordStore.device deviceId storage =
      match storage.deviceTable with
      | some (.inl entries) => .ok (entries.get? deviceId)
      | some (.inr rows) =>
        (Database.row? DeviceRow.deviceId deviceId rows).mapM DeviceRow.toDevice
      | none => .error notADatabase := by
  change storage.look _ _ = _
  rw [look_eq, deviceTable]
  rcases storage.contents with _ | records | database <;> rfl

/-- A device that is found is one of those. -/
theorem mem_deviceIds {deviceId : String} {storage : Storage} {device : Credential}
    (found : RecordStore.device deviceId storage = .ok (some device)) :
    deviceId ∈ storage.deviceIds := by
  rw [device_eq] at found
  unfold deviceIds
  rcases table : storage.deviceTable with _ | entries | rows <;> simp only [table] at found ⊢
  · cases found
  · exact Dictionary.mem_keys_of_get? (Except.ok.inj found)
  · obtain ⟨row, member, named, _⟩ := Database.exists_of_read found
    exact List.mem_filterMap.mpr ⟨row, member, named⟩

/-! ### Changes -/

section Changes

variable {storage after : Storage}

/-- A change of other tables leaves the devices. -/
theorem deviceTable_of_change {α : Type} {answer : α}
    {inMemory : MemoryStore → Except AuthError (α × MemoryStore)}
    {inDatabase : Database → Except AuthError (α × Database)}
    (ofMemory : ∀ records kept, inMemory records = .ok (answer, kept) →
      kept.devices = records.devices)
    (ofDatabase : ∀ database kept, inDatabase database = .ok (answer, kept) →
      kept.devices = database.devices)
    (changed : storage.change inMemory inDatabase = .ok (answer, after)) :
    after.deviceTable = storage.deviceTable := by
  rcases change_eq_ok changed with ⟨records, kept, before, step, now⟩ |
    ⟨database, kept, before, step, now⟩
  · simp only [deviceTable, before, now, Option.map_some, Sum.map_inl, ofMemory records kept step]
  · simp only [deviceTable, before, now, Option.map_some, Sum.map_inr,
      ofDatabase database kept step]

@[inherit_doc deviceTable_of_change]
theorem deviceTable_of_write {inMemory : MemoryStore → Except AuthError MemoryStore}
    {inDatabase : Database → Except AuthError Database}
    (ofMemory : ∀ records kept, inMemory records = .ok kept → kept.devices = records.devices)
    (ofDatabase : ∀ database kept, inDatabase database = .ok kept →
      kept.devices = database.devices)
    (written : storage.write inMemory inDatabase = .ok after) :
    after.deviceTable = storage.deviceTable := by
  rcases write_eq_ok written with ⟨records, kept, before, step, now⟩ |
    ⟨database, kept, before, step, now⟩
  · simp only [deviceTable, before, now, Option.map_some, Sum.map_inl, ofMemory records kept step]
  · simp only [deviceTable, before, now, Option.map_some, Sum.map_inr,
      ofDatabase database kept step]

/-- Only a device whose id can be encoded is enrolled, and nobody is taken away for it. -/
theorem mem_deviceIds_enroll {device : Credential}
    (enrolled : RecordStore.enroll device storage = .ok after) :
    DeviceId.encodable device.deviceId = true ∧
      ∀ id, id ∈ after.deviceIds ↔ id = device.deviceId ∨ id ∈ storage.deviceIds := by
  rcases write_eq_ok enrolled with ⟨records, kept, before, step, now⟩ |
    ⟨database, kept, before, step, now⟩
  · simp only [RecordStore.enroll, MemoryStore.enroll] at step
    rcases encoded : DeviceId.encode device.deviceId with _ | word <;> rw [encoded] at step <;>
      cases step
    refine ⟨by simp [DeviceId.encodable, encoded, Except.isOk, Except.toBool], fun id => ?_⟩
    simp only [deviceIds, deviceTable, before, now, Option.map_some, Sum.map_inl]
    exact Dictionary.mem_keys_put
  · simp only [RecordStore.enroll, Database.enroll] at step
    rcases encoded : DeviceId.encode device.deviceId with _ | word <;> rw [encoded] at step <;>
      cases step
    refine ⟨by simp [DeviceId.encodable, encoded, Except.isOk, Except.toBool], fun id => ?_⟩
    simp only [deviceIds, deviceTable, before, now, Option.map_some, Sum.map_inr]
    exact Database.mem_ids_replaceRow rfl

end Changes

end Storage

/-! ### Requests -/

/-- What a change leaves in a store, if it succeeds, it leaves in any case. -/
theorem State.view_change {σ α β : Type} (view : σ → β) {state : State σ}
    {result : Except AuthError (α × σ)}
    (same : ∀ answer store, result = .ok (answer, store) → view store = view state.store) :
    view (state.change result).2.store = view state.store := by
  rcases result with error | ⟨answer, store⟩
  · rfl
  · exact same answer store rfl

@[inherit_doc State.view_change]
theorem State.view_write {σ β : Type} (view : σ → β) {state : State σ} {result : Except AuthError σ}
    (same : ∀ store, result = .ok store → view store = view state.store) :
    view (state.write result).2.store = view state.store := by
  rcases result with error | store
  · rfl
  · exact same store rfl

namespace Storage

/-- Only enrolling changes the devices. -/
theorem perform_deviceTable (request : Request) (state : State Storage)
    (other : ∀ device, request ≠ .enroll device) :
    (request.perform state).2.store.deviceTable = state.store.deviceTable := by
  -- All other changes are of another table, in memory as in a database.
  cases request with
  | enroll device => exact absurd rfl (other device)
  | addChallenge challenge =>
    refine State.view_write deviceTable fun _ => deviceTable_of_write ?_ ?_
    · intro records kept added
      simp only [RecordStore.addChallenge, MemoryStore.addChallenge] at added
      split at added <;> cases added
      rfl
    · intro database kept added
      simp only [RecordStore.addChallenge, Database.addChallenge] at added
      rcases inserted : Database.insertRow "challenges.challenge_id" ChallengeRow.challengeId
        (.ofChallenge challenge) database.challenges with _ | _ <;> rw [inserted] at added <;>
        cases added
      rfl
  | addSession session =>
    refine State.view_write deviceTable fun _ => deviceTable_of_write ?_ ?_
    · intro records kept added
      cases added
      rfl
    · intro database kept added
      simp only [RecordStore.addSession, Database.addSession] at added
      rcases inserted : Database.insertRow "sessions.session_id" SessionRow.sessionId
        (.ofSession session) database.sessions with _ | _ <;> rw [inserted] at added <;>
        cases added
      rfl
  | spendChallenge challengeId =>
    refine State.view_change deviceTable fun _ _ => deviceTable_of_change ?_ ?_
    · intro records kept spent
      simp only [RecordStore.spendChallenge, MemoryStore.spendChallenge] at spent
      split at spent
      · split at spent <;> cases spent <;> rfl
      · cases spent
        rfl
    · rintro database kept ⟨⟩
      rfl
  | dropChallenges _ | dropSessions _ =>
    refine State.view_change deviceTable fun _ _ => deviceTable_of_change ?_ ?_ <;>
      · rintro _ _ ⟨⟩
        rfl
  | noteUse _ _ | prolongSession _ _ _ =>
    refine State.view_change deviceTable fun _ _ => deviceTable_of_change ?_ ?_
    · intro records kept changed
      simp only [RecordStore.noteUse, RecordStore.prolongSession, MemoryStore.updateSession]
        at changed
      split at changed <;> cases changed <;> rfl
    · rintro _ _ ⟨⟩
      rfl
  | removeSession _ =>
    refine State.view_change deviceTable fun _ _ => deviceTable_of_change ?_ ?_
    · intro records kept removed
      simp only [RecordStore.removeSession, MemoryStore.removeSession] at removed
      split at removed <;> cases removed <;> rfl
    · rintro _ _ ⟨⟩
      rfl
  | now | device _ | challenge _ | session _ | liveDevices _ | failures _ | countFailure _
  | forgetFailures _ | license => rfl

/-- **No request takes a device away**, and none enrolls a device whose id cannot be encoded. -/
theorem perform_deviceIds (request : Request) (state : State Storage) :
    (∀ id ∈ state.store.deviceIds, id ∈ (request.perform state).2.store.deviceIds) ∧
      ((∀ id ∈ state.store.deviceIds, DeviceId.encodable id = true) →
        ∀ id ∈ (request.perform state).2.store.deviceIds, DeviceId.encodable id = true) := by
  have unchanged : (∀ device, request ≠ .enroll device) →
      (request.perform state).2.store.deviceIds = state.store.deviceIds := fun other => by
    simp only [deviceIds, perform_deviceTable request state other]
  cases request with
  | enroll device =>
    simp only [Request.perform, State.write, State.change]
    rcases enrolled : RecordStore.enroll device state.store with _ | after
    · exact ⟨fun _ => id, id⟩
    · obtain ⟨encodes, mem_iff⟩ := mem_deviceIds_enroll enrolled
      refine ⟨fun id member => (mem_iff id).mpr (.inr member), fun encodable id member => ?_⟩
      rcases (mem_iff id).mp member with rfl | before
      · exact encodes
      · exact encodable id before
  | _ =>
    rw [unchanged fun _ same => by cases same]
    exact ⟨fun _ => id, id⟩

/-- Where a session cannot be added, the storage fails. -/
theorem addSession_error {session : Session} {storage : Storage} {error : AuthError}
    (failed : RecordStore.addSession session storage = .error error) :
    ∃ detail, error = .storage detail := by
  rcases write_eq_error failed with ⟨_, failed⟩ | ⟨database, failed⟩ | fault
  · cases failed
  · simp only [RecordStore.addSession, Database.addSession, Database.insertRow] at failed
    split at failed <;> cases failed
    exact ⟨_, rfl⟩
  · exact fault

end Storage

end DeviceAuth
