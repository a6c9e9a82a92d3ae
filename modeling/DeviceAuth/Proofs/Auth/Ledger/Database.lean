import DeviceAuth.Auth.Database
import DeviceAuth.Proofs.Auth.Ledger

/-!
**The database keeps a ledger.** A row counts by its id; a row without one is nobody's. Whether a
challenge is used is read off its cell: only the integer zero says that it is not, and only such a
row is changed when a challenge is spent.
-/

namespace DeviceAuth

namespace Database

/-- The ledger of the tables. -/
def ledger (database : Database) : Ledger where
  challenges challengeId deviceId used := ∃ row ∈ database.challenges,
    row.challengeId = some challengeId ∧ row.deviceId = deviceId ∧
      (used = false ↔ row.used = .integer 0)
  sessions sessionId deviceId := ∃ row ∈ database.sessions,
    row.sessionId = some sessionId ∧ row.deviceId = deviceId
  filed := True

/-! ### Rows -/

section Rows

variable {ρ : Type} {idOf : ρ → Option String} {id : String} {row : ρ} {rows : List ρ}

/-- What is found under an id is read from a row with this id. -/
theorem exists_of_read {α : Type} {read : ρ → Except AuthError α} {value : α}
    (found : (row? idOf id rows).mapM read = .ok (some value)) :
    ∃ row ∈ rows, idOf row = some id ∧ read row = .ok value := by
  rcases first : row? idOf id rows with _ | row
  · rw [first] at found; cases found
  · rw [first] at found
    refine ⟨row, List.mem_of_find?_eq_some first, by simpa using List.find?_some first, ?_⟩
    rcases content : read row with _ | held
    · simp only [Option.mapM_some, content] at found; cases found
    · simp only [Option.mapM_some, content] at found; cases found; rfl

/-- A row that can be inserted has a new id. -/
theorem insertRow_eq_ok {column : String} {after : List ρ}
    (inserted : insertRow column idOf row rows = .ok after) :
    after = rows ++ [row] ∧ ∀ other ∈ rows, ∀ id, idOf row = some id → idOf other ≠ some id := by
  unfold insertRow at inserted
  split at inserted
  · cases inserted
  · next unique =>
    injection inserted with inserted
    refine ⟨inserted.symm, fun other member id same equal => unique ?_⟩
    exact List.any_eq_true.mpr ⟨other, member, by simp [sameId, same, equal]⟩

/-- A row of a changed table was there, or is the change of one that was. -/
theorem mem_updateRows {matching : ρ → Bool} {change : ρ → ρ}
    (member : row ∈ updateRows matching change rows) :
    ∃ held ∈ rows, (matching held = true ∧ row = change held) ∨
      (matching held = false ∧ row = held) := by
  obtain ⟨held, inside, equal⟩ := List.mem_map.mp member
  refine ⟨held, inside, ?_⟩
  split at equal
  · next hit => exact .inl ⟨hit, equal.symm⟩
  · next miss => exact .inr ⟨by simpa using miss, equal.symm⟩

end Rows

/-- The challenge that a row is read as. -/
theorem of_toChallenge {row : ChallengeRow} {challenge : Challenge}
    (read : row.toChallenge = .ok challenge) :
    challenge.deviceId = row.deviceId ∧ (challenge.used = false ↔ row.used = .integer 0) := by
  unfold ChallengeRow.toChallenge at read
  rcases nonce : readWord 2 row.nonce with _ | nonce
  · rw [nonce] at read; cases read
  rcases created : row.createdAt.readInstant 3 "created_at" with _ | createdAt
  · rw [nonce, created] at read; cases read
  rcases expires : row.expiresAt.readInstant 4 "expires_at" with _ | expiresAt
  · rw [nonce, created, expires] at read; cases read
  rcases cell : row.used with value | _ | _
  · rw [nonce, created, expires, cell] at read
    cases read
    simp
  · rw [nonce, created, expires, cell] at read; cases read
  · rw [nonce, created, expires, cell] at read; cases read

/-- The credential that a row is read as. -/
theorem of_toDevice {row : DeviceRow} {device : Credential} (read : row.toDevice = .ok device) :
    device.deviceId = row.deviceId.getD "" := by
  unfold DeviceRow.toDevice at read
  rcases commitment : readWord 2 row.commitment with _ | commitment
  · rw [commitment] at read; cases read
  rcases standing : Standing.ofName row.standing with _ | standing
  · rw [commitment, standing] at read; cases read
  rw [commitment, standing] at read
  cases read
  rfl

/-! ### Changes -/

theorem ledger_updateSession (sessionId : String) (change : SessionRow → SessionRow)
    (same : ∀ row, (change row).sessionId = row.sessionId ∧ (change row).deviceId = row.deviceId)
    (database : Database) :
    database.ledger.Shrinks (database.updateSession sessionId change).2.ledger := by
  refine ⟨fun _ _ _ => .inl, fun other deviceId => ?_, id⟩
  rintro ⟨row, member, named, owned⟩
  obtain ⟨held, inside, ⟨_, rfl⟩ | ⟨_, rfl⟩⟩ := mem_updateRows member
  · exact ⟨held, inside, (same held).1 ▸ named, (same held).2 ▸ owned⟩
  · exact ⟨row, inside, named, owned⟩

theorem ledger_spendChallenge (challengeId : String) (database : Database) :
    database.ledger.Shrinks (database.spendChallenge challengeId).2.ledger := by
  refine ⟨fun other deviceId used => ?_, fun _ _ => id, id⟩
  rintro ⟨row, member, named, owned, unused⟩
  obtain ⟨held, inside, ⟨hit, rfl⟩ | ⟨_, rfl⟩⟩ := mem_updateRows member
  · simp only [Bool.and_eq_true, beq_iff_eq] at hit
    have spent : used = true := by simpa using unused
    exact .inr ⟨spent, held, inside, named, owned, by simp [hit.2]⟩
  · exact .inl ⟨row, inside, named, owned, unused⟩

theorem closes_spendChallenge {challengeId : String} {database : Database}
    (spent : (database.spendChallenge challengeId).1 = true) :
    ¬ database.ledger.Closed challengeId ∧
      (database.spendChallenge challengeId).2.ledger.Closed challengeId := by
  constructor
  · intro closed
    obtain ⟨row, member, hit⟩ := List.any_eq_true.mp spent
    simp only [Bool.and_eq_true, beq_iff_eq] at hit
    exact closed row.deviceId ⟨row, member, hit.1, rfl, by simp [hit.2]⟩
  · rintro deviceId ⟨row, member, named, -, unused⟩
    have zero := unused.mp rfl
    obtain ⟨held, _, ⟨_, rfl⟩ | ⟨miss, rfl⟩⟩ := mem_updateRows member
    · cases zero
    · simp [named, zero] at miss

end Database

instance : LedgerStore Database where
  ledger := Database.ledger
  challenge_found found := by
    obtain ⟨row, member, named, read⟩ := Database.exists_of_read found
    obtain ⟨owned, unused⟩ := Database.of_toChallenge read
    exact ⟨row, member, named, owned.symm, unused⟩
  device_found {deviceId _ device} _ found := by
    obtain ⟨row, _, named, read⟩ := Database.exists_of_read found
    rw [Database.of_toDevice read, named]
    rfl
  enroll_shrinks {device database after} enrolled := by
    simp only [RecordStore.enroll, Database.enroll] at enrolled
    cases encoded : AuthError.liftZkp (DeviceId.encode device.deviceId) with
    | error _ => rw [encoded] at enrolled; cases enrolled
    | ok _ =>
      rw [encoded] at enrolled
      cases enrolled
      exact .refl _
  addChallenge_offers {challenge database after} added := by
    simp only [RecordStore.addChallenge, Database.addChallenge] at added
    rcases inserted : Database.insertRow "challenges.challenge_id" ChallengeRow.challengeId
      (.ofChallenge challenge) database.challenges with _ | challenges
    · rw [inserted] at added; cases added
    · rw [inserted] at added
      cases added
      obtain ⟨rfl, unique⟩ := Database.insertRow_eq_ok inserted
      refine ⟨?_, ?_, fun _ _ => id, id⟩
      · rintro deviceId used ⟨row, member, named, -⟩
        exact unique row member _ rfl named
      · rintro challengeId deviceId used ⟨row, member, named, owned, unused⟩
        rcases List.mem_append.mp member with before | new
        · exact .inl ⟨row, before, named, owned, unused⟩
        · rw [List.mem_singleton.mp new] at named owned unused
          refine .inr ⟨(Option.some.inj named).symm, owned.symm, ?_⟩
          cases spent : challenge.used <;>
            simp_all [ChallengeRow.ofChallenge]
  spend_shrinks {challengeId database after spent} done := by
    injection done with done
    have shrinks := Database.ledger_spendChallenge challengeId database
    rwa [done] at shrinks
  spend_closes {challengeId database after} done := by
    injection done with done
    have closes := Database.closes_spendChallenge (congrArg Prod.fst done)
    rwa [done] at closes
  dropChallenges_shrinks dropped := by
    cases dropped
    refine ⟨fun _ _ _ => ?_, fun _ _ => id, id⟩
    rintro ⟨row, member, rest⟩
    exact .inl ⟨row, (List.mem_filter.mp member).1, rest⟩
  addSession_opens {session database after} added := by
    simp only [RecordStore.addSession, Database.addSession] at added
    rcases inserted : Database.insertRow "sessions.session_id" SessionRow.sessionId
      (.ofSession session) database.sessions with _ | sessions
    · rw [inserted] at added; cases added
    · rw [inserted] at added
      cases added
      obtain ⟨rfl, _⟩ := Database.insertRow_eq_ok inserted
      refine ⟨fun _ _ _ => id, fun sessionId deviceId => ?_, id⟩
      rintro ⟨row, member, named, owned⟩
      rcases List.mem_append.mp member with before | new
      · exact .inl ⟨row, before, named, owned⟩
      · rw [List.mem_singleton.mp new] at named owned
        exact .inr ⟨(Option.some.inj named).symm, owned.symm⟩
  addSession_fault {session database error} failed := by
    simp only [RecordStore.addSession, Database.addSession, Database.insertRow] at failed
    split at failed
    · cases failed
      rfl
    · cases failed
  noteUse_shrinks {sessionId usedAt database after found} done := by
    injection done with done
    have shrinks := Database.ledger_updateSession sessionId
      (fun row => { row with lastUsedAt := .ofInstant usedAt }) (fun _ => ⟨rfl, rfl⟩) database
    rwa [done] at shrinks
  prolongSession_shrinks {sessionId token expiresAt database after found} done := by
    injection done with done
    have shrinks := Database.ledger_updateSession sessionId
      (fun row => { row with expiresAt := .ofInstant expiresAt, token }) (fun _ => ⟨rfl, rfl⟩)
      database
    rwa [done] at shrinks
  removeSession_shrinks removed := by
    cases removed
    refine ⟨fun _ _ _ => .inl, fun _ _ => ?_, id⟩
    rintro ⟨row, member, rest⟩
    exact ⟨row, (List.mem_filter.mp member).1, rest⟩
  dropSessions_shrinks dropped := by
    cases dropped
    refine ⟨fun _ _ _ => .inl, fun _ _ => ?_, id⟩
    rintro ⟨row, member, rest⟩
    exact ⟨row, (List.mem_filter.mp member).1, rest⟩

end DeviceAuth
