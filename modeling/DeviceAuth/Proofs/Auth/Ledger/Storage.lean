import DeviceAuth.Auth.Storage
import DeviceAuth.Proofs.Auth.Ledger.Database

/-!
**The storage keeps a ledger,** wherever its records are: the ledger of its `contents`, which are
records in memory or tables, or nothing if the place leads to no database. Reading reads the
contents (`look_eq_ok`); a change that succeeds changes the contents and stays in the same place
(`change_eq_ok`). So what is known of the store in memory and of the database holds of the storage.
-/

namespace DeviceAuth

namespace Storage

/-- The records of a storage, if its place leads to any. -/
def contents (storage : Storage) : Option (MemoryStore ⊕ Database) :=
  match storage.place with
  | .memory records => some (.inl records)
  | .unnamed database => some (.inr database)
  | .named name => some (.inr ((storage.disk.named.lookup name).getD .empty))
  | .file location _ =>
    match storage.disk.find? location with
    | some (.database database) => some (.inr database)
    | _ => none

/-- What is read is read from the contents. -/
theorem look_eq_ok {α : Type} {storage : Storage} {inMemory : MemoryStore → Except AuthError α}
    {inDatabase : Database → Except AuthError α} {answer : α}
    (found : storage.look inMemory inDatabase = .ok answer) :
    (∃ records, storage.contents = some (.inl records) ∧ inMemory records = .ok answer) ∨
      ∃ database, storage.contents = some (.inr database) ∧ inDatabase database = .ok answer := by
  obtain ⟨place, disk⟩ := storage
  unfold look at found
  cases place with
  | memory records => exact .inl ⟨records, rfl, found⟩
  | unnamed database => exact .inr ⟨database, rfl, found⟩
  | named name => exact .inr ⟨_, rfl, found⟩
  | file location writable =>
    rcases entry : disk.find? location with _ | _ | content | database <;>
      simp only [entry] at found <;> try cases found
    exact .inr ⟨database, by simp only [contents, entry], found⟩

/-- Reading is a function of the contents. -/
theorem look_eq {α : Type} (storage : Storage) (inMemory : MemoryStore → Except AuthError α)
    (inDatabase : Database → Except AuthError α) :
    storage.look inMemory inDatabase =
      match storage.contents with
      | some (.inl records) => inMemory records
      | some (.inr database) => inDatabase database
      | none => .error notADatabase := by
  obtain ⟨place, disk⟩ := storage
  cases place with
  | memory _ | unnamed _ | named _ => rfl
  | file location writable =>
    simp only [look, contents]
    rcases disk.find? location with _ | _ | content | database <;> rfl

/-- **A change that succeeds** changes the contents, and nothing else is in their place. -/
theorem change_eq_ok {α : Type} {storage after : Storage}
    {inMemory : MemoryStore → Except AuthError (α × MemoryStore)}
    {inDatabase : Database → Except AuthError (α × Database)} {answer : α}
    (changed : storage.change inMemory inDatabase = .ok (answer, after)) :
    (∃ records kept, storage.contents = some (.inl records) ∧
        inMemory records = .ok (answer, kept) ∧ after.contents = some (.inl kept)) ∨
      ∃ database kept, storage.contents = some (.inr database) ∧
        inDatabase database = .ok (answer, kept) ∧ after.contents = some (.inr kept) := by
  obtain ⟨place, disk⟩ := storage
  unfold change at changed
  cases place with
  | memory records =>
    rcases result : inMemory records with _ | ⟨_, kept⟩
    · simp only [result] at changed; cases changed
    · simp only [result] at changed
      cases changed
      exact .inl ⟨records, kept, rfl, result, rfl⟩
  | unnamed database =>
    rcases result : inDatabase database with _ | ⟨_, kept⟩
    · simp only [result] at changed; cases changed
    · simp only [result] at changed
      cases changed
      exact .inr ⟨database, kept, rfl, result, rfl⟩
  | named name =>
    rcases result : inDatabase ((disk.named.lookup name).getD .empty) with _ | ⟨_, kept⟩
    · simp only [result] at changed; cases changed
    · simp only [result] at changed
      cases changed
      exact .inr ⟨_, kept, rfl, result, by simp [contents, Files.Tree.insertNamed]⟩
  | file location writable =>
    rcases entry : disk.find? location with _ | _ | content | database <;>
      simp only [entry] at changed <;> try cases changed
    have below : location ≠ [] := by
      rintro rfl
      cases entry
    rcases result : inDatabase database with _ | ⟨_, kept⟩ <;> cases writable <;>
      simp only [result] at changed <;> cases changed
    exact .inr ⟨database, kept, by simp only [contents, entry], result,
      by simp only [contents, Files.Tree.find?_insert _ _ below]⟩

/-- A change without another answer is a change. -/
theorem write_eq_ok {storage after : Storage}
    {inMemory : MemoryStore → Except AuthError MemoryStore}
    {inDatabase : Database → Except AuthError Database}
    (written : storage.write inMemory inDatabase = .ok after) :
    (∃ records kept, storage.contents = some (.inl records) ∧
        inMemory records = .ok kept ∧ after.contents = some (.inl kept)) ∨
      ∃ database kept, storage.contents = some (.inr database) ∧
        inDatabase database = .ok kept ∧ after.contents = some (.inr kept) := by
  unfold write at written
  rcases result : storage.change (fun records => return ((), ← inMemory records))
    (fun database => return ((), ← inDatabase database)) with _ | ⟨_, changed⟩
  · rw [result] at written; cases written
  rw [result] at written
  cases written
  rcases change_eq_ok result with ⟨records, kept, before, step, now⟩ |
    ⟨database, kept, before, step, now⟩
  · refine .inl ⟨records, kept, before, ?_, now⟩
    rcases inner : inMemory records with _ | _ <;> rw [inner] at step <;> cases step
    rfl
  · refine .inr ⟨database, kept, before, ?_, now⟩
    rcases inner : inDatabase database with _ | _ <;> rw [inner] at step <;> cases step
    rfl

/-- A change that fails has failed in the contents, or for want of a place to be made in. -/
theorem change_eq_error {α : Type} {storage : Storage}
    {inMemory : MemoryStore → Except AuthError (α × MemoryStore)}
    {inDatabase : Database → Except AuthError (α × Database)} {error : AuthError}
    (failed : storage.change inMemory inDatabase = .error error) :
    (∃ records, inMemory records = .error error) ∨
      (∃ database, inDatabase database = .error error) ∨ ∃ detail, error = .storage detail := by
  obtain ⟨place, disk⟩ := storage
  unfold change at failed
  cases place with
  | memory records =>
    rcases result : inMemory records with _ | _
    · simp only [result] at failed
      cases failed
      exact .inl ⟨records, result⟩
    · simp only [result] at failed; cases failed
  | unnamed database =>
    rcases result : inDatabase database with _ | _
    · simp only [result] at failed
      cases failed
      exact .inr (.inl ⟨database, result⟩)
    · simp only [result] at failed; cases failed
  | named name =>
    rcases result : inDatabase ((disk.named.lookup name).getD .empty) with _ | _
    · simp only [result] at failed
      cases failed
      exact .inr (.inl ⟨_, result⟩)
    · simp only [result] at failed; cases failed
  | file location writable =>
    rcases entry : disk.find? location with _ | _ | content | database <;>
      simp only [entry] at failed <;> try (cases failed; exact .inr (.inr ⟨_, rfl⟩))
    rcases result : inDatabase database with cause | _ <;> cases writable <;>
      simp only [result] at failed <;> cases failed
    · cases cause <;> first | exact .inr (.inr ⟨_, rfl⟩) | exact .inr (.inl ⟨database, result⟩)
    · exact .inr (.inl ⟨database, result⟩)
    · exact .inr (.inr ⟨_, rfl⟩)

/-- A change without another answer fails like a change. -/
theorem write_eq_error {storage : Storage} {inMemory : MemoryStore → Except AuthError MemoryStore}
    {inDatabase : Database → Except AuthError Database} {error : AuthError}
    (failed : storage.write inMemory inDatabase = .error error) :
    (∃ records, inMemory records = .error error) ∨
      (∃ database, inDatabase database = .error error) ∨ ∃ detail, error = .storage detail := by
  unfold write at failed
  rcases result : storage.change (fun records => return ((), ← inMemory records))
    (fun database => return ((), ← inDatabase database)) with cause | changed
  · rw [result] at failed
    cases failed
    rcases change_eq_error result with ⟨records, step⟩ | ⟨database, step⟩ | fault
    · refine .inl ⟨records, ?_⟩
      rcases inner : inMemory records with _ | _ <;> rw [inner] at step <;> cases step
      rfl
    · refine .inr (.inl ⟨database, ?_⟩)
      rcases inner : inDatabase database with _ | _ <;> rw [inner] at step <;> cases step
      rfl
    · exact .inr (.inr fault)
  · rw [result] at failed; cases failed

/-! ### The ledger -/

/-- The ledger of the contents; without contents there is nothing in it. -/
def ledger (storage : Storage) : Ledger :=
  match storage.contents with
  | some (.inl records) => LedgerStore.ledger records
  | some (.inr database) => LedgerStore.ledger database
  | none => { challenges := fun _ _ _ => False, sessions := fun _ _ => False, filed := True }

theorem ledger_inl {storage : Storage} {records : MemoryStore}
    (inside : storage.contents = some (.inl records)) :
    storage.ledger = LedgerStore.ledger records := by
  simp only [ledger, inside]

theorem ledger_inr {storage : Storage} {database : Database}
    (inside : storage.contents = some (.inr database)) :
    storage.ledger = LedgerStore.ledger database := by
  simp only [ledger, inside]

/-- What a change does to the ledgers of both kinds of contents, it does to the ledger. -/
theorem related_of_change {α : Type} (related : Ledger → Ledger → Prop) {storage after : Storage}
    {inMemory : MemoryStore → Except AuthError (α × MemoryStore)}
    {inDatabase : Database → Except AuthError (α × Database)} {answer : α}
    (ofMemory : ∀ records kept, inMemory records = .ok (answer, kept) →
      related (LedgerStore.ledger records) (LedgerStore.ledger kept))
    (ofDatabase : ∀ database kept, inDatabase database = .ok (answer, kept) →
      related (LedgerStore.ledger database) (LedgerStore.ledger kept))
    (changed : storage.change inMemory inDatabase = .ok (answer, after)) :
    related storage.ledger after.ledger := by
  rcases change_eq_ok changed with ⟨records, kept, before, step, now⟩ |
    ⟨database, kept, before, step, now⟩
  · rw [ledger_inl before, ledger_inl now]
    exact ofMemory records kept step
  · rw [ledger_inr before, ledger_inr now]
    exact ofDatabase database kept step

@[inherit_doc related_of_change]
theorem related_of_write (related : Ledger → Ledger → Prop) {storage after : Storage}
    {inMemory : MemoryStore → Except AuthError MemoryStore}
    {inDatabase : Database → Except AuthError Database}
    (ofMemory : ∀ records kept, inMemory records = .ok kept →
      related (LedgerStore.ledger records) (LedgerStore.ledger kept))
    (ofDatabase : ∀ database kept, inDatabase database = .ok kept →
      related (LedgerStore.ledger database) (LedgerStore.ledger kept))
    (written : storage.write inMemory inDatabase = .ok after) :
    related storage.ledger after.ledger := by
  rcases write_eq_ok written with ⟨records, kept, before, step, now⟩ |
    ⟨database, kept, before, step, now⟩
  · rw [ledger_inl before, ledger_inl now]
    exact ofMemory records kept step
  · rw [ledger_inr before, ledger_inr now]
    exact ofDatabase database kept step

end Storage

open LedgerStore Storage in
instance : LedgerStore Storage where
  ledger := Storage.ledger
  challenge_found found := by
    rcases look_eq_ok found with ⟨records, inside, found⟩ | ⟨database, inside, found⟩
    · rw [ledger_inl inside]
      exact challenge_found found
    · rw [ledger_inr inside]
      exact challenge_found found
  device_found filed found := by
    rcases look_eq_ok found with ⟨records, inside, found⟩ | ⟨database, inside, found⟩
    · rw [ledger_inl inside] at filed
      exact device_found filed found
    · rw [ledger_inr inside] at filed
      exact device_found filed found
  enroll_shrinks := related_of_write _ (fun _ _ => enroll_shrinks) (fun _ _ => enroll_shrinks)
  addChallenge_offers :=
    related_of_write _ (fun _ _ => addChallenge_offers) (fun _ _ => addChallenge_offers)
  spend_shrinks := related_of_change _ (fun _ _ => spend_shrinks) (fun _ _ => spend_shrinks)
  spend_closes {challengeId _ _} :=
    related_of_change (fun before after => ¬ before.Closed challengeId ∧ after.Closed challengeId)
      (fun _ _ => spend_closes) (fun _ _ => spend_closes)
  dropChallenges_shrinks :=
    related_of_change _ (fun _ _ => dropChallenges_shrinks) (fun _ _ => dropChallenges_shrinks)
  addSession_opens := related_of_write _ (fun _ _ => addSession_opens) (fun _ _ => addSession_opens)
  addSession_fault failed := by
    rcases write_eq_error failed with ⟨_, failed⟩ | ⟨_, failed⟩ | ⟨_, rfl⟩
    · exact addSession_fault failed
    · exact addSession_fault failed
    · rfl
  noteUse_shrinks := related_of_change _ (fun _ _ => noteUse_shrinks) (fun _ _ => noteUse_shrinks)
  prolongSession_shrinks :=
    related_of_change _ (fun _ _ => prolongSession_shrinks) (fun _ _ => prolongSession_shrinks)
  removeSession_shrinks :=
    related_of_change _ (fun _ _ => removeSession_shrinks) (fun _ _ => removeSession_shrinks)
  dropSessions_shrinks :=
    related_of_change _ (fun _ _ => dropSessions_shrinks) (fun _ _ => dropSessions_shrinks)

end DeviceAuth
