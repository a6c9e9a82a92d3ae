import DeviceAuth.Auth.MemoryStore

/-!
**What every store has in common.** A `Ledger` is what is left of a store without its times, nonces
and tokens: which challenges it keeps, for whom and whether they are used, and which sessions, for
whom. `LedgerStore` says what the operations of a store do to its ledger.

* Only adding a challenge brings a challenge into the ledger, and only adding a session a session;
  every other operation `Shrinks` the ledger, or uses a challenge up.
* A challenge is spent only if it was unused, and afterwards none with its id is
  (`LedgerStore.spend_closes`). This is all that single use rests on.

The store in memory is such a store; so are the database and the storage that is one of them in some
place, each in a module of its own.
-/

namespace DeviceAuth

/-- The challenges and sessions of a store. -/
structure Ledger where
  /-- There is a challenge with an id for a device, used or not. -/
  challenges : String → String → Bool → Prop
  /-- There is a session with an id for a device. -/
  sessions : String → String → Prop
  /-- Every device is found under its own id. -/
  filed : Prop

namespace Ledger

/-- **Nothing new**: challenges are those of before or have been used up, and sessions are those of
before. -/
structure Shrinks (before after : Ledger) : Prop where
  challenges : ∀ challengeId deviceId used, after.challenges challengeId deviceId used →
    before.challenges challengeId deviceId used ∨
      used = true ∧ before.challenges challengeId deviceId false
  sessions : ∀ sessionId deviceId, after.sessions sessionId deviceId →
    before.sessions sessionId deviceId
  filed : before.filed → after.filed

/-- One challenge more, whose id is new. -/
structure Offers (challenge : Challenge) (before after : Ledger) : Prop where
  fresh : ∀ deviceId used, ¬ before.challenges challenge.challengeId deviceId used
  challenges : ∀ challengeId deviceId used, after.challenges challengeId deviceId used →
    before.challenges challengeId deviceId used ∨
      challengeId = challenge.challengeId ∧ deviceId = challenge.deviceId ∧ used = challenge.used
  sessions : ∀ sessionId deviceId, after.sessions sessionId deviceId →
    before.sessions sessionId deviceId
  filed : before.filed → after.filed

/-- One session more. -/
structure Opens (session : Session) (before after : Ledger) : Prop where
  challenges : ∀ challengeId deviceId used, after.challenges challengeId deviceId used →
    before.challenges challengeId deviceId used
  sessions : ∀ sessionId deviceId, after.sessions sessionId deviceId →
    before.sessions sessionId deviceId ∨
      sessionId = session.sessionId ∧ deviceId = session.deviceId
  filed : before.filed → after.filed

/-- No challenge with this id is unused. -/
def Closed (ledger : Ledger) (challengeId : String) : Prop :=
  ∀ deviceId, ¬ ledger.challenges challengeId deviceId false

/-- No challenges and no sessions; every device under its own id, as enrolling files it. -/
structure Blank (ledger : Ledger) : Prop where
  challenges : ∀ challengeId deviceId used, ¬ ledger.challenges challengeId deviceId used
  sessions : ∀ sessionId deviceId, ¬ ledger.sessions sessionId deviceId
  filed : ledger.filed

theorem Shrinks.refl (ledger : Ledger) : ledger.Shrinks ledger where
  challenges _ _ _ := .inl
  sessions _ _ := id
  filed := id

/-- What is unused was unused before. -/
theorem Shrinks.unused {before after : Ledger} (shrinks : before.Shrinks after)
    {challengeId deviceId : String} (held : after.challenges challengeId deviceId false) :
    before.challenges challengeId deviceId false := by
  rcases shrinks.challenges _ _ _ held with same | ⟨used, _⟩
  · exact same
  · cases used

/-- What is there was there before. -/
theorem Shrinks.held {before after : Ledger} (shrinks : before.Shrinks after)
    {challengeId deviceId : String} {used : Bool}
    (held : after.challenges challengeId deviceId used) :
    ∃ earlier, before.challenges challengeId deviceId earlier := by
  rcases shrinks.challenges _ _ _ held with same | ⟨_, unused⟩
  · exact ⟨used, same⟩
  · exact ⟨false, unused⟩

theorem Shrinks.trans {first second third : Ledger} (begins : first.Shrinks second)
    (goesOn : second.Shrinks third) : first.Shrinks third where
  challenges challengeId deviceId used held := by
    rcases goesOn.challenges _ _ _ held with same | ⟨rfl, unused⟩
    · exact begins.challenges _ _ _ same
    · exact .inr ⟨rfl, begins.unused unused⟩
  sessions _ _ held := begins.sessions _ _ (goesOn.sessions _ _ held)
  filed filed := goesOn.filed (begins.filed filed)

end Ledger

open Ledger in
/-- **A store that keeps a ledger,** and what its operations do to it. -/
class LedgerStore (σ : Type) [RecordStore σ] where
  /-- The ledger of a store. -/
  ledger : σ → Ledger
  challenge_found {challengeId : String} {store : σ} {challenge : Challenge} :
    RecordStore.challenge challengeId store = .ok (some challenge) →
      (ledger store).challenges challengeId challenge.deviceId challenge.used
  device_found {deviceId : String} {store : σ} {device : Credential} : (ledger store).filed →
    RecordStore.device deviceId store = .ok (some device) → device.deviceId = deviceId
  enroll_shrinks {device : Credential} {store after : σ} :
    RecordStore.enroll device store = .ok after → (ledger store).Shrinks (ledger after)
  addChallenge_offers {challenge : Challenge} {store after : σ} :
    RecordStore.addChallenge challenge store = .ok after →
      Offers challenge (ledger store) (ledger after)
  spend_shrinks {challengeId : String} {store after : σ} {spent : Bool} :
    RecordStore.spendChallenge challengeId store = .ok (spent, after) →
      (ledger store).Shrinks (ledger after)
  spend_closes {challengeId : String} {store after : σ} :
    RecordStore.spendChallenge challengeId store = .ok (true, after) →
      ¬ (ledger store).Closed challengeId ∧ (ledger after).Closed challengeId
  dropChallenges_shrinks {moment : Instant} {store after : σ} {count : Nat} :
    RecordStore.dropChallenges moment store = .ok (count, after) →
      (ledger store).Shrinks (ledger after)
  addSession_opens {session : Session} {store after : σ} :
    RecordStore.addSession session store = .ok after →
      Opens session (ledger store) (ledger after)
  addSession_fault {session : Session} {store : σ} {error : AuthError} :
    RecordStore.addSession session store = .error error → error.countsAgainstDevice = false
  noteUse_shrinks {sessionId : String} {usedAt : Instant} {store after : σ} {found : Bool} :
    RecordStore.noteUse sessionId usedAt store = .ok (found, after) →
      (ledger store).Shrinks (ledger after)
  prolongSession_shrinks {sessionId token : String} {expiresAt : Instant} {store after : σ}
      {found : Bool} :
    RecordStore.prolongSession sessionId expiresAt token store = .ok (found, after) →
      (ledger store).Shrinks (ledger after)
  removeSession_shrinks {sessionId : String} {store after : σ} {found : Bool} :
    RecordStore.removeSession sessionId store = .ok (found, after) →
      (ledger store).Shrinks (ledger after)
  dropSessions_shrinks {moment : Instant} {store after : σ} {count : Nat} :
    RecordStore.dropSessions moment store = .ok (count, after) →
      (ledger store).Shrinks (ledger after)

/-! ### The store in memory -/

namespace MemoryStore

/-- The ledger of the records in memory. -/
def ledger (store : MemoryStore) : Ledger where
  challenges challengeId deviceId used := ∃ challenge : Challenge,
    (challengeId, challenge) ∈ store.challenges ∧ challenge.deviceId = deviceId ∧
      challenge.used = used
  sessions sessionId deviceId := ∃ session : Session,
    (sessionId, session) ∈ store.sessions ∧ session.deviceId = deviceId
  filed := ∀ deviceId device, (deviceId, device) ∈ store.devices → device.deviceId = deviceId

theorem ledger_updateSession (sessionId : String) (change : Session → Session)
    (same : ∀ session, (change session).deviceId = session.deviceId) (store : MemoryStore) :
    store.ledger.Shrinks (store.updateSession sessionId change).2.ledger := by
  unfold updateSession
  split
  · refine ⟨fun _ _ _ => .inl, fun other deviceId => ?_, id⟩
    rintro ⟨session, member, rfl⟩
    obtain ⟨held, inside, ⟨_, rfl⟩ | ⟨_, rfl⟩⟩ := Dictionary.mem_update member
    · exact ⟨held, inside, (same held).symm⟩
    · exact ⟨session, inside, rfl⟩
  · exact .refl _

theorem ledger_removeSession (sessionId : String) (store : MemoryStore) :
    store.ledger.Shrinks (store.removeSession sessionId).2.ledger := by
  unfold removeSession
  split
  · refine ⟨fun _ _ _ => .inl, fun other deviceId => ?_, id⟩
    rintro ⟨session, member, owner⟩
    exact ⟨session, (List.mem_filter.mp member).1, owner⟩
  · exact .refl _

/-- A challenge that has been used up. -/
def marked (challenge : Challenge) : Challenge :=
  { challenge with used := true }

theorem ledger_spendChallenge (challengeId : String) (store : MemoryStore) :
    store.ledger.Shrinks (store.spendChallenge challengeId).2.ledger := by
  unfold spendChallenge
  split
  · next challenge found =>
    split
    · exact .refl _
    · next unused =>
      refine ⟨fun other deviceId used => ?_, fun _ _ => id, id⟩
      rintro ⟨changed, member, rfl, rfl⟩
      have entry : (other, changed) ∈ store.challenges.update challengeId marked := member
      obtain ⟨held, inside, ⟨rfl, rfl⟩ | ⟨_, rfl⟩⟩ := Dictionary.mem_update entry
      · cases spent : held.used
        · exact .inr ⟨rfl, held, inside, rfl, spent⟩
        · exact .inl ⟨held, inside, rfl, spent⟩
      · exact .inl ⟨changed, inside, rfl, rfl⟩
  · exact .refl _

theorem closes_spendChallenge {challengeId : String} {store : MemoryStore}
    (spent : (store.spendChallenge challengeId).1 = true) :
    ¬ store.ledger.Closed challengeId ∧
      (store.spendChallenge challengeId).2.ledger.Closed challengeId := by
  unfold spendChallenge at spent ⊢
  split at spent
  · next challenge found =>
    split at spent
    · cases spent
    · next unused =>
      simp only [unused, Bool.false_eq_true, if_false]
      refine ⟨fun closed => ?_, fun deviceId => ?_⟩
      · exact closed challenge.deviceId
          ⟨challenge, Dictionary.mem_of_get? found, rfl, by simpa using unused⟩
      · rintro ⟨changed, member, -, notUsed⟩
        have entry : (challengeId, changed) ∈ store.challenges.update challengeId marked := member
        obtain ⟨held, _, ⟨_, rfl⟩ | ⟨different, _⟩⟩ := Dictionary.mem_update entry
        · cases notUsed
        · exact different rfl
  · cases spent

end MemoryStore

instance : LedgerStore MemoryStore where
  ledger := MemoryStore.ledger
  challenge_found found := by
    injection found with found
    exact ⟨_, Dictionary.mem_of_get? found, rfl, rfl⟩
  device_found filed found := by
    injection found with found
    exact filed _ _ (Dictionary.mem_of_get? found)
  enroll_shrinks {device store after} enrolled := by
    simp only [RecordStore.enroll, MemoryStore.enroll] at enrolled
    cases encoded : AuthError.liftZkp (DeviceId.encode device.deviceId) with
    | error _ => rw [encoded] at enrolled; cases enrolled
    | ok _ =>
      rw [encoded] at enrolled
      cases enrolled
      refine ⟨fun _ _ _ => .inl, fun _ _ => id, fun filed deviceId other member => ?_⟩
      rcases Dictionary.mem_put member with before | ⟨rfl, rfl⟩
      · exact filed deviceId other before
      · rfl
  addChallenge_offers {challenge store after} added := by
    simp only [RecordStore.addChallenge, MemoryStore.addChallenge] at added
    split at added
    · cases added
    · next absent =>
      cases added
      refine ⟨?_, ?_, fun _ _ => id, id⟩
      · rintro deviceId used ⟨held, member, -⟩
        exact Dictionary.not_mem_of_get? absent member
      · rintro challengeId deviceId used ⟨held, member, rfl, rfl⟩
        rcases Dictionary.mem_put member with before | ⟨rfl, rfl⟩
        · exact .inl ⟨held, before, rfl, rfl⟩
        · exact .inr ⟨rfl, rfl, rfl⟩
  spend_shrinks {challengeId store after spent} done := by
    injection done with done
    have shrinks := MemoryStore.ledger_spendChallenge challengeId store
    rwa [done] at shrinks
  spend_closes {challengeId store after} done := by
    injection done with done
    have closes := MemoryStore.closes_spendChallenge (congrArg Prod.fst done)
    rwa [done] at closes
  dropChallenges_shrinks dropped := by
    cases dropped
    refine ⟨fun _ _ _ => ?_, fun _ _ => id, id⟩
    rintro ⟨challenge, member, rest⟩
    exact .inl ⟨challenge, (List.mem_filter.mp member).1, rest⟩
  addSession_opens {session store after} added := by
    cases added
    refine ⟨fun _ _ _ => id, fun sessionId deviceId => ?_, id⟩
    rintro ⟨held, member, rfl⟩
    rcases Dictionary.mem_put member with before | ⟨rfl, rfl⟩
    · exact .inl ⟨held, before, rfl⟩
    · exact .inr ⟨rfl, rfl⟩
  addSession_fault failed := by cases failed
  noteUse_shrinks {sessionId usedAt store after found} done := by
    injection done with done
    have shrinks := MemoryStore.ledger_updateSession sessionId
      (fun session => { session with lastUsedAt := usedAt }) (fun _ => rfl) store
    rwa [done] at shrinks
  prolongSession_shrinks {sessionId token expiresAt store after found} done := by
    injection done with done
    have shrinks := MemoryStore.ledger_updateSession sessionId
      (fun session => { session with expiresAt, token }) (fun _ => rfl) store
    rwa [done] at shrinks
  removeSession_shrinks {sessionId store after found} done := by
    injection done with done
    have shrinks := MemoryStore.ledger_removeSession sessionId store
    rwa [done] at shrinks
  dropSessions_shrinks dropped := by
    cases dropped
    refine ⟨fun _ _ _ => .inl, fun _ _ => ?_, id⟩
    rintro ⟨session, member, rest⟩
    exact ⟨session, (List.mem_filter.mp member).1, rest⟩

end DeviceAuth
