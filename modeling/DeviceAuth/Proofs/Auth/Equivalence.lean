import DeviceAuth.Proofs.Auth.Exact
import DeviceAuth.Proofs.Auth.History
import Mathlib.Data.List.Induction

/-!
**Databases serve as the store in memory does.** A service whose lifetimes are whole milliseconds
asks its store only for what a database keeps exactly, as long as it is given canonical words and
whole instants (`Operation.Exact`). Such an operation runs on a storage as it runs on the records of
the storage (`Operation.Exact.run_onto`), so its answers do not show where the records are.

* `Service.perform_onto`, `Service.events_onto`: the same for calls, and for runs.
* `events_eq_of_stores`: a run over a database shows what it shows in memory, and leaves a database
  in which the same is found.
-/

namespace DeviceAuth

/-! ### Operations -/

namespace Operation

/-- **An operation that a database can serve exactly.** What it carries is kept exactly, its course
does not depend on the order in which live devices are listed, and it adds at most one record, under
the spare id. -/
inductive Exact {α : Type} : Option String → Operation α → Prop
  | done {spare : Option String} (result : Except Failure α) : Exact spare (.done result)
  | ask {spare : Option String} {request : Request} {next : request.Answer → Operation α} :
      request.added? = none → request.IsExact →
      (∀ first second, request.Alike first second → next first = next second) →
      (∀ answer, request.Alike answer answer → Exact spare (next answer)) →
      Exact spare (.ask request next)
  | add {id : String} {request : Request} {next : request.Answer → Operation α} :
      request.added? = some id → request.IsExact → (∀ answer, Exact none (next answer)) →
      Exact (some id) (.ask request next)

namespace Exact

variable {α β : Type} {spare : Option String}

theorem pure (value : α) : Exact spare (Pure.pure value : Operation α) := .done _

theorem refuse (error : AuthError) : Exact spare (Operation.refuse error : Operation α) := .done _

theorem ofResult (result : Except AuthError α) : Exact spare (Operation.ofResult result) := .done _

/-- A request with one possible answer, which ends the operation. -/
theorem request {request : Request} {next : request.Answer → Except Failure α}
    (adds : request.added? = none) (may : request.IsExact)
    (same : ∀ first second, request.Alike first second → first = second) :
    Exact spare (.ask request fun answer => .done (next answer)) :=
  .ask adds may (fun first second alike => by rw [same first second alike]) fun _ _ => .done _

/-- The clock shows a whole instant. -/
theorem now {rest : Instant → Operation α}
    (goesOn : ∀ moment, moment.IsWhole → Exact spare (rest moment)) :
    Exact spare (Operation.now >>= rest) :=
  .ask rfl trivial (fun _ _ alike => congrArg rest alike.1)
    fun moment alike => goesOn moment alike.2

/-- What adds nothing may add something. -/
theorem spareNone {operation : Operation α} (exact : Exact none operation) :
    Exact spare operation := by
  generalize nothing : (none : Option String) = id at exact
  induction exact with
  | done result => exact .done result
  | ask adds may same _ ih => exact .ask adds may same fun answer alike => ih answer alike nothing
  | add _ _ _ _ => cases nothing

/-- A whole instant is a whole duration later. -/
theorem later {moment : Instant} {duration : Duration} (whole : moment.IsWhole)
    (span : duration.nanos % 1000000 = 0) {rest : Instant → Operation α}
    (goesOn : ∀ deadline, deadline.IsWhole → Exact spare (rest deadline)) :
    Exact spare (Operation.later moment duration >>= rest) := by
  rcases moved : moment.add? duration with _ | deadline
  · have ends : Operation.later moment duration = .done (.error .overflow) := by
      rw [Operation.later, Failure.later, moved]
    rw [ends]
    exact .done _
  · have ends : Operation.later moment duration = .done (.ok deadline) := by
      rw [Operation.later, Failure.later, moved]
    rw [ends]
    exact goesOn deadline (whole.add? span moved)

theorem bind {first : Operation α} {rest : α → Operation β} (begins : Exact none first)
    (goesOn : ∀ value, Exact spare (rest value)) : Exact spare (first >>= rest) := by
  generalize nothing : (none : Option String) = id at begins
  induction begins with
  | done result =>
    rcases result with failure | value
    · exact .done _
    · exact goesOn value
  | ask adds may same _ ih =>
    exact .ask adds may
      (fun first second alike => congrArg (andThen · rest) (same first second alike))
      fun answer alike => ih answer alike nothing
  | add _ _ _ _ => cases nothing

theorem ite {condition : Prop} [Decidable condition] {first second : Operation α}
    (yes : Exact spare first) (no : Exact spare second) :
    Exact spare (if condition then first else second) := by
  split
  · exact yes
  · exact no

theorem onRefusal {operation : Operation α} {handle : AuthError → Operation α}
    (begins : Exact spare operation) (handled : ∀ error, Exact none (handle error)) :
    Exact spare (operation.onRefusal handle) := by
  induction begins with
  | done result =>
    rcases result with (error | _) | value
    · exact (handled error).spareNone
    · exact .done _
    · exact .done _
  | ask adds may same _ ih =>
    exact .ask adds may
      (fun first second alike =>
        congrArg (Operation.onRefusal · handle) (same first second alike)) ih
  | add adds may _ ih => exact .add adds may ih

end Exact

end Operation

open Operation

/-! ### The operations of a service -/

/-- Lifetimes are whole milliseconds. -/
structure Service.IsExact (service : Service) : Prop where
  challenges : service.challengeLifetime.nanos % 1000000 = 0
  sessions : service.sessions.lifetime.nanos % 1000000 = 0

namespace SessionPolicy

variable (policy : SessionPolicy)

theorem exact_recognize (token : String) (moment : Instant) :
    Exact none (policy.recognize token moment) := by
  refine .bind (.ofResult _) fun claims => ?_
  refine .bind (.request rfl trivial fun _ _ alike => alike) fun found => ?_
  rcases found with _ | session
  · exact .refuse _
  · exact .ite (.refuse _) (.ite (.refuse _) (.bind (.ofResult _) fun _ => .pure _))

theorem exact_accept (token : String) : Exact none (policy.accept token) := by
  refine .now fun moment whole => ?_
  refine .bind (policy.exact_recognize token moment) fun (claims, _) => ?_
  refine .bind (.request rfl whole fun _ _ alike => alike) fun noted => ?_
  exact .ite (.pure _) (.refuse _)

theorem exact_extend (span : policy.lifetime.nanos % 1000000 = 0) (token : String) :
    Exact none (policy.extend token) := by
  refine .now fun moment whole => ?_
  refine .bind (policy.exact_recognize token moment) fun (claims, session) => ?_
  refine .later whole span fun expiresAt wholeToo => ?_
  refine .bind (.request rfl wholeToo fun _ _ alike => alike) fun prolonged => .ite ?_ (.refuse _)
  exact .bind (.request rfl whole fun _ _ alike => alike) fun _ => .pure _

theorem exact_close (sessionId : String) : Exact none (close sessionId) :=
  .bind (.request rfl trivial fun _ _ alike => alike) fun _ => .ite (.pure _) (.refuse _)

theorem exact_create (span : policy.lifetime.nanos % 1000000 = 0) (sessionId deviceId : String) :
    Exact (some sessionId) (policy.create sessionId deviceId) := by
  refine .now fun moment whole => .later whole span fun expiresAt wholeToo => ?_
  refine .add rfl ⟨whole, wholeToo, whole⟩ fun answer => ?_
  rcases answer with _ | _ <;> exact .done _

end SessionPolicy

namespace Service

variable {service : Service}

theorem exact_credentialOf (deviceId : String) : Exact none (credentialOf deviceId) := by
  refine .bind (.request rfl trivial fun _ _ alike => alike) fun found => ?_
  rcases found with _ | device
  · exact .refuse _
  · exact .ite (.pure _) (.refuse _)

/-- How many devices are live, and whether one of them is, does not depend on their order. -/
theorem exact_checkQuota (deviceId : String) (maxDevices : UInt32) :
    Exact none (checkQuota deviceId maxDevices) := by
  refine .ite (.pure _) (.ask rfl trivial (fun _ _ alike => ?_) fun moment alike => ?_)
  · rw [alike.1]
  · refine .ask rfl alike.2 ?_ fun answer _ => ?_
    · rintro _ _ ⟨live, others, rfl, rfl, perm⟩
      show (if ¬ live.contains deviceId ∧ maxDevices.toNat ≤ live.length then _ else _) =
        if ¬ others.contains deviceId ∧ maxDevices.toNat ≤ others.length then _ else _
      rw [perm.contains_eq, perm.length_eq]
    · rcases answer with _ | live
      · exact .done _
      · exact .ite (.refuse _) (.pure _)

theorem exact_checkLicense (deviceId : String) : Exact none (checkLicense deviceId) := by
  refine .bind (.request rfl trivial fun _ _ alike => alike) fun gate => .ite ?_ (.pure _)
  exact .now fun moment _ => .bind (.done _) fun _ => exact_checkQuota deviceId gate.maxDevices

theorem exact_issueChallenge (exact : service.IsExact) (challengeId : String) {nonce : Word256}
    (canonical : nonce.IsCanonical) (deviceId : String) :
    Exact (some challengeId) (service.issueChallenge challengeId nonce deviceId) := by
  refine .bind (exact_credentialOf deviceId) fun _ => ?_
  refine .bind (.request rfl trivial fun _ _ alike => alike) fun failures => .ite (.refuse _) ?_
  refine .bind (exact_checkLicense deviceId) fun _ => .now fun moment whole => ?_
  refine .later whole exact.challenges fun expiresAt wholeToo => ?_
  refine .add rfl ⟨canonical, whole, wholeToo⟩ fun answer => ?_
  rcases answer with _ | _ <;> exact .done _

theorem exact_holdAgainst (deviceId : String) (error : AuthError) :
    Exact none (holdAgainst deviceId error) := by
  refine .ite (.bind (.ask rfl trivial (fun _ _ alike => ?_) fun answer _ => ?_) fun known => ?_)
    (.refuse _)
  · rw [show _ = _ from alike]
  · rcases answer with _ | (_ | _)
    · exact .pure _
    · exact .pure _
    · exact .pure _
  · refine .ite (.ite ?_ (.refuse _)) (.refuse _)
    exact .bind (.request rfl trivial fun _ _ alike => alike) fun _ => .refuse _

theorem exact_openChallenge (challengeId : String) (moment : Instant) :
    Exact none (openChallenge challengeId moment) := by
  refine .bind (.request rfl trivial fun _ _ alike => alike) fun found => ?_
  rcases found with _ | challenge
  · exact .refuse _
  · exact .ite (.refuse _) (.ite (.refuse _) (.pure _))

theorem exact_submitProof (exact : service.IsExact) (sessionId deviceId challengeId : String)
    (proof : Bytes) (values : PublicValues) :
    Exact (some sessionId) (service.submitProof sessionId deviceId challengeId proof values) := by
  refine .onRefusal (.now fun moment _ => ?_) (exact_holdAgainst deviceId)
  refine .bind (exact_openChallenge challengeId moment) fun challenge => ?_
  refine .bind (exact_credentialOf deviceId) fun device => .bind (.ofResult _) fun _ => ?_
  refine .bind (.ofResult _) fun valid => .ite ?_ (.refuse _)
  refine .bind (.request rfl trivial fun _ _ alike => alike) fun spent => .ite ?_ (.refuse _)
  refine .bind (.request rfl trivial fun _ _ alike => alike) fun _ => ?_
  exact service.sessions.exact_create exact.sessions sessionId device.deviceId

theorem exact_submit (exact : service.IsExact) (sessionId : String) (request : ProofSubmission) :
    Exact (some sessionId) (service.submit sessionId request) := by
  unfold submit
  split
  · exact exact_submitProof exact _ _ _ _ _
  · exact (exact_holdAgainst _ _).spareNone

theorem exact_endByToken (token : String) : Exact none (service.endByToken token) := by
  refine .bind (service.sessions.exact_accept token) fun claims => ?_
  exact .bind (SessionPolicy.exact_close claims.sessionId) fun _ => .pure _

theorem exact_removeExpired : Exact none removeExpired := by
  refine .now fun moment whole => ?_
  refine .bind (.request rfl whole fun _ _ alike => alike) fun challenges => ?_
  exact .bind (.request rfl whole fun _ _ alike => alike) fun sessions => .pure _

end Service

/-! ### Running on a storage -/

/-- **A state with exact records,** in which no record has one of the unused ids. -/
structure State.IsExact (unused : List String) (plain : State MemoryStore) : Prop where
  records : plain.store.IsExact
  whole : plain.now.IsWhole
  distinct : unused.Nodup
  lacks : ∀ id ∈ unused, plain.store.ledger.Lacks id

section Onto

variable {resolution : Resolution} {plain : State MemoryStore} {storage : Storage}
  {unused : List String} {spare : Option String}

theorem State.IsExact.of_append {used : List String}
    (exact : plain.IsExact (used ++ unused)) : plain.IsExact unused :=
  { exact with
    distinct := (List.nodup_append.mp exact.distinct).2.1
    lacks := fun id member => exact.lacks id (List.mem_append_right _ member) }

theorem State.IsExact.perform (exact : plain.IsExact unused) {request : Request}
    (may : request.IsExact) (other : ∀ id ∈ unused, request.added? ≠ some id) :
    (request.perform plain).2.IsExact unused where
  records := request.perform_isExact may exact.records
  whole := (request.perform_sameTerms plain).now ▸ exact.whole
  distinct := exact.distinct
  lacks id member := request.perform_lacks (exact.lacks id member) (other id member)

/-- What is alike is alike to itself. -/
theorem Request.Alike.right {request : Request} {first second : request.Answer}
    (alike : request.Alike first second) : request.Alike second second := by
  cases request with
  | now =>
    obtain ⟨rfl, whole⟩ := alike
    exact ⟨rfl, whole⟩
  | liveDevices _ =>
    obtain ⟨_, others, _, rfl, _⟩ := alike
    exact ⟨others, others, rfl, rfl, .refl _⟩
  | _ => rfl

/-- Adding a record has one possible answer. -/
theorem Request.Alike.eq_of_added {request : Request} {id : String}
    {first second : request.Answer} (adds : request.added? = some id)
    (alike : request.Alike first second) : first = second := by
  cases request with
  | addChallenge _ | addSession _ => exact alike
  | _ => cases adds

/-- **An exact operation runs on a storage as on the records that it keeps.** -/
theorem Operation.Exact.run_onto {α : Type} {operation : Operation α}
    (exact : Exact spare operation) (begins : plain.IsExact (spare.toList ++ unused))
    (keeps : storage.Keeps resolution plain.store) :
    ∃ after, operation.run (plain.onto storage) =
        ((operation.run plain).1, (operation.run plain).2.onto after) ∧
      after.Keeps resolution (operation.run plain).2.store ∧
      (operation.run plain).2.IsExact unused := by
  induction exact generalizing plain storage with
  | done result => exact ⟨storage, rfl, keeps, begins.of_append⟩
  | @ask spare request next adds may same _ ih =>
    obtain ⟨answer, after, performed, alike, now⟩ :=
      keeps.perform_onto begins.records begins.whole may fun id added => by
        rw [adds] at added
        cases added
    have exactNow := begins.perform may fun id _ added => by
      rw [adds] at added
      cases added
    simp only [run_ask, performed, same _ _ alike]
    exact ih _ alike.right exactNow now
  | @add id request next adds may _ ih =>
    -- The spare id is used up, and it is none of those that stay unused.
    obtain ⟨answer, after, performed, alike, now⟩ :=
      keeps.perform_onto begins.records begins.whole may fun other added => by
        obtain rfl : id = other := Option.some.inj (adds.symm.trans added)
        exact begins.lacks id List.mem_cons_self
    have exactNow := (begins.of_append).perform may fun other member added => by
      obtain rfl : id = other := Option.some.inj (adds.symm.trans added)
      exact (List.nodup_cons.mp begins.distinct).1 member
    simp only [run_ask, performed, alike.eq_of_added adds]
    exact ih _ exactNow now

end Onto

/-! ### Calls -/

/-- The id that is drawn for a call. -/
def Call.drawn? : Call → Option String
  | .issueChallenge challengeId _ _ => some challengeId
  | .submitProof sessionId _ _ _ _ => some sessionId
  | .submit sessionId _ => some sessionId
  | _ => none

/-- Commitments are canonical, nonces too, as those that are drawn always are, and the clock is set
to whole instants. -/
def Call.IsExact : Call → Prop
  | .issueChallenge _ nonce _ => nonce.IsCanonical
  | .enroll device => device.commitment.IsCanonical
  | .setClock now => now.IsWhole
  | _ => True

instance (call : Call) : Decidable call.IsExact :=
  match call with
  | .issueChallenge _ nonce _ => inferInstanceAs (Decidable nonce.IsCanonical)
  | .enroll device => inferInstanceAs (Decidable device.commitment.IsCanonical)
  | .setClock now => inferInstanceAs (Decidable now.IsWhole)
  | .submitProof _ _ _ _ _ | .submit _ _ | .acceptToken _ | .extendSession _ | .endSession _
  | .endByToken _ | .removeExpired | .forgetFailures _ | .replaceLicense _ =>
    inferInstanceAs (Decidable True)

section Calls

variable {service : Service} {resolution : Resolution} {plain : State MemoryStore}
  {storage : Storage} {unused : List String}

/-- **A call is answered by a storage as it is by the records.** -/
theorem Service.perform_onto (exact : service.IsExact) {call : Call} (may : call.IsExact)
    (begins : plain.IsExact (call.drawn?.toList ++ unused))
    (keeps : storage.Keeps resolution plain.store) :
    ∃ after, service.perform call (plain.onto storage) =
        ((service.perform call plain).1, (service.perform call plain).2.onto after) ∧
      after.Keeps resolution (service.perform call plain).2.store ∧
      (service.perform call plain).2.IsExact unused := by
  cases call with
  | issueChallenge challengeId nonce deviceId =>
    exact (exact_issueChallenge exact challengeId may deviceId).run_onto begins keeps
  | submitProof sessionId deviceId challengeId proof values =>
    have submits := exact_submitProof exact sessionId deviceId challengeId proof values
    exact submits.run_onto begins keeps
  | submit sessionId request =>
    have submits := exact_submit exact sessionId request
    simp only [perform]
    -- What the request decodes to plays no part any more.
    generalize service.submit sessionId request = operation at submits ⊢
    exact submits.run_onto begins keeps
  | acceptToken token => exact (service.sessions.exact_accept token).run_onto begins keeps
  | extendSession token =>
    exact (service.sessions.exact_extend exact.sessions token).run_onto begins keeps
  | endSession sessionId => exact (SessionPolicy.exact_close sessionId).run_onto begins keeps
  | endByToken token => exact (service.exact_endByToken token).run_onto begins keeps
  | removeExpired => exact exact_removeExpired.run_onto begins keeps
  | forgetFailures deviceId =>
    have forgets : Exact none (Operation.forgetFailures deviceId) :=
      .request rfl trivial fun _ _ alike => alike
    exact forgets.run_onto begins keeps
  | enroll device =>
    have enrolls : Exact none (Operation.enroll device) := .request rfl may fun _ _ alike => alike
    exact enrolls.run_onto begins keeps
  | replaceLicense gate => exact ⟨storage, rfl, keeps, { begins with }⟩
  | setClock now => exact ⟨storage, rfl, keeps, { begins with whole := may }⟩

/-- **A run on a storage shows what a run on its records shows,** and the storage keeps them. -/
theorem Service.events_onto (exact : service.IsExact) {calls : List Call}
    (may : ∀ call ∈ calls, call.IsExact)
    (begins : plain.IsExact (calls.filterMap Call.drawn? ++ unused))
    (keeps : storage.Keeps resolution plain.store) :
    service.events calls (plain.onto storage) = service.events calls plain ∧
      ∃ after, service.after calls (plain.onto storage) = (service.after calls plain).onto after ∧
        after.Keeps resolution (service.after calls plain).store ∧
        (service.after calls plain).IsExact unused := by
  induction calls generalizing plain storage with
  | nil => exact ⟨rfl, storage, rfl, keeps, begins⟩
  | cons call rest ih =>
    have drawn : (call :: rest).filterMap Call.drawn? ++ unused =
        call.drawn?.toList ++ (rest.filterMap Call.drawn? ++ unused) := by
      rw [List.filterMap_cons]
      cases call.drawn? <;> rfl
    rw [drawn] at begins
    obtain ⟨after, performed, keepsNow, exactNow⟩ :=
      service.perform_onto exact (may call List.mem_cons_self) begins keeps
    simp only [events, Service.after, performed]
    obtain ⟨same, final⟩ :=
      ih (fun other member => may other (List.mem_cons_of_mem _ member)) exactNow keepsNow
    exact ⟨congrArg _ same, final⟩

end Calls

/-! ### The two kinds of stores -/

/-- **Two states in which the same is found**, live devices in any order. -/
structure State.Agrees (first second : State Storage) : Prop where
  device : ∀ deviceId, RecordStore.device deviceId first.store =
    RecordStore.device deviceId second.store
  challenge : ∀ challengeId, RecordStore.challenge challengeId first.store =
    RecordStore.challenge challengeId second.store
  session : ∀ sessionId, RecordStore.session sessionId first.store =
    RecordStore.session sessionId second.store
  live : ∃ devices others, RecordStore.liveDevices first.now first.store = .ok devices ∧
    RecordStore.liveDevices second.now second.store = .ok others ∧ devices.Perm others
  counters : first.counters = second.counters

theorem State.agrees_onto {plain : State MemoryStore} {unused : List String}
    (exact : plain.IsExact unused) {first second : Storage} {resolution other : Resolution}
    (keeps : first.Keeps resolution plain.store) (keepsToo : second.Keeps other plain.store) :
    (plain.onto first).Agrees (plain.onto second) where
  device id := (keeps.found exact.records id).1.trans (keepsToo.found exact.records id).1.symm
  challenge id :=
    (keeps.found exact.records id).2.1.trans (keepsToo.found exact.records id).2.1.symm
  session id :=
    (keeps.found exact.records id).2.2.trans (keepsToo.found exact.records id).2.2.symm
  live := by
    obtain ⟨devices, listed, perm⟩ := keeps.listed exact.records exact.whole
    obtain ⟨others, listedToo, permToo⟩ := keepsToo.listed exact.records exact.whole
    exact ⟨devices, others, listed, listedToo, perm.trans permToo.symm⟩
  counters := rfl

theorem Duration.whole_of_ofSeconds? {seconds : Int} {span : Duration}
    (found : ofSeconds? seconds = some span) : span.nanos % 1000000 = 0 := by
  rw [nanos_of_ofSeconds? found, nanosPerSecond]
  omega

theorem Failure.whole_of_duration {seconds : Int} {span : Duration}
    (given : Failure.duration seconds = .ok span) : span.nanos % 1000000 = 0 := by
  unfold duration at given
  rcases found : Duration.ofSeconds? seconds with _ | held <;> rw [found] at given
  · cases given
  · obtain rfl : held = span := Except.ok.inj given
    exact Duration.whole_of_ofSeconds? found

theorem Service.whole_lifetime {seconds : UInt64} {name : String} {span : Duration}
    (given : lifetime seconds name = .ok span) : span.nanos % 1000000 = 0 := by
  unfold lifetime at given
  split at given
  · exact Failure.whole_of_duration given
  · cases given

/-- A service has the lifetimes that its settings ask for. -/
theorem Service.lifetimes_ofSettings {checker : ProofChecker} {settings : AuthSettings}
    {given : Option TokenSecret} {material : Bytes} {service : Service}
    (built : ofSettings checker settings given material = .ok service) :
    lifetime settings.challengeLifetime "challenge_ttl_secs" = .ok service.challengeLifetime ∧
      lifetime settings.sessionLifetime "session_ttl_secs" = .ok service.sessions.lifetime := by
  unfold ofSettings at built
  rcases challenges : lifetime settings.challengeLifetime "challenge_ttl_secs" with _ | span
  · rw [challenges] at built
    cases built
  rcases sessions : lifetime settings.sessionLifetime "session_ttl_secs" with _ | spanToo
  · rw [challenges, sessions] at built
    cases built
  rcases chosen : chooseSecret settings given material with _ | secret <;>
    simp only [challenges, sessions, chosen, bind, Except.bind] at built <;> split at built <;>
    cases built
  exact ⟨rfl, rfl⟩

/-- Lifetimes that settings ask for are whole seconds. -/
theorem Service.isExact_ofSettings {checker : ProofChecker} {settings : AuthSettings}
    {given : Option TokenSecret} {material : Bytes} {service : Service}
    (built : ofSettings checker settings given material = .ok service) : service.IsExact :=
  ⟨whole_lifetime (lifetimes_ofSettings built).1, whole_lifetime (lifetimes_ofSettings built).2⟩

/-- **A database serves as the store in memory does.** Two services with the same settings and the
same license, one over records in memory and one over a database, both without records at first,
give the same answers to the same calls, over every run in which ids are distinct, nonces and
commitments canonical, and instants whole milliseconds. After each call the same is found in both.
-/
theorem events_eq_of_stores {checker : ProofChecker} {settings : AuthSettings}
    {given : Option TokenSecret} {material : Bytes} {service : Service}
    (built : Service.ofSettings checker settings given material = .ok service)
    {start : State Storage} {database : Storage}
    (inMemory : start.store.Keeps .nanoseconds .empty)
    (inTables : database.Keeps .milliseconds .empty) (whole : start.now.IsWhole)
    (calls : List Call) (exact : ∀ call ∈ calls, call.IsExact)
    (distinct : (calls.filterMap Call.drawn?).Nodup) :
    service.events calls { start with store := database } = service.events calls start ∧
      ∀ earlier, earlier <+: calls →
        (service.after earlier start).Agrees
          (service.after earlier { start with store := database }) := by
  have begins : State.IsExact (calls.filterMap Call.drawn?) { start with store := .empty } :=
    { records := MemoryStore.isExact_empty
      whole
      distinct
      lacks := fun id _ => MemoryStore.lacks_empty id }
  have along : ∀ earlier, earlier <+: calls →
      service.events earlier { start with store := database } = service.events earlier start ∧
        (service.after earlier start).Agrees
          (service.after earlier { start with store := database }) := by
    rintro earlier ⟨later, rfl⟩
    rw [List.filterMap_append] at begins
    have may : ∀ call ∈ earlier, call.IsExact :=
      fun call member => exact call (List.mem_append_left _ member)
    have sound := Service.isExact_ofSettings built
    -- Each storage is compared with the records that both keep, and not with the other.
    obtain ⟨shown, first, inMemory, keeps, exactThen⟩ :=
      service.events_onto sound may begins inMemory
    obtain ⟨shownToo, second, inTables, keepsToo, _⟩ :=
      service.events_onto sound may begins inTables
    have agrees := State.agrees_onto exactThen keeps keepsToo
    rw [← inMemory, ← inTables] at agrees
    exact ⟨shownToo.trans shown.symm, agrees⟩
  exact ⟨(along calls (List.prefix_refl _)).1, fun earlier begins => (along earlier begins).2⟩

/-! A device redeems a challenge, the clock goes back and forth, and the session expires. -/

namespace Sample

/-- Settings with lifetimes of one second. -/
def settings : AuthSettings where
  challengeLifetime := 1
  sessionLifetime := 1

/-- The service with these settings, and an empty secret. -/
def configured : Service where
  checker := ⟨"accept-all", acceptNonempty⟩
  sessions := ⟨.ofSecret (.configured []), second⟩
  challengeLifetime := second
  failureLimit := 5

/-- Three milliseconds after the session has expired. -/
def afterwards : Instant where
  seconds := 1
  nanos := 3000000
  seconds_ge := by decide
  seconds_le := by decide
  nanos_lt := by decide
  leap_aligned := by decide

/-- A database without records. -/
def database : Storage :=
  ⟨.unnamed .empty, ⟨[], [], []⟩⟩

/-- One session, which is removed when it has expired, and not before. -/
def passing : List Call := [
  .enroll device,
  .issueChallenge "challenge" (.ofNat 2) "device",
  .submitProof "session" "device" "challenge" [1] (values 2),
  .removeExpired,
  .setClock afterwards,
  .setClock epoch,
  .setClock afterwards,
  .removeExpired]

end Sample

open Sample in
theorem events_eq_of_stores_passing :
    (Event.openings (configured.events passing vacant)).map (·.session.sessionId) = ["session"] ∧
      configured.events passing { vacant with store := database } =
          configured.events passing vacant ∧
        ∀ earlier, earlier <+: passing →
          (configured.after earlier vacant).Agrees
            (configured.after earlier { vacant with store := database }) := by
  have built : Service.ofSettings ⟨"accept-all", acceptNonempty⟩ settings (some (.configured []))
      [] = .ok configured := rfl
  have inMemory : vacant.store.Keeps .nanoseconds .empty :=
    ⟨MemoryStore.tidy_empty, trivial, true, rfl⟩
  have inTables : database.Keeps .milliseconds .empty :=
    ⟨MemoryStore.tidy_empty, trivial, true, rfl⟩
  exact ⟨by decide +kernel,
    events_eq_of_stores built inMemory inTables (by decide) passing (by decide) (by decide)⟩

end DeviceAuth
