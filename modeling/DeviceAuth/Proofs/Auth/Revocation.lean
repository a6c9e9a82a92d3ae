import DeviceAuth.Proofs.Auth.Race
import DeviceAuth.Proofs.Auth.SessionJobs
import DeviceAuth.Proofs.Auth.TokenLifetime

/-!
**Sessions that are revoked stay revoked.** Any number of jobs on sessions are under way at once.
Each turn lets one of them make its next request, lets anybody else make a request of any kind, or
sets the clock, also back. No two sessions are added with one id.

* `Settled`: what the storage keeps before the turns of a schedule, in which sessions are added with
  ids of their own. A turn revises the sessions by one request at most (`Settled.take`).
* `Revoked`: a session was there and is gone. Nothing brings it back (`Settled.after`).
* `revocation_final`: a job that uses a session comes to nothing once the session is gone, unless it
  had ended or had extended the session by then, and a job that ends a session leaves every other
  one as it is.
-/

namespace DeviceAuth

open Operation Storage

/-! ### Jobs under way -/

/-- A job under way. -/
structure Task where
  job : Job
  left : Operation job.Result

/-- Jobs under way, and what they work on. -/
structure Workload where
  tasks : List Task
  state : State Storage

/-- The id of the session that a turn adds. -/
def Turn.opened? : Turn → Option String
  | outside request => request.opened?
  | _ => none

/-- The ids of the sessions that a schedule adds. -/
def openedBy (schedule : List Turn) : List String :=
  schedule.filterMap Turn.opened?

theorem openedBy_append (first second : List Turn) :
    openedBy (first ++ second) = openedBy first ++ openedBy second :=
  List.filterMap_append

namespace Workload

/-- Jobs that all are about to begin. -/
def start (server : Gateway.Server) (jobs : List Job) (state : State Storage) : Workload where
  tasks := jobs.map fun job => ⟨job, job.operation server⟩
  state := state

/-- One turn. -/
def take (work : Workload) : Turn → Workload
  | .advance position =>
    match work.tasks[position]? with
    | some task =>
      { tasks := work.tasks.set position ⟨task.job, (task.left.step work.state).1⟩
        state := (task.left.step work.state).2 }
    | none => work
  | .outside request => { work with state := (request.perform work.state).2 }
  | .setClock now => { work with state := { work.state with now } }

/-- All turns of a schedule. -/
def after (work : Workload) (schedule : List Turn) : Workload :=
  schedule.foldl take work

theorem after_append (work : Workload) (first second : List Turn) :
    work.after (first ++ second) = (work.after first).after second :=
  List.foldl_append

/-- Another job is where it was. -/
theorem take_of_ne (work : Workload) {turn : Turn} {position : Nat}
    (other : turn ≠ .advance position) :
    (work.take turn).tasks[position]? = work.tasks[position]? := by
  cases turn with
  | advance index =>
    simp only [take]
    split
    · have different : index ≠ position := fun same => other (congrArg _ same)
      exact List.getElem?_set_ne different
    · rfl
  | outside _ | setClock _ => rfl

/-- A job whose turn it is makes one request. -/
theorem take_advance (work : Workload) {position : Nat} {task : Task}
    (found : work.tasks[position]? = some task) :
    work.take (.advance position) =
      ⟨work.tasks.set position ⟨task.job, (task.left.step work.state).1⟩,
        (task.left.step work.state).2⟩ := by
  simp only [take, found]

theorem task_take_advance (work : Workload) {position : Nat} {task : Task}
    (found : work.tasks[position]? = some task) :
    (work.take (.advance position)).tasks[position]? =
      some ⟨task.job, (task.left.step work.state).1⟩ := by
  have inside := (List.getElem?_eq_some_iff.mp found).1
  rw [work.take_advance found, List.getElem?_set_self inside]

/-- The request that is made in a turn. -/
def request? (work : Workload) : Turn → Option Request
  | .advance position =>
    match work.tasks[position]? with
    | some ⟨_, .ask request _⟩ => some request
    | _ => none
  | .outside request => some request
  | .setClock _ => none

theorem store_take (work : Workload) (turn : Turn) :
    (work.take turn).state.store =
      match work.request? turn with
      | some request => (request.perform work.state).2.store
      | none => work.state.store := by
  cases turn with
  | advance position =>
    simp only [take, request?]
    rcases work.tasks[position]? with _ | ⟨job, _ | _⟩ <;> rfl
  | outside _ | setClock _ => rfl

end Workload

/-! ### What the storage keeps -/

/-- **What the storage keeps before the turns of a schedule.** -/
structure Settled (resolution : Resolution) (schedule : List Turn) (work : Workload)
    (records : MemoryStore) : Prop where
  keeps : work.state.store.Keeps resolution records
  opensNothing : ∀ task ∈ work.tasks, Only (fun request => request.opened? = none) task.left
  /-- Sessions to come have ids of their own. -/
  distinct : (openedBy schedule).Nodup
  fresh : ∀ sessionId ∈ openedBy schedule, records.sessions.get? sessionId = none

variable {resolution : Resolution} {records kept : MemoryStore} {work : Workload} {turn : Turn}
  {first second rest schedule : List Turn} {position : Nat} {task : Task} {sessionId : String}

namespace Settled

/-- Only the request of somebody else adds a session. -/
theorem revise_none (settled : Settled resolution schedule work records) {request : Request}
    (makes : work.request? turn = some request) (other : turn.opened? ≠ some sessionId) :
    request.revise resolution sessionId none = none := by
  refine Request.revise_none ?_ resolution
  cases turn with
  | advance position =>
    simp only [Workload.request?] at makes
    split at makes
    · next found =>
      cases makes
      cases settled.opensNothing _ (List.mem_of_getElem? found) with
      | ask _ _ nothing _ =>
        rw [nothing]
        nofun
    · cases makes
  | outside request =>
    cases makes
    exact other
  | setClock _ => cases makes

theorem opensNothing_take (settled : Settled resolution schedule work records) (turn : Turn) :
    ∀ task ∈ (work.take turn).tasks, Only (fun request => request.opened? = none) task.left := by
  intro task member
  obtain ⟨position, found⟩ := List.mem_iff_getElem?.mp member
  by_cases own : turn = .advance position
  · subst own
    rcases before : work.tasks[position]? with _ | earlier
    · simp only [Workload.take, before] at found
      cases found
    · rw [work.task_take_advance before] at found
      cases found
      exact (settled.opensNothing _ (List.mem_of_getElem? before)).step work.state
  · rw [work.take_of_ne own] at found
    exact settled.opensNothing _ (List.mem_of_getElem? found)

/-- **One turn** revises every session by the request that is made in it. -/
theorem take (settled : Settled resolution (turn :: rest) work records) :
    ∃ kept, Settled resolution rest (work.take turn) kept ∧ ∀ sessionId,
      kept.sessions.get? sessionId =
        match work.request? turn with
        | some request =>
          request.revise resolution sessionId (records.sessions.get? sessionId)
        | none => records.sessions.get? sessionId := by
  have distinct := settled.distinct
  have split : openedBy (turn :: rest) = turn.opened?.toList ++ openedBy rest := by
    simp only [openedBy, List.filterMap_cons]
    cases turn.opened? <;> rfl
  rw [split, List.nodup_append] at distinct
  have freshLater : ∀ sessionId ∈ openedBy rest, records.sessions.get? sessionId = none :=
    fun sessionId member => settled.fresh sessionId (split ▸ List.mem_append_right _ member)
  have store := work.store_take turn
  rcases makes : work.request? turn with _ | request <;> rw [makes] at store
  · exact ⟨records, ⟨store ▸ settled.keeps, settled.opensNothing_take turn, distinct.2.1,
      freshLater⟩, fun _ => rfl⟩
  obtain ⟨kept, keeps, revised⟩ := settled.keeps.revises request
  refine ⟨kept, ⟨store ▸ keeps, settled.opensNothing_take turn, distinct.2.1, ?_⟩, revised⟩
  intro sessionId member
  rw [revised, freshLater sessionId member]
  exact settled.revise_none makes fun opens =>
    distinct.2.2 sessionId (by simp [opens]) sessionId member rfl

/-- **All turns of a schedule:** what is not there stays away, unless it is added. -/
theorem after (settled : Settled resolution (first ++ second) work records) :
    ∃ kept, Settled resolution second (work.after first) kept ∧ ∀ sessionId,
      records.sessions.get? sessionId = none → sessionId ∉ openedBy first →
        kept.sessions.get? sessionId = none := by
  induction first generalizing work records with
  | nil => exact ⟨records, settled, fun _ absent _ => absent⟩
  | cons turn rest ih =>
    obtain ⟨between, settledNow, revised⟩ := settled.take
    obtain ⟨kept, settledAfter, stays⟩ := ih settledNow
    refine ⟨kept, settledAfter, fun sessionId absent never => ?_⟩
    have other : turn.opened? ≠ some sessionId := fun opens =>
      never (List.mem_filterMap.mpr ⟨turn, List.mem_cons_self, opens⟩)
    refine stays sessionId ?_ fun member => ?_
    · rw [revised, absent]
      split
      · next request makes => exact settled.revise_none makes other
      · rfl
    · obtain ⟨later, inside, opens⟩ := List.mem_filterMap.mp member
      exact never (List.mem_filterMap.mpr ⟨later, List.mem_cons_of_mem _ inside, opens⟩)

/-- What is there is not added again. -/
theorem not_mem_openedBy (settled : Settled resolution schedule work records)
    (present : records.sessions.get? sessionId ≠ none) : sessionId ∉ openedBy schedule :=
  fun member => present (settled.fresh sessionId member)

/-- A session is absent where none is read. -/
theorem session_eq_none_iff (settled : Settled resolution schedule work records) :
    RecordStore.session sessionId work.state.store = .ok none ↔
      records.sessions.get? sessionId = none := by
  refine ⟨settled.keeps.get?_of_session, fun absent => ?_⟩
  rw [settled.keeps.session, absent]
  rfl

end Settled

/-! ### Sessions that are gone -/

/-- **A session was there and is gone.** -/
def Revoked (start : Workload) (schedule : List Turn) (sessionId : String) : Prop :=
  ∃ first second, schedule = first ++ second ∧
    RecordStore.session sessionId (start.after first).state.store ≠ .ok none ∧
    RecordStore.session sessionId (start.after schedule).state.store = .ok none

/-- A session is not there before the turns of a schedule, and is not added in them. -/
structure Gone (resolution : Resolution) (schedule : List Turn) (work : Workload)
    (records : MemoryStore) (sessionId : String) : Prop where
  settled : Settled resolution schedule work records
  absent : records.sessions.get? sessionId = none
  never : sessionId ∉ openedBy schedule

/-- What has been revoked is gone. -/
theorem Revoked.gone (revoked : Revoked work first sessionId)
    (settled : Settled resolution (first ++ second) work records) :
    ∃ kept, Gone resolution second (work.after first) kept sessionId := by
  obtain ⟨earlier, later, rfl, present, absent⟩ := revoked
  rw [List.append_assoc] at settled
  obtain ⟨middle, settledThen, _⟩ := settled.after
  have never := settledThen.not_mem_openedBy (mt settledThen.session_eq_none_iff.mpr present)
  obtain ⟨kept, settledNow, _⟩ := settledThen.after
  rw [← work.after_append] at settledNow
  refine ⟨kept, settledNow, settledNow.session_eq_none_iff.mp absent, fun member => never ?_⟩
  rw [openedBy_append]
  exact List.mem_append_right _ member

/-- **What is gone stays gone.** -/
theorem Gone.after (gone : Gone resolution (first ++ second) work records sessionId) :
    ∃ kept, Gone resolution second (work.after first) kept sessionId := by
  have never := gone.never
  rw [openedBy_append, List.mem_append, not_or] at never
  obtain ⟨kept, settled, stays⟩ := gone.settled.after
  exact ⟨kept, settled, stays sessionId gone.absent never.1, never.2⟩

/-- **A barred operation makes its next request** in vain: nothing that is kept changes. -/
theorem Operation.Barred.step {α : Type} {operation : Operation α} {state : State Storage}
    (barred : Barred sessionId operation) (keeps : state.store.Keeps resolution records)
    (absent : records.sessions.get? sessionId = none) :
    Barred sessionId (operation.step state).1 ∧
      (operation.step state).2.store.Keeps resolution records := by
  have unchanged : ∀ change : Session → Session,
      records.updateSession sessionId change = (false, records) := fun change => by
    rw [MemoryStore.updateSession, absent]
  cases barred with
  | failed => exact ⟨.failed, keeps⟩
  | now next barred => exact ⟨barred state.now, keeps⟩
  | session next barred =>
    refine ⟨?_, keeps⟩
    have answer : RecordStore.session sessionId state.store = .ok none := by
      rw [keeps.session, absent]
      rfl
    simp only [Operation.step, Request.perform, answer]
    exact barred
  | noteUse usedAt next barred =>
    obtain ⟨store, noted, keepsAfter⟩ := keeps.noteUse sessionId usedAt
    rw [unchanged] at noted keepsAfter
    simp only [Operation.step, Request.perform, noted]
    exact ⟨barred, keepsAfter⟩
  | prolongSession expiresAt token next barred =>
    obtain ⟨store, prolonged, keepsAfter⟩ := keeps.prolongSession sessionId expiresAt token
    rw [unchanged] at prolonged keepsAfter
    simp only [Operation.step, Request.perform, prolonged]
    exact ⟨barred, keepsAfter⟩

namespace Workload

/-- The job at a position has ended. -/
def Ended (work : Workload) (position : Nat) : Prop :=
  ∃ task result, work.tasks[position]? = some task ∧ task.left = .done result

/-- It has failed so. -/
def Fails (work : Workload) (position : Nat) (failure : Failure) : Prop :=
  ∃ task, work.tasks[position]? = some task ∧ task.left = .done (.error failure)

/-- It has succeeded. -/
def Succeeded (work : Workload) (position : Nat) : Prop :=
  ∃ task value, work.tasks[position]? = some task ∧ task.left = .done (.ok value) ∧
    task.job.Succeeds value

/-- It is about to note the use of a session. -/
def NotesUse (work : Workload) (position : Nat) (sessionId : String) : Prop :=
  ∃ task usedAt next, work.tasks[position]? = some task ∧
    task.left = .ask (.noteUse sessionId usedAt) next

end Workload

/-- **A job comes to nothing** over the turns of a schedule: it stores nothing, fails since its
session is not found, and does so in four turns. -/
structure ComesToNothing (work : Workload) (position : Nat) (sessionId : String)
    (schedule : List Turn) : Prop where
  storesNothing : ∀ turns, turns ++ [.advance position] <+: schedule → ∀ other,
    RecordStore.session other (work.after (turns ++ [.advance position])).state.store =
      RecordStore.session other (work.after turns).state.store
  fails : ∀ turns, turns <+: schedule → (work.after turns).Ended position →
    (work.after turns).Fails position (.refused (.sessionNotFound sessionId))
  ends : 4 ≤ turnsOf position schedule →
    (work.after schedule).Fails position (.refused (.sessionNotFound sessionId))

/-- A barred job stays barred, and each of its turns brings it nearer to its end. -/
theorem Gone.barred_after {bound : Nat}
    (gone : Gone resolution (first ++ second) work records sessionId)
    (found : work.tasks[position]? = some task) (barred : Barred sessionId task.left)
    (within : Operation.Within bound task.left) :
    ∃ later, (work.after first).tasks[position]? = some later ∧ Barred sessionId later.left ∧
      Operation.Within (bound - turnsOf position first) later.left := by
  induction first generalizing work records task bound with
  | nil => exact ⟨task, found, barred, within⟩
  | cons turn rest ih =>
    have next : Gone resolution ([turn] ++ (rest ++ second)) work records sessionId := gone
    obtain ⟨kept, goneNow⟩ := next.after
    by_cases own : turn = .advance position
    · subst own
      have step := (barred.step gone.settled.keeps gone.absent).1
      obtain ⟨later, foundLater, barredLater, less⟩ :=
        ih goneNow (work.task_take_advance found) step (within.step work.state)
      refine ⟨later, foundLater, barredLater, ?_⟩
      have count : turnsOf position (.advance position :: rest) = turnsOf position rest + 1 := by
        simp [turnsOf, Turn.isOf]
      rwa [count, Nat.add_comm, ← Nat.sub_sub]
    · obtain ⟨later, foundLater, barredLater, less⟩ :=
        ih goneNow ((work.take_of_ne own).trans found) barred within
      refine ⟨later, foundLater, barredLater, ?_⟩
      have count : turnsOf position (turn :: rest) = turnsOf position rest := by
        cases turn <;> simp_all [turnsOf, Turn.isOf]
      rwa [count]

theorem Operation.Barred.eq_error {α : Type} {result : Except Failure α}
    (barred : Barred sessionId (.done result)) :
    result = .error (.refused (.sessionNotFound sessionId)) := by
  cases barred
  rfl

/-- **A barred job comes to nothing.** -/
theorem Gone.comesToNothing (gone : Gone resolution schedule work records sessionId)
    (found : work.tasks[position]? = some task) (barred : Barred sessionId task.left)
    (within : Operation.Within 4 task.left) :
    ComesToNothing work position sessionId schedule := by
  have ended : ∀ {work : Workload} {later : Task}, work.tasks[position]? = some later →
      Barred sessionId later.left → ∀ {result}, later.left = .done result →
        work.Fails position (.refused (.sessionNotFound sessionId)) := by
    intro work later foundLater barredLater result done
    rw [done] at barredLater
    exact ⟨later, foundLater, done.trans (congrArg _ barredLater.eq_error)⟩
  refine ⟨?_, ?_, fun enough => ?_⟩
  · rintro turns ⟨rest, rfl⟩ other
    rw [List.append_assoc] at gone
    obtain ⟨later, foundLater, barredLater, _⟩ := gone.barred_after found barred within
    obtain ⟨kept, goneNow⟩ := gone.after
    have after := (barredLater.step goneNow.settled.keeps goneNow.absent).2
    rw [work.after_append, Workload.after, List.foldl_cons, List.foldl_nil,
      Workload.take_advance _ foundLater, after.session, goneNow.settled.keeps.session]
  · rintro turns ⟨rest, rfl⟩ ⟨task, result, foundToo, done⟩
    obtain ⟨later, foundLater, barredLater, _⟩ := gone.barred_after found barred within
    rw [foundLater] at foundToo
    cases foundToo
    exact ended foundLater barredLater done
  · have whole : Gone resolution (schedule ++ []) work records sessionId := by
      rwa [List.append_nil]
    obtain ⟨later, foundLater, barredLater, left⟩ := whole.barred_after found barred within
    rw [Nat.sub_eq_zero_of_le enough] at left
    obtain ⟨result, done⟩ := left.eq_done
    exact ended foundLater barredLater done

/-! ### Jobs before a session is gone -/

/-- An operation that uses a session does so from one request to the next. -/
theorem Operation.Visits.step {α : Type} {renewing : Prop} {operation : Operation α}
    {state : State Storage} (visits : Visits sessionId renewing operation)
    (keeps : state.store.Keeps resolution records) :
    Visits sessionId renewing (operation.step state).1 := by
  cases visits with
  | done result => exact .done result
  | now next _ goesOn => exact goesOn state.now
  | session next _ goesOn =>
    refine goesOn _ fun session found => ?_
    -- What is kept under an id has that id.
    obtain ⟨held, inside, read⟩ :=
      Dictionary.exists_of_read ((keeps.session sessionId).symm.trans found)
    exact (Resolution.of_readSession read).1.trans
      (keeps.tidy.sessions.keyed _ _ (Dictionary.mem_of_get? inside))
  | noteUse usedAt next _ goesOn => exact goesOn _
  | prolongSession expiresAt token next _ goesOn => exact goesOn _

theorem Settled.visits_after {renewing : Prop} {bound : Nat}
    (settled : Settled resolution (first ++ second) work records)
    (found : work.tasks[position]? = some task) (visits : Visits sessionId renewing task.left)
    (within : Operation.Within bound task.left) :
    ∃ later, (work.after first).tasks[position]? = some later ∧
      Visits sessionId renewing later.left ∧ Operation.Within bound later.left := by
  induction first generalizing work records task with
  | nil => exact ⟨task, found, visits, within⟩
  | cons turn rest ih =>
    obtain ⟨kept, settledNow, _⟩ := settled.take
    by_cases own : turn = .advance position
    · subst own
      exact ih settledNow (work.task_take_advance found) (visits.step settled.keeps)
        ((within.step work.state).mono (Nat.sub_le _ _))
    · exact ih settledNow ((work.take_of_ne own).trans found) visits within

/-- An operation that removes a session before it succeeds has removed it just now, or has yet to do
so. -/
theorem Operation.RemovesFirst.step {α : Type} {good : α → Prop} {operation : Operation α}
    {state : State Storage} (removes : RemovesFirst sessionId good operation)
    (keeps : state.store.Keeps resolution records) :
    RemovesFirst sessionId good (operation.step state).1 ∨
      ∃ next, operation = .ask (.removeSession sessionId) next ∧
        records.sessions.get? sessionId ≠ none := by
  cases removes with
  | failed failure => exact .inl (.failed failure)
  | bad value no => exact .inl (.bad value no)
  | ask request next goesOn => exact .inl (goesOn _)
  | remove next goesOn =>
    rcases held : records.sessions.get? sessionId with _ | session
    · obtain ⟨store, removed, _⟩ := keeps.removeSession sessionId
      rw [records.removeSession_found, held] at removed
      refine .inl (goesOn _ ?_)
      simp only [removed]
      nofun
    · exact .inr ⟨next, rfl, nofun⟩

/-- **A job that succeeds in ending a session** has removed it in one of its turns. -/
theorem Settled.revoked_of_succeeded (settled : Settled resolution (first ++ second) work records)
    (found : work.tasks[position]? = some task)
    (removes : RemovesFirst sessionId task.job.Succeeds task.left)
    (succeeded : (work.after first).Succeeded position) : Revoked work first sessionId := by
  induction first generalizing work records task with
  | nil =>
    obtain ⟨other, value, foundToo, done, good⟩ := succeeded
    rw [Workload.after, List.foldl_nil, found] at foundToo
    cases foundToo
    rw [done] at removes
    cases removes with
    | bad _ no => exact absurd good no
  | cons turn rest ih =>
    obtain ⟨kept, settledNow, revised⟩ := settled.take
    -- What is revoked from the next turn on is revoked.
    have later : Revoked (work.take turn) rest sessionId →
        Revoked work (turn :: rest) sessionId := by
      rintro ⟨begun, last, rfl, present, absent⟩
      exact ⟨turn :: begun, last, rfl, present, absent⟩
    by_cases own : turn = .advance position
    · subst own
      rcases removes.step settled.keeps with still | ⟨next, asks, present⟩
      · exact later (ih settledNow (work.task_take_advance found) still succeeded)
      have gone : kept.sessions.get? sessionId = none := by
        have makes : work.request? (.advance position) = some (.removeSession sessionId) := by
          obtain ⟨job, left⟩ := task
          simp only at asks
          simp only [Workload.request?, found, asks]
        rw [revised, makes]
        exact if_pos rfl
      have never := settled.not_mem_openedBy present
      obtain ⟨left, settledAfter, stays⟩ := settledNow.after
      refine ⟨[], _, rfl, mt settled.session_eq_none_iff.mp present, ?_⟩
      refine settledAfter.session_eq_none_iff.mpr (stays sessionId gone fun member => never ?_)
      obtain ⟨adds, inside, opens⟩ := List.mem_filterMap.mp member
      exact List.mem_filterMap.mpr
        ⟨adds, List.mem_cons_of_mem _ (List.mem_append_left _ inside), opens⟩
    · exact later (ih settledNow ((work.take_of_ne own).trans found) removes succeeded)

/-- A turn of a job that spares a session leaves it as it is. -/
theorem Settled.session_take_advance (settled : Settled resolution schedule work records)
    (found : work.tasks[position]? = some task)
    (spares : Only (Request.Spares sessionId) task.left) :
    RecordStore.session sessionId (work.take (.advance position)).state.store =
      RecordStore.session sessionId work.state.store := by
  rw [work.take_advance found]
  rcases task with ⟨job, result | ⟨request, next⟩⟩
  · rfl
  · cases spares with
    | ask _ _ here _ =>
      obtain ⟨kept, keeps, revised⟩ := settled.keeps.revises request
      show RecordStore.session sessionId (request.perform work.state).2.store = _
      rw [keeps.session, settled.keeps.session, revised, Request.revise_of_spares here]

theorem Workload.spares_after (spares : Only (Request.Spares sessionId) task.left)
    (found : work.tasks[position]? = some task) (turns : List Turn) :
    ∃ later, (work.after turns).tasks[position]? = some later ∧
      Only (Request.Spares sessionId) later.left := by
  induction turns generalizing work task with
  | nil => exact ⟨task, found, spares⟩
  | cons turn rest ih =>
    by_cases own : turn = .advance position
    · subst own
      exact ih (spares.step work.state) (work.task_take_advance found)
    · exact ih spares ((work.take_of_ne own).trans found)

/-! ### Revocation -/

/-- **Revocation is final and precise,** for a session along turns before and after. -/
structure RevocationIsFinal (server : Gateway.Server) (jobs : List Job) (start : Workload)
    (before after : List Turn) (sessionId : String) : Prop where
  /-- A job that succeeds in ending the session has revoked it. -/
  succeeds : ∀ position job, jobs[position]? = some job → job.IsRevocation →
    job.subject? server = some sessionId → (start.after before).Succeeded position →
      Revoked start before sessionId
  /-- A session that has been revoked is never there again. -/
  final : Revoked start before sessionId →
    RecordStore.session sessionId (start.after (before ++ after)).state.store = .ok none
  /-- A job that has yet to use it comes to nothing. -/
  later : Revoked start before sessionId → ∀ position job, jobs[position]? = some job →
    job.IsUse → job.subject? server = some sessionId →
      (start.after before).tasks[position]? = some ⟨job, job.operation server⟩ →
        ComesToNothing (start.after before) position sessionId after
  /-- So does one that is under way, unless it has ended or has extended the session. -/
  underway : Revoked start before sessionId → ∀ position job, jobs[position]? = some job →
    job.IsUse → job.subject? server = some sessionId →
      ComesToNothing (start.after before) position sessionId after ∨
        (start.after before).Ended position ∨
          job.Extends ∧ (start.after before).NotesUse position sessionId
  /-- A job that ends a session leaves every other one as it is. -/
  precise : ∀ position job, jobs[position]? = some job → job.IsRevocation →
    job.subject? server ≠ some sessionId →
      RecordStore.session sessionId (start.after (before ++ [.advance position])).state.store =
        RecordStore.session sessionId (start.after before).state.store

/-- **Sessions that are revoked stay revoked,** however jobs overtake each other and whatever others
ask of the storage in between, over storages of either kind. -/
theorem revocation_final (server : Gateway.Server) (jobs : List Job) {state : State Storage}
    (written : state.store.Written) (before after : List Turn)
    (distinct : (openedBy (before ++ after)).Nodup)
    (fresh : ∀ id ∈ openedBy (before ++ after), RecordStore.session id state.store = .ok none)
    (sessionId : String) :
    RevocationIsFinal server jobs (.start server jobs state) before after sessionId := by
  obtain ⟨resolution, records, keeps⟩ := written.keeps
  have settled : Settled resolution (before ++ after) (.start server jobs state) records := by
    refine ⟨keeps, fun task member => ?_, distinct, fun id member =>
      keeps.get?_of_session (fresh id member)⟩
    obtain ⟨job, _, rfl⟩ := List.mem_map.mp member
    exact job.opensNothing server
  have begins : ∀ {position : Nat} {job : Job}, jobs[position]? = some job →
      (Workload.start server jobs state).tasks[position]? = some ⟨job, job.operation server⟩ := by
    intro position job named
    simp only [Workload.start, List.getElem?_map, named, Option.map_some]
  refine ⟨?_, ?_, ?_, ?_, ?_⟩
  · intro position job named revocation subject succeeded
    exact settled.revoked_of_succeeded (begins named) (Job.removesFirst revocation subject)
      succeeded
  · intro revoked
    obtain ⟨kept, gone⟩ := revoked.gone settled
    rw [Workload.after_append]
    have whole : Gone resolution (after ++ []) ((Workload.start server jobs state).after before)
        kept sessionId := by rwa [List.append_nil]
    obtain ⟨left, goneThen⟩ := whole.after
    exact goneThen.settled.session_eq_none_iff.mpr goneThen.absent
  · intro revoked position job named use subject found
    obtain ⟨kept, gone⟩ := revoked.gone settled
    exact gone.comesToNothing found (Job.barred use subject) (job.within server)
  · intro revoked position job named use subject
    obtain ⟨kept, gone⟩ := revoked.gone settled
    obtain ⟨later, found, visits, within⟩ :=
      settled.visits_after (begins named) (Job.visits use subject) (job.within server)
    rcases visits.barred_or with barred | ⟨result, done⟩ | ⟨renews, usedAt, next, asks⟩
    · exact .inl (gone.comesToNothing found barred within)
    · exact .inr (.inl ⟨later, result, found, done⟩)
    · exact .inr (.inr ⟨renews, later, usedAt, next, found, asks⟩)
  · intro position job named revocation elsewhere
    obtain ⟨later, found, spares⟩ :=
      Workload.spares_after (Job.spares revocation elsewhere) (begins named) before
    obtain ⟨kept, settledNow, _⟩ := settled.after
    rw [Workload.after_append]
    exact settledNow.session_take_advance found spares

/-! A session is ended while somebody is about to use its token. -/

namespace Sample

/-- A small service, with records in memory. -/
def server : Gateway.Server where
  service := service
  durable := false

/-- The session is ended, and its token is used. -/
def endingAndUsing : List Job := [.close "session", .accept handed.token]

/-- The session is opened, and ended before the other job begins. -/
def ending : List Turn := [.outside (.addSession handed), .advance 0]

/-- The other job is done. -/
def acting : List Turn := List.replicate 4 (.advance 1)

end Sample

open Sample in
theorem revocation_final_ending :
    RevocationIsFinal server endingAndUsing (.start server endingAndUsing Sample.vacant) ending
        acting "session" ∧
      Revoked (.start server endingAndUsing Sample.vacant) ending "session" ∧
      (((Workload.start server endingAndUsing Sample.vacant).after ending).after acting).Fails 1
        (.refused (.sessionNotFound "session")) := by
  have written : Sample.vacant.store.Written := .vacant trivial (.inl rfl)
  have final : RevocationIsFinal server endingAndUsing
      (.start server endingAndUsing Sample.vacant) ending acting "session" :=
    revocation_final server endingAndUsing written ending acting (by decide) (fun _ _ => rfl)
      "session"
  have ended : ((Workload.start server endingAndUsing Sample.vacant).after ending).Succeeded 0 :=
    ⟨_, (), rfl, rfl, trivial⟩
  have revoked := final.succeeds 0 (.close "session") rfl trivial rfl ended
  have verified : service.sessions.tokenKey.verify handed.token =
      .ok (.make "device" "session" epoch nextSecond) := TokenKey.verify_sign _ _
  have subject : (Job.accept handed.token).subject? server = some "session" :=
    congrArg (fun result => result.toOption.map TokenClaims.sessionId) verified
  have nothing := final.later revoked 1 (.accept handed.token) rfl trivial subject rfl
  exact ⟨final, revoked, nothing.ends (by decide)⟩

end DeviceAuth
