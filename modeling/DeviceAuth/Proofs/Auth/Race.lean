import DeviceAuth.Proofs.Auth.History
import DeviceAuth.Proofs.Auth.Stages

/-!
**Verifications that overtake each other.** Any number of verifications are under way at once. Each
turn lets one of them make its next request, or lets somebody else make a request, such as adding
challenges or removing expired ones, or sets the clock. Every order of turns is a schedule.

* `Contest`: while nobody has won a challenge, every verification that names it is pending; from
  then on the challenge is closed, and every other one is pending still. A turn keeps this, with at
  most one new winner (`Contest.take`), since a challenge is spent only if it was unused.
* `single_winner`: of the verifications that name a challenge, at most one comes to the opening of a
  session. Every other one opens none and fails, after nine requests of its own at the latest.
-/

namespace DeviceAuth

open Operation

/-- Verifications under way, and what they work on. -/
structure Pool (σ : Type) where
  calls : List (Operation Session)
  state : State σ

/-- What can happen next. -/
inductive Turn where
  /-- The verification at a position makes its next request. -/
  | advance (position : Nat)
  /-- Somebody else makes a request. -/
  | outside (request : Request)
  | setClock (now : Instant)

namespace Turn

/-- The id of the challenge that a turn adds. -/
def offered? : Turn → Option String
  | outside request => request.offered?
  | _ => none

/-- Whether it is the turn of a verification. -/
def isOf (position : Nat) : Turn → Bool
  | advance other => other = position
  | _ => false

end Turn

/-- The ids of the challenges that a schedule adds. -/
def offeredBy (schedule : List Turn) : List String :=
  schedule.filterMap Turn.offered?

/-- How many turns a verification has. -/
def turnsOf (position : Nat) (schedule : List Turn) : Nat :=
  schedule.countP (Turn.isOf position)

namespace Pool

variable {σ : Type}

/-- Verifications that all are about to begin. -/
def start (service : Service) (submissions : List Submission) (state : State σ) : Pool σ where
  calls := submissions.map service.beginning
  state := state

variable [RecordStore σ]

/-- One turn. -/
def take (pool : Pool σ) : Turn → Pool σ
  | .advance position =>
    match pool.calls[position]? with
    | some call =>
      { calls := pool.calls.set position (call.step pool.state).1
        state := (call.step pool.state).2 }
    | none => pool
  | .outside request => { pool with state := (request.perform pool.state).2 }
  | .setClock now => { pool with state := { pool.state with now } }

/-- All turns of a schedule. -/
def after (pool : Pool σ) (schedule : List Turn) : Pool σ :=
  schedule.foldl take pool

/-- Another verification is where it was. -/
theorem take_of_ne (pool : Pool σ) {turn : Turn} {position : Nat}
    (other : turn ≠ .advance position) :
    (pool.take turn).calls[position]? = pool.calls[position]? := by
  cases turn with
  | advance index =>
    simp only [take]
    split
    · have different : index ≠ position := fun same => other (congrArg _ same)
      exact List.getElem?_set_ne different
    · rfl
  | outside _ | setClock _ => rfl

/-- A verification whose turn it is makes one request. -/
theorem take_advance (pool : Pool σ) {position : Nat} {call : Operation Session}
    (found : pool.calls[position]? = some call) :
    (pool.take (.advance position)).calls[position]? = some (call.step pool.state).1 := by
  have inside := (List.getElem?_eq_some_iff.mp found).1
  simp only [take, found, List.getElem?_set_self inside]

/-! ### One verification over a schedule -/

section Alone

variable {pool : Pool σ} {position : Nat} {call : Operation Session}

/-- Each of its turns brings a verification nearer to its end. -/
theorem within_after {bound : Nat} (found : pool.calls[position]? = some call)
    (within : Within bound call) (schedule : List Turn) :
    ∃ later, (pool.after schedule).calls[position]? = some later ∧
      Within (bound - turnsOf position schedule) later := by
  induction schedule generalizing pool call bound with
  | nil => exact ⟨call, found, within⟩
  | cons turn rest ih =>
    by_cases own : turn = .advance position
    · subst own
      obtain ⟨later, foundLater, less⟩ := ih (pool.take_advance found) (within.step pool.state)
      refine ⟨later, foundLater, ?_⟩
      have count : turnsOf position (.advance position :: rest) = turnsOf position rest + 1 := by
        simp [turnsOf, Turn.isOf]
      rwa [count, Nat.add_comm, ← Nat.sub_sub]
    · obtain ⟨later, foundLater, less⟩ := ih ((pool.take_of_ne own).trans found) within
      refine ⟨later, foundLater, ?_⟩
      have count : turnsOf position (turn :: rest) = turnsOf position rest := by
        cases turn <;> simp_all [turnsOf, Turn.isOf]
      rwa [count]

/-- A verification that never comes to the opening of a session stays undecided. -/
theorem undecided_after [LedgerStore σ] {service : Service} {submission : Submission}
    (found : pool.calls[position]? = some call)
    (undecided : service.Undecided submission call) (schedule : List Turn)
    (never : ∀ earlier, earlier <+: schedule → ∀ holder,
      (pool.after earlier).calls[position]? ≠ some (service.opening submission holder)) :
    ∃ later, (pool.after schedule).calls[position]? = some later ∧
      service.Undecided submission later := by
  induction schedule generalizing pool call with
  | nil => exact ⟨call, found, undecided⟩
  | cons turn rest ih =>
    have neverLater : ∀ earlier, earlier <+: rest → ∀ holder,
        ((pool.take turn).after earlier).calls[position]? ≠
          some (service.opening submission holder) :=
      fun earlier begins => never (turn :: earlier) ((List.prefix_cons_inj turn).mpr begins)
    by_cases own : turn = .advance position
    · subst own
      have next := pool.take_advance found
      rcases undecided.step pool.state with still | ⟨holder, opens⟩
      · exact ih next still neverLater
      · rw [opens] at next
        exact absurd next (neverLater [] List.nil_prefix holder)
    · exact ih ((pool.take_of_ne own).trans found) undecided neverLater

end Alone

end Pool

/-! ### The contest for a challenge -/

section Contest

variable {σ : Type} [RecordStore σ] [LedgerStore σ]

open LedgerStore

/-- **Who can still win a challenge**, before the turns of a schedule. -/
structure Contest (service : Service) (submissions : List Submission) (challengeId : String)
    (winner : Option Nat) (schedule : List Turn) (pool : Pool σ) : Prop where
  /-- Every verification that names the challenge is pending, apart from the winner. -/
  pending : ∀ position submission, submissions[position]? = some submission →
    submission.challengeId = challengeId → winner ≠ some position →
      ∃ call, pool.calls[position]? = some call ∧ service.Pending submission call
  offersNothing : ∀ call ∈ pool.calls, Only (fun request => request.offered? = none) call
  /-- Challenges to come have ids of their own. -/
  distinct : (offeredBy schedule).Nodup
  fresh : ∀ id ∈ offeredBy schedule, ∀ deviceId used,
    ¬ (ledger pool.state.store).challenges id deviceId used
  /-- A challenge that has been won is closed for good. -/
  closed : winner ≠ none →
    (ledger pool.state.store).Closed challengeId ∧ challengeId ∉ offeredBy schedule

variable {service : Service} {submissions : List Submission} {challengeId : String}
  {winner : Option Nat} {turn : Turn} {rest : List Turn} {pool : Pool σ}

/-- A turn brings no challenge but the one that it adds. -/
theorem Pool.take_challenges
    (offersNothing : ∀ call ∈ pool.calls, Only (fun request => request.offered? = none) call)
    {id deviceId : String} {used : Bool}
    (held : (ledger (pool.take turn).state.store).challenges id deviceId used) :
    (ledger pool.state.store).challenges id deviceId used ∨
      used = true ∧ (ledger pool.state.store).challenges id deviceId false ∨
      turn.offered? = some id := by
  cases turn with
  | advance position =>
    simp only [Pool.take] at held
    split at held
    · next call found =>
      cases call with
      | done result => exact .inl held
      | ask request next =>
        cases offersNothing _ (List.mem_of_getElem? found) with
        | ask _ _ nothing _ =>
          rcases request.perform_challenges pool.state held with same | spent | adds
          · exact .inl same
          · exact .inr (.inl spent)
          · rw [nothing] at adds
            cases adds
    · exact .inl held
  | outside request => exact request.perform_challenges pool.state held
  | setClock now => exact .inl held

theorem offeredBy_cons : offeredBy (turn :: rest) = turn.offered?.toList ++ offeredBy rest := by
  unfold offeredBy
  cases adds : turn.offered? <;> simp [adds]

namespace Contest

/-- Whoever wins, the calls add no challenges, and the challenges to come stay fresh. -/
theorem take_of_pending
    (contest : Contest service submissions challengeId winner (turn :: rest) pool)
    (next : Option Nat)
    (pending : ∀ position submission, submissions[position]? = some submission →
      submission.challengeId = challengeId → next ≠ some position →
        ∃ call, (pool.take turn).calls[position]? = some call ∧ service.Pending submission call)
    (closed : next ≠ none → (ledger (pool.take turn).state.store).Closed challengeId ∧
      challengeId ∉ offeredBy rest) :
    Contest service submissions challengeId next rest (pool.take turn) where
  pending := pending
  offersNothing call member := by
    obtain ⟨position, found⟩ := List.mem_iff_getElem?.mp member
    by_cases own : turn = .advance position
    · subst own
      rcases before : pool.calls[position]? with _ | earlier
      · simp only [Pool.take, before] at found
        cases found
      · rw [pool.take_advance before] at found
        cases found
        exact (contest.offersNothing _ (List.mem_of_getElem? before)).step pool.state
    · rw [pool.take_of_ne own] at found
      exact contest.offersNothing _ (List.mem_of_getElem? found)
  distinct := by
    have distinct := contest.distinct
    rw [offeredBy_cons] at distinct
    exact (List.nodup_append.mp distinct).2.1
  fresh id member deviceId used held := by
    have toCome : id ∈ offeredBy (turn :: rest) := by
      rw [offeredBy_cons]
      exact List.mem_append_right _ member
    rcases Pool.take_challenges contest.offersNothing held with same | ⟨_, unused⟩ | adds
    · exact contest.fresh id toCome _ _ same
    · exact contest.fresh id toCome _ _ unused
    · have distinct := contest.distinct
      rw [offeredBy_cons, adds] at distinct
      exact (List.nodup_append.mp distinct).2.2 id List.mem_cons_self id member rfl
  closed := closed

/-- A challenge that has been won stays closed. -/
theorem closed_take (contest : Contest service submissions challengeId winner (turn :: rest) pool)
    (won : winner ≠ none) :
    (ledger (pool.take turn).state.store).Closed challengeId ∧ challengeId ∉ offeredBy rest := by
  obtain ⟨closed, never⟩ := contest.closed won
  rw [offeredBy_cons] at never
  refine ⟨fun deviceId unused => ?_, fun member => never (List.mem_append_right _ member)⟩
  rcases Pool.take_challenges contest.offersNothing unused with same | ⟨used, _⟩ | adds
  · exact closed deviceId same
  · cases used
  · exact never (List.mem_append_left _ (by simp [adds]))

/-- **One turn has at most one new winner,** and none if there is one already. -/
theorem take (contest : Contest service submissions challengeId winner (turn :: rest) pool) :
    ∃ next, (∀ position, winner = some position → next = some position) ∧
      Contest service submissions challengeId next rest (pool.take turn) := by
  by_cases wins : ∃ position submission call, turn = .advance position ∧
    submissions[position]? = some submission ∧ submission.challengeId = challengeId ∧
    winner ≠ some position ∧ pool.calls[position]? = some call ∧
    ¬ service.Guarded submission (call.step pool.state).1
  · obtain ⟨position, submission, call, rfl, named, rfl, notYet, found, free⟩ := wins
    obtain ⟨held, foundHeld, pending⟩ := contest.pending position submission named rfl notYet
    rw [found] at foundHeld
    cases foundHeld
    rcases pending.step pool.state with guarded | ⟨_, unused, closed⟩
    · exact absurd guarded free
    have nobody : winner = none := by
      rcases winner with _ | other
      · rfl
      · exact absurd (contest.closed nofun).1 unused
    refine ⟨some position, fun other won => ?_, contest.take_of_pending _ ?_ fun _ => ⟨?_, ?_⟩⟩
    · rw [nobody] at won
      cases won
    · intro other another namedToo same different
      have elsewhere : Turn.advance position ≠ .advance other := fun equal =>
        different (congrArg some (Turn.advance.inj equal))
      rw [pool.take_of_ne elsewhere]
      exact contest.pending other another namedToo same (by rw [nobody]; nofun)
    · simpa only [Pool.take, found] using closed
    · intro toCome
      refine unused fun deviceId unspent => ?_
      refine contest.fresh _ ?_ _ _ unspent
      rw [offeredBy_cons]
      exact List.mem_append_right _ toCome
  · refine ⟨winner, fun _ => id, contest.take_of_pending _ ?_ contest.closed_take⟩
    intro position submission named same notYet
    obtain ⟨call, found, pending⟩ := contest.pending position submission named same notYet
    by_cases own : turn = .advance position
    · refine ⟨_, own ▸ pool.take_advance found, .guarded (Classical.not_not.mp fun free => ?_)⟩
      exact wins ⟨position, submission, call, own, named, same, notYet, found, free⟩
    · exact ⟨call, (pool.take_of_ne own).trans found, pending⟩

/-- **Over a whole schedule** there is one winner, and everybody else is pending throughout. -/
theorem after {schedule : List Turn}
    (contest : Contest service submissions challengeId winner schedule pool) :
    ∃ final, (∀ position, winner = some position → final = some position) ∧
      ∀ earlier, earlier <+: schedule → ∀ position submission,
        submissions[position]? = some submission → submission.challengeId = challengeId →
          final ≠ some position → ∃ call, (pool.after earlier).calls[position]? = some call ∧
            service.Pending submission call := by
  induction schedule generalizing pool winner with
  | nil =>
    refine ⟨winner, fun _ => id, fun earlier begins position submission => ?_⟩
    cases List.prefix_nil.mp begins
    exact contest.pending position submission
  | cons turn rest ih =>
    obtain ⟨next, kept, contestNext⟩ := contest.take
    obtain ⟨final, keptLater, pending⟩ := ih contestNext
    refine ⟨final, fun position won => keptLater position (kept position won), ?_⟩
    intro earlier begins position submission named same different
    rcases List.prefix_cons_iff.mp begins with rfl | ⟨later, rfl, beginsLater⟩
    · exact contest.pending position submission named same fun won =>
        different (keptLater position (kept position won))
    · exact pending later beginsLater position submission named same different

end Contest

end Contest

/-! ### One winner -/

section Winner

variable (service : Service) (submissions : List Submission) (state : State Storage)
  (schedule : List Turn) (position : Nat)

/-- Where a verification stands after turns. -/
def standing (turns : List Turn) : Option (Operation Session) :=
  ((Pool.start service submissions state).after turns).calls[position]?

/-- A verification comes to the opening of a session. -/
def Reaches : Prop :=
  ∃ submission holder earlier, submissions[position]? = some submission ∧ earlier <+: schedule ∧
    standing service submissions state position earlier = some (service.opening submission holder)

/-- **A verification loses.** -/
structure Loses : Prop where
  /-- It never adds a session. -/
  opensNothing : ∀ earlier, earlier <+: schedule → ∀ session next,
    standing service submissions state position earlier ≠ some (.ask (.addSession session) next)
  /-- If it has ended, it has failed. -/
  failed : ∀ earlier, earlier <+: schedule → ∀ result,
    standing service submissions state position earlier = some (.done result) →
      ∃ failure, result = .error failure
  /-- It ends, if it has turns enough. -/
  ends : 9 ≤ turnsOf position schedule →
    ∃ failure, standing service submissions state position schedule = some (.done (.error failure))

variable {service submissions state schedule position}

/-- A verification that does not come to the opening of a session loses. -/
theorem loses_of_not_reaches {submission : Submission}
    (named : submissions[position]? = some submission)
    (never : ¬ Reaches service submissions state schedule position) :
    Loses service submissions state schedule position := by
  have begins : (Pool.start service submissions state).calls[position]? =
      some (service.beginning submission) := by
    simp [Pool.start, named]
  have undecided : ∀ earlier, earlier <+: schedule →
      ∃ call, standing service submissions state position earlier = some call ∧
        service.Undecided submission call := fun earlier within =>
    Pool.undecided_after begins (.pending .beginning) earlier fun before sooner holder reached =>
      never ⟨submission, holder, before, named, sooner.trans within, reached⟩
  refine ⟨fun earlier within session next adds => ?_, fun earlier within result ended => ?_, ?_⟩
  · obtain ⟨call, stands, still⟩ := undecided earlier within
    rw [stands] at adds
    exact still.ne_addSession (Option.some.inj adds)
  · obtain ⟨call, stands, still⟩ := undecided earlier within
    rw [stands] at ended
    rw [Option.some.inj ended] at still
    exact still.failed
  · intro enough
    obtain ⟨call, stands, still⟩ := undecided schedule (List.prefix_refl _)
    obtain ⟨last, standsLast, left⟩ := Pool.within_after begins
      (Service.within_beginning service submission) schedule
    rw [Nat.sub_eq_zero_of_le enough] at left
    obtain ⟨result, rfl⟩ := left.eq_done
    unfold standing at stands ⊢
    rw [standsLast] at stands ⊢
    cases stands
    obtain ⟨failure, rfl⟩ := still.failed
    exact ⟨failure, rfl⟩

end Winner

/-- **A challenge has one winner,** however verifications overtake each other, the adding of
challenges and the removal of expired ones: at most one verification that names it comes to the
opening of a session, and every other one loses. -/
theorem single_winner (service : Service) (submissions : List Submission) (state : State Storage)
    (schedule : List Turn) (distinct : (offeredBy schedule).Nodup)
    (fresh : ∀ id ∈ offeredBy schedule, ∀ deviceId used,
      ¬ (LedgerStore.ledger state.store).challenges id deviceId used)
    (challengeId : String) :
    (∀ first second submission other,
      submissions[first]? = some submission → submission.challengeId = challengeId →
      submissions[second]? = some other → other.challengeId = challengeId →
        Reaches service submissions state schedule first →
        Reaches service submissions state schedule second → first = second) ∧
      ∀ position submission, submissions[position]? = some submission →
        submission.challengeId = challengeId →
          ¬ Reaches service submissions state schedule position →
            Loses service submissions state schedule position := by
  have contest : Contest service submissions challengeId none schedule
      (Pool.start service submissions state) :=
    { pending := fun position submission named _ _ =>
        ⟨service.beginning submission, by simp [Pool.start, named], .beginning⟩
      offersNothing := fun call member => by
        obtain ⟨submission, _, rfl⟩ := List.mem_map.mp member
        exact Service.offersNothing_beginning service submission
      distinct := distinct
      fresh := fresh
      closed := fun won => absurd rfl won }
  obtain ⟨winner, _, pending⟩ := contest.after
  have wins : ∀ position submission, submissions[position]? = some submission →
      submission.challengeId = challengeId →
        Reaches service submissions state schedule position → winner = some position := by
    rintro position submission named same ⟨another, holder, earlier, namedToo, within, reached⟩
    rw [named] at namedToo
    cases namedToo
    refine Classical.not_not.mp fun different => ?_
    obtain ⟨call, stands, still⟩ := pending earlier within position submission named same different
    unfold standing at reached
    rw [stands] at reached
    exact still.ne_opening holder (Option.some.inj reached)
  refine ⟨fun first second submission other named same namedToo sameToo reaches reachesToo => ?_,
    fun position submission named _ never => loses_of_not_reaches named never⟩
  have won := wins first submission named same reaches
  rw [wins second other namedToo sameToo reachesToo] at won
  exact (Option.some.inj won).symm

/-! Two verifications read the challenge before either of them has used it up. -/

namespace Sample

/-- The device is enrolled, and there is no challenge yet. -/
def enrolled : State Storage :=
  { vacant with store := ⟨.memory ⟨[("device", device)], [], []⟩, ⟨[], [], []⟩⟩ }

/-- The same proof, submitted twice. -/
def rivals : List Submission := [
  ⟨"first", "device", "challenge", [1], values 2⟩,
  ⟨"second", "device", "challenge", [1], values 2⟩]

/-- The challenge is added, and then the two verifications take turns. -/
def race : List Turn :=
  .outside (.addChallenge ⟨"challenge", "device", .ofNat 2, epoch, epoch, false⟩) ::
    .outside (.dropChallenges epoch) ::
    (List.replicate 9 [Turn.advance 0, .advance 1]).flatten

/-- The session that a verification has ended with. -/
def sessionOf : Operation Session → Option String
  | .done (.ok session) => some session.sessionId
  | _ => none

end Sample

open Sample in
theorem single_winner_race :
    ((Pool.start Sample.service rivals enrolled).after race).calls.map sessionOf =
        [some "first", none] ∧
      ((∀ first second submission other,
        rivals[first]? = some submission → submission.challengeId = "challenge" →
        rivals[second]? = some other → other.challengeId = "challenge" →
          Reaches Sample.service rivals enrolled race first →
          Reaches Sample.service rivals enrolled race second → first = second) ∧
        ∀ position submission, rivals[position]? = some submission →
          submission.challengeId = "challenge" →
            ¬ Reaches Sample.service rivals enrolled race position →
              Loses Sample.service rivals enrolled race position) := by
  refine ⟨by decide +kernel,
    single_winner Sample.service rivals enrolled race (by decide +kernel) ?_ "challenge"⟩
  rintro id _ deviceId used ⟨challenge, member, _⟩
  cases member

end DeviceAuth
