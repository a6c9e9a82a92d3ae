import DeviceAuth.Config.Settings
import DeviceAuth.Proofs.Auth.Causes
import DeviceAuth.Proofs.Auth.LicenseHistory
import DeviceAuth.Proofs.Auth.Outcome
import DeviceAuth.Proofs.Config.Rules

/-!
**Settings and the end of the calendar.** Settings are accepted with any positive lifetimes. Three
limits come later: seconds that do not fit a signed word are refused, seconds of which the
milliseconds do not fit one are no duration, and a lifetime that leads out of the calendar has no
end. Only the first is an error; at the others the call is abandoned.

* `Service.built_ofSettings`, `LicenseKeeper.opened_ofSettings`: what comes of settings, by their
  lifetimes.
* `Instant.isSome_add?_iff`: moving by whole seconds.
* `Service.failsOnly_issueChallenge`, `Service.failsOnly_extend`: operations are abandoned only
  where their lifetime leads out of the calendar.
* `Config.neverOverflows_iff`: with which settings nothing is abandoned from 1970 to 9999.
-/

namespace DeviceAuth

open Operation

/-! ### Three limits -/

/-- The last second of the year 9999. -/
def eraEnd : Int := 253402300799

/-- The instants of the years 1970 to 9999. -/
def Instant.InEra (instant : Instant) : Prop :=
  0 ≤ instant.seconds ∧ instant.seconds ≤ eraEnd

/-- The seconds from the end of the year 9999 to the end of the calendar. -/
def calendarMargin : Nat := 7956864576000

/-- The seconds of the longest duration. -/
def longestSeconds : Nat := 9223372036854775

/-- A lifetime of so many seconds never leads out of the calendar. -/
theorem Instant.InEra.exists_add? {instant : Instant} (inEra : instant.InEra) {duration : Duration}
    {seconds : Nat} (span : duration.nanos = seconds * nanosPerSecond)
    (short : seconds ≤ calendarMargin) : ∃ end_, instant.add? duration = some end_ := by
  obtain ⟨_, before⟩ := inEra
  refine Option.isSome_iff_exists.mp ((Instant.isSome_add?_iff span).mpr ?_)
  simp only [eraEnd, calendarMargin, latestSecond] at *
  omega

namespace Failure

theorem duration_eq_ok {seconds : Nat} (short : seconds ≤ longestSeconds) :
    ∃ span, duration seconds = .ok span ∧ span.nanos = seconds * nanosPerSecond := by
  have exist : (Duration.ofSeconds? seconds).isSome := by
    rw [Duration.ofSeconds?_isSome_iff]
    unfold longestSeconds at short
    omega
  obtain ⟨span, found⟩ := Option.isSome_iff_exists.mp exist
  exact ⟨span, by rw [duration, found], Duration.nanos_of_ofSeconds? found⟩

theorem duration_eq_overflow {seconds : Nat} (long : longestSeconds < seconds) :
    duration seconds = .error .overflow := by
  rcases found : Duration.ofSeconds? seconds with _ | span
  · rw [duration, found]
  · have exist := Option.isSome_of_eq_some found
    rw [Duration.ofSeconds?_isSome_iff] at exist
    unfold longestSeconds at long
    omega

end Failure

/-! ### What comes of settings -/

/-- **What comes of a lifetime in the settings.** -/
inductive Measured (seconds : Nat) : Except Failure Duration → Prop
  | refused (error : AuthError) : Nat.pow 2 63 ≤ seconds → Measured seconds (.error (.refused error))
  | abandoned : longestSeconds < seconds → seconds < Nat.pow 2 63 →
      Measured seconds (.error .overflow)
  | accepted (span : Duration) : seconds ≤ longestSeconds →
      span.nanos = seconds * nanosPerSecond → Measured seconds (.ok span)

theorem Failure.measured_duration {seconds : Nat} (signed : seconds < Nat.pow 2 63) :
    Measured seconds (duration seconds) := by
  by_cases short : seconds ≤ longestSeconds
  · obtain ⟨span, made, nanos⟩ := duration_eq_ok short
    rw [made]
    exact .accepted span short nanos
  · rw [duration_eq_overflow (Nat.lt_of_not_le short)]
    exact .abandoned (Nat.lt_of_not_le short) signed

theorem Service.measured_lifetime {seconds : UInt64} (positive : seconds ≠ 0) (name : String) :
    Measured seconds.toNat (lifetime seconds name) := by
  have filled : 0 < seconds.toNat :=
    Nat.pos_of_ne_zero fun zero => positive (UInt64.toNat_inj.mp zero)
  unfold lifetime
  by_cases signed : seconds.toNat < Nat.pow 2 63
  · rw [if_pos ⟨filled, signed⟩]
    exact Failure.measured_duration signed
  · rw [if_neg fun both => signed both.2]
    exact .refused _ (Nat.le_of_not_lt signed)

/-- The rules leave lifetimes and a limit that are not zero, and a token secret. -/
theorem AuthSettings.of_validate {settings : AuthSettings}
    (limits : settings.validateLimits = .ok ()) (secret : settings.validateSecret = .ok ()) :
    settings.challengeLifetime ≠ 0 ∧ settings.sessionLifetime ≠ 0 ∧ settings.failureLimit ≠ 0 ∧
      ∀ given material, ∃ chosen, Service.chooseSecret settings given material = .ok chosen := by
  obtain ⟨challenges, sessions, failures⟩ := validateLimits_eq_ok_iff.mp limits
  exact ⟨challenges, sessions, failures,
    Service.exists_chooseSecret (validateSecret_eq_ok_iff.mp secret).2⟩

/-- **What comes of the settings of a service** that the rules accept. -/
inductive Service.Built (checker : ProofChecker) (settings : AuthSettings) :
    Except Failure Service → Prop
  | refused (error : AuthError) :
      Nat.pow 2 63 ≤ settings.challengeLifetime.toNat ∨
        settings.challengeLifetime.toNat ≤ longestSeconds ∧
          Nat.pow 2 63 ≤ settings.sessionLifetime.toNat →
      Built checker settings (.error (.refused error))
  | abandoned :
      longestSeconds < settings.challengeLifetime.toNat ∧
          settings.challengeLifetime.toNat < Nat.pow 2 63 ∨
        settings.challengeLifetime.toNat ≤ longestSeconds ∧
          longestSeconds < settings.sessionLifetime.toNat ∧
          settings.sessionLifetime.toNat < Nat.pow 2 63 →
      Built checker settings (.error .overflow)
  | built (service : Service) :
      settings.challengeLifetime.toNat ≤ longestSeconds →
      settings.sessionLifetime.toNat ≤ longestSeconds →
      service.challengeLifetime.nanos = settings.challengeLifetime.toNat * nanosPerSecond →
      service.sessions.lifetime.nanos = settings.sessionLifetime.toNat * nanosPerSecond →
      service.checker = checker → service.failureLimit = settings.failureLimit →
      Built checker settings (.ok service)

theorem Service.built_ofSettings {settings : AuthSettings}
    (limits : settings.validateLimits = .ok ()) (secret : settings.validateSecret = .ok ())
    (checker : ProofChecker) (given : Option TokenSecret) (material : Bytes) :
    Built checker settings (ofSettings checker settings given material) := by
  obtain ⟨challenges, sessions, failures, chooses⟩ := AuthSettings.of_validate limits secret
  obtain ⟨chosen, choice⟩ := chooses given material
  have first := measured_lifetime challenges "challenge_ttl_secs"
  have second := measured_lifetime sessions "session_ttl_secs"
  unfold ofSettings
  simp only [bind, Except.bind, if_neg failures, choice, Failure.lift_ok, pure, Except.pure]
  generalize lifetime settings.challengeLifetime "challenge_ttl_secs" = challengeLifetime at first ⊢
  generalize lifetime settings.sessionLifetime "session_ttl_secs" = sessionLifetime at second ⊢
  cases first with
  | refused error large => exact .refused error (.inl large)
  | abandoned long signed => exact .abandoned (.inl ⟨long, signed⟩)
  | accepted span short nanos =>
    cases second with
    | refused error large => exact .refused error (.inr ⟨short, large⟩)
    | abandoned long signed => exact .abandoned (.inr ⟨short, long, signed⟩)
    | accepted spanToo shortToo nanosToo => exact .built _ short shortToo nanos nanosToo rfl rfl

/-- **What comes of the settings of a license gate.** -/
inductive LicenseKeeper.Opened (settings : LicenseSettings) : Except Failure LicenseKeeper → Prop
  | refused (error : AuthError) :
      settings.issuerPublicKey = none ∨ Nat.pow 2 63 ≤ settings.gracePeriod.toNat ∨
        (settings.gracePeriod.toNat ≤ longestSeconds ∧
          ∃ text, settings.issuerPublicKey = some text ∧ (issuerKey text).isOk = false) →
      Opened settings (.error (.refused error))
  | abandoned : settings.issuerPublicKey ≠ none → longestSeconds < settings.gracePeriod.toNat →
      settings.gracePeriod.toNat < Nat.pow 2 63 → Opened settings (.error .overflow)
  | opened (keeper : LicenseKeeper) : settings.gracePeriod.toNat ≤ longestSeconds →
      (∃ text, settings.issuerPublicKey = some text ∧ (issuerKey text).isOk = true) →
      keeper.gracePeriod.nanos = settings.gracePeriod.toNat * nanosPerSecond →
      Opened settings (.ok keeper)

theorem LicenseKeeper.gracePeriod_load {δ : Type} (keeper : LicenseKeeper) (files : Files.Tree δ)
    (path : String) : (keeper.load files path).2.gracePeriod = keeper.gracePeriod := by
  have changes := keeper.present_eq (.file files path)
  rw [present] at changes
  rw [changes, gracePeriod_hear]

theorem LicenseKeeper.opened_ofSettings {δ : Type} (settings : LicenseSettings)
    (files : Files.Tree δ) : Opened settings (ofSettings settings files) := by
  unfold ofSettings
  rcases given : settings.issuerPublicKey with _ | text
  · exact .refused _ (.inl given)
  by_cases large : Nat.pow 2 63 ≤ settings.gracePeriod.toNat
  · simp only [if_pos large]
    exact .refused _ (.inr (.inl large))
  have measured := Failure.measured_duration (Nat.lt_of_not_le large)
  simp only [if_neg large]
  generalize Failure.duration settings.gracePeriod.toNat = made at measured ⊢
  cases measured with
  | refused error outside => exact absurd outside large
  | abandoned long signed => exact .abandoned (by rw [given]; nofun) long signed
  | accepted span short nanos =>
    rcases parsed : issuerKey text with error | issuer
    · exact .refused error (.inr (.inr ⟨short, text, given, by rw [parsed]; rfl⟩))
    have valid : ∃ text, settings.issuerPublicKey = some text ∧ (issuerKey text).isOk = true :=
      ⟨text, given, by rw [parsed]; rfl⟩
    rcases settings.licensePath with _ | path
    · exact .opened _ short valid nanos
    · exact .opened _ short valid ((gracePeriod_load _ files path).symm ▸ nanos)

/-! ### Operations -/

namespace Service

section FailsOnly

variable {service : Service} {moment end_ : Instant} {gate : LicenseGate}
  {presumed : (request : Request) → request.Answer → Prop} {allowed : Failure → Prop}
  (tolerates : Tolerates presumed allowed)
  (shows : ∀ answer, presumed .now answer → answer = moment)
  (refuses : ∀ error, allowed (.refused error))

include tolerates shows refuses in
theorem failsOnly_checkLicense (opens : ∀ answer, presumed .license answer → answer = gate)
    (checks : ∀ failure, gate.check moment = .error failure → allowed failure)
    (deviceId : String) : FailsOnly presumed allowed (checkLicense deviceId) := by
  refine .license_bind opens (.ite (fun _ => ?_) fun _ => .pure _)
  refine .now_bind shows (.bind (.done checks) fun _ => ?_)
  refine .ite (fun _ => .pure _) fun _ => .bind ?_ fun live => ?_
  · exact .now_bind shows (.liveDevices tolerates moment)
  · exact .ite (fun _ => .refuse (refuses _)) fun _ => .pure _

include tolerates shows refuses in
theorem failsOnly_issueChallenge (opens : ∀ answer, presumed .license answer → answer = gate)
    (checks : ∀ failure, gate.check moment = .error failure → allowed failure)
    (inRange : moment.add? service.challengeLifetime = some end_) (challengeId : String)
    (nonce : Word256) (deviceId : String) :
    FailsOnly presumed allowed (service.issueChallenge challengeId nonce deviceId) := by
  refine .bind (failsOnly_credentialOf tolerates (fun error _ => refuses error) deviceId)
    fun device => .bind (.failures deviceId) fun failures => ?_
  refine .ite (fun _ => .refuse (refuses _)) fun _ => ?_
  refine .bind (failsOnly_checkLicense tolerates shows refuses opens checks deviceId) fun _ => ?_
  refine .now_bind shows (.bind (.later inRange) fun expiresAt => ?_)
  exact .bind (.addChallenge tolerates _) fun _ => .pure _

include tolerates shows refuses in
theorem failsOnly_extend {policy : SessionPolicy}
    (inRange : moment.add? policy.lifetime = some end_) (token : String) :
    FailsOnly presumed allowed (policy.extend token) := by
  refine .now_bind shows (.bind (.bind (.ofResult fun error _ => refuses error) fun claims => ?_)
    fun (claims, session) => ?_)
  · refine .bind (.session tolerates claims.sessionId) fun found => ?_
    rcases found with _ | session
    · exact .refuse (refuses _)
    refine .ite (fun _ => .refuse (refuses _)) fun _ =>
      .ite (fun _ => .refuse (refuses _)) fun _ => ?_
    exact .bind (.ofResult fun error _ => refuses error) fun _ => .pure _
  · refine .bind (.later inRange) fun expiresAt =>
      .bind (.prolongSession tolerates ..) fun found => ?_
    refine .ite (fun _ => ?_) fun _ => .refuse (refuses _)
    exact .bind (.noteUse tolerates ..) fun _ => .pure _

end FailsOnly

section Overflows

variable {σ : Type} [RecordStore σ] {service : Service} {state : State σ}

/-- A challenge that would outlast the calendar. -/
theorem issueChallenge_overflows {deviceId : String} {device : Credential}
    (known : RecordStore.device deviceId state.store = .ok (some device))
    (active : device.isActive = true)
    (unlocked : ¬ service.failureLimit ≤ state.counters.count deviceId)
    (unlicensed : state.license = .disabled)
    (outlasts : state.now.add? service.challengeLifetime = none) (challengeId : String)
    (nonce : Word256) :
    ((service.issueChallenge challengeId nonce deviceId).run state).1 = .error .overflow := by
  simp only [issueChallenge, credentialOf, checkLicense, run_bind, run_device, known,
    Failure.lift_ok, active, if_true, run_pure, run_failures, if_neg unlocked, run_license,
    unlicensed, LicenseGate.isEnabled, Bool.false_eq_true, if_false, run_now, run_later,
    Failure.later, outlasts]

/-- A session that would outlast the calendar. -/
theorem submitProof_overflows {deviceId challengeId : String} {proof : Bytes}
    {values : PublicValues} {challenge : Challenge} {device : Credential} {store : σ}
    (passes : Passes service deviceId challengeId proof values state challenge device)
    (spends : RecordStore.spendChallenge challengeId state.store = .ok (true, store))
    (outlasts : state.now.add? service.sessions.lifetime = none) (sessionId : String) :
    ((service.submitProof sessionId deviceId challengeId proof values).run state).1 =
      .error .overflow := by
  unfold submitProof
  rw [run_onRefusal]
  rcases attempt_run service sessionId deviceId challengeId proof values state with
    ⟨_, _, never⟩ | ⟨_, other, _, goes⟩
  · exact absurd passes (never challenge device)
  rw [goes]
  simp only [redeem, SessionPolicy.create, run_bind, run_spendChallenge, spends, if_true,
    run_forgetFailures, run_now, run_later, Failure.later, outlasts]

end Overflows

end Service

namespace LicenseKeeper

variable {keeper : LicenseKeeper} {now : Instant}

/-- A grace period within the calendar. -/
theorem not_overflow {seconds : Nat} (span : keeper.gracePeriod.nanos = seconds * nanosPerSecond)
    (short : seconds ≤ calendarMargin) (inEra : now.InEra) :
    keeper.check now ≠ .error .overflow ∧ keeper.report now ≠ .error .overflow := by
  rcases state : keeper.state with _ | terms | reason
  · simp only [check, report, state]
    constructor <;> intro failed <;> cases failed
  · by_cases expired : terms.expiresAt < now
    · have before : terms.expiresAt.seconds + seconds ≤ latestSecond := by
        have order := (Instant.le_iff _ _).mp (Int.le_of_lt expired)
        obtain ⟨_, last⟩ := inEra
        simp only [eraEnd, calendarMargin, latestSecond] at *
        omega
      obtain ⟨end_, ends⟩ := Option.isSome_iff_exists.mp ((Instant.isSome_add?_iff span).mpr before)
      have late : ¬ now ≤ terms.expiresAt := mt Instant.not_lt.mpr (not_not_intro expired)
      simp only [check, report, state, Failure.later, ends, bind, Except.bind, if_neg late,
        decide_eq_true expired, if_true]
      constructor
      · split <;> intro failed <;> cases failed
      · intro failed
        cases failed
    · have current : now ≤ terms.expiresAt := Instant.not_lt.mp expired
      simp only [check, report, state, if_pos current, decide_eq_false expired,
        Bool.false_eq_true, if_false]
      constructor <;> intro failed <;> cases failed
  · simp only [check, report, state]
    constructor <;> intro failed <;> cases failed

end LicenseKeeper

/-! ### Settings with which nothing is abandoned -/

/-- The gate of a service with these settings, whatever has been presented to it. -/
def LicenseSettings.MayStand (settings : LicenseSettings) (gate : LicenseGate) : Prop :=
  gate = .disabled ∨ ∃ (files : Disk) (keeper : LicenseKeeper) (presented : Presented),
    LicenseKeeper.ofSettings settings files = .ok keeper ∧
      gate = .enabled { keeper with state := presented }

/-- **Nothing is abandoned:** neither the start, nor from 1970 to 9999 a call of the service or a
question to the license gate, whatever is stored and counted. -/
structure Config.NeverOverflows (config : Config) : Prop where
  builds : ∀ checker given material,
    Service.ofSettings checker config.auth given material ≠ .error .overflow
  opens : ∀ files : Disk, LicenseKeeper.ofSettings config.license files ≠ .error .overflow
  issues : ∀ {checker given material service},
    Service.ofSettings checker config.auth given material = .ok service →
    ∀ state : State Storage, state.now.InEra → config.license.MayStand state.license →
      ∀ challengeId nonce deviceId,
        ((service.issueChallenge challengeId nonce deviceId).run state).1 ≠ .error .overflow
  verifies : ∀ {checker given material service},
    Service.ofSettings checker config.auth given material = .ok service →
    ∀ state : State Storage, state.now.InEra →
      ∀ sessionId deviceId challengeId proof values,
        ((service.submitProof sessionId deviceId challengeId proof values).run state).1 ≠
          .error .overflow
  renews : ∀ {checker given material service},
    Service.ofSettings checker config.auth given material = .ok service →
    ∀ state : State Storage, state.now.InEra →
      ∀ token, ((service.extendSession token).run state).1 ≠ .error .overflow
  checks : ∀ {files : Disk} {keeper : LicenseKeeper},
    LicenseKeeper.ofSettings config.license files = .ok keeper →
    ∀ presented now, Instant.InEra now →
      LicenseKeeper.check { keeper with state := presented } now ≠ .error .overflow ∧
        LicenseKeeper.report { keeper with state := presented } now ≠ .error .overflow

/-- Lifetimes that lead out of the calendar from no instant before the year 10000; or one of them is
refused, and the service is not built. -/
def AuthSettings.InCalendar (settings : AuthSettings) : Prop :=
  Nat.pow 2 63 ≤ settings.challengeLifetime.toNat ∨
    (settings.challengeLifetime.toNat ≤ longestSeconds ∧
      Nat.pow 2 63 ≤ settings.sessionLifetime.toNat) ∨
    settings.challengeLifetime.toNat ≤ calendarMargin ∧
      settings.sessionLifetime.toNat ≤ calendarMargin

/-- A grace period that leads out of the calendar from no instant before the year 10000; or there is
no gate. -/
def LicenseSettings.InCalendar (settings : LicenseSettings) : Prop :=
  settings.issuerPublicKey = none ∨ Nat.pow 2 63 ≤ settings.gracePeriod.toNat ∨
    settings.gracePeriod.toNat ≤ calendarMargin ∨
    settings.gracePeriod.toNat ≤ longestSeconds ∧
      ∃ text, settings.issuerPublicKey = some text ∧ (issuerKey text).isOk = false

theorem Config.of_validate {config : Config} (valid : config.validate = .ok ()) :
    config.auth.validateLimits = .ok () ∧ config.auth.validateSecret = .ok () := by
  obtain ⟨_, limits, valid⟩ := Except.of_bind_eq_ok valid
  obtain ⟨_, secret, -⟩ := Except.of_bind_eq_ok valid
  exact ⟨limits, secret⟩

theorem longestSeconds_signed : longestSeconds < Nat.pow 2 63 := by
  decide

theorem calendarMargin_le : calendarMargin ≤ longestSeconds := by
  decide

namespace Service

/-- Settings in the calendar are not abandoned. -/
theorem Built.ne_overflow {checker : ProofChecker} {settings : AuthSettings}
    {result : Except Failure Service} (built : Built checker settings result)
    (inCalendar : settings.InCalendar) : result ≠ .error .overflow := by
  cases built with
  | refused _ _ | built _ _ _ _ _ _ _ => nofun
  | abandoned long =>
    have margin := calendarMargin_le
    unfold AuthSettings.InCalendar at inCalendar
    omega

/-- The lifetimes of a service that is built with settings in the calendar. -/
theorem Built.lifetimes {checker : ProofChecker} {settings : AuthSettings} {service : Service}
    (built : Built checker settings (.ok service)) (inCalendar : settings.InCalendar)
    {now : Instant} (inEra : now.InEra) :
    (∃ end_, now.add? service.challengeLifetime = some end_) ∧
      ∃ end_, now.add? service.sessions.lifetime = some end_ := by
  cases built with
  | built _ short shortToo nanos nanosToo _ _ =>
    have signed := longestSeconds_signed
    have within : settings.challengeLifetime.toNat ≤ calendarMargin ∧
        settings.sessionLifetime.toNat ≤ calendarMargin := by
      unfold AuthSettings.InCalendar at inCalendar
      omega
    exact ⟨inEra.exists_add? nanos within.1, inEra.exists_add? nanosToo within.2⟩

end Service

namespace LicenseKeeper

/-- A grace period in the calendar is not abandoned. -/
theorem Opened.ne_overflow {settings : LicenseSettings} {result : Except Failure LicenseKeeper}
    (opened : Opened settings result) (inCalendar : settings.InCalendar) :
    result ≠ .error .overflow := by
  cases opened with
  | refused _ _ | opened _ _ _ _ => nofun
  | abandoned issuer long signed =>
    have margin := calendarMargin_le
    rcases inCalendar with none | large | short | ⟨short, _⟩
    · exact absurd none issuer
    all_goals omega

/-- A gate that is opened with settings in the calendar can always be asked. -/
theorem Opened.asked {settings : LicenseSettings} {keeper : LicenseKeeper}
    (opened : Opened settings (.ok keeper)) (inCalendar : settings.InCalendar)
    (presented : Presented) {now : Instant} (inEra : now.InEra) :
    check { keeper with state := presented } now ≠ .error .overflow ∧
      report { keeper with state := presented } now ≠ .error .overflow := by
  cases opened with
  | opened _ short issuer nanos =>
    have signed := longestSeconds_signed
    refine not_overflow nanos ?_ inEra
    obtain ⟨text, given, valid⟩ := issuer
    rcases inCalendar with none | large | within | ⟨_, other, givenToo, invalid⟩
    · rw [given] at none
      cases none
    · omega
    · exact within
    · rw [given] at givenToo
      cases givenToo
      rw [valid] at invalid
      cases invalid

end LicenseKeeper

/-- No failure of a run is an overflow where the operation cannot be abandoned. -/
theorem Operation.FailsOnly.ne_overflow {α σ : Type} [RecordStore σ] {operation : Operation α}
    {state : State σ}
    (only : FailsOnly (Request.AsOf state.now state.license) (· ≠ .overflow) operation) :
    (operation.run state).1 ≠ .error .overflow :=
  fun failed => only.run (operation.meets_asOf state) _ failed rfl

/-- **In the calendar nothing is abandoned.** -/
theorem Config.neverOverflows_of_inCalendar {config : Config} (valid : config.validate = .ok ())
    (auth : config.auth.InCalendar) (license : config.license.InCalendar) :
    config.NeverOverflows := by
  obtain ⟨limits, secret⟩ := of_validate valid
  have tolerates : ∀ (moment : Instant) (gate : LicenseGate),
      Tolerates (Request.AsOf moment gate) (· ≠ .overflow) := fun _ _ _ _ _ _ _ => nofun
  have lifetimes : ∀ {checker given material service},
      Service.ofSettings checker config.auth given material = .ok service →
        Service.Built checker config.auth (.ok service) := by
    intro checker given material service built
    rw [← built]
    exact Service.built_ofSettings limits secret checker given material
  have checks : ∀ {files : Disk} {keeper : LicenseKeeper},
      LicenseKeeper.ofSettings config.license files = .ok keeper →
        LicenseKeeper.Opened config.license (.ok keeper) := by
    intro files keeper opened
    rw [← opened]
    exact LicenseKeeper.opened_ofSettings config.license files
  constructor
  · intro checker given material
    exact (Service.built_ofSettings limits secret checker given material).ne_overflow auth
  · intro files
    exact (LicenseKeeper.opened_ofSettings config.license files).ne_overflow license
  · intro checker given material service built state inEra stands challengeId nonce deviceId
    obtain ⟨⟨end_, inRange⟩, _⟩ := (lifetimes built).lifetimes auth inEra
    refine (Service.failsOnly_issueChallenge (tolerates _ _) (fun _ => id) (fun _ => nofun)
      (fun _ => id) ?_ inRange challengeId nonce deviceId).ne_overflow
    rintro failure failed rfl
    rcases stands with disabled | ⟨files, keeper, presented, opened, enabled⟩
    · rw [disabled] at failed
      cases failed
    · rw [enabled] at failed
      exact ((checks opened).asked license presented inEra).1 failed
  · intro checker given material service built state inEra sessionId deviceId challengeId proof
      values
    obtain ⟨_, end_, inRange⟩ := (lifetimes built).lifetimes auth inEra
    exact (Service.failsOnly_submitProof (tolerates _ _) (fun _ => id) (fun _ _ => nofun)
      (fun _ _ => nofun) inRange).ne_overflow
  · intro checker given material service built state inEra token
    obtain ⟨_, end_, inRange⟩ := (lifetimes built).lifetimes auth inEra
    exact (Service.failsOnly_extend (tolerates _ _) (fun _ => id) (fun _ => nofun) inRange
      token).ne_overflow
  · intro files keeper opened presented now inEra
    exact (checks opened).asked license presented inEra

/-! ### Where the calendar is left -/

/-- The last second of the year 9999, at some nanosecond. -/
def eraLast (nanos : Nat) (within : nanos < 2 * nanosPerSecond) : Instant where
  seconds := eraEnd
  nanos := nanos
  seconds_ge := by decide
  seconds_le := by decide
  nanos_lt := within
  leap_aligned _ := by decide

theorem inEra_eraLast (nanos : Nat) (within : nanos < 2 * nanosPerSecond) :
    (eraLast nanos within).InEra :=
  ⟨by show 0 ≤ eraEnd; decide, Int.le_refl eraEnd⟩

/-- A longer lifetime leads out of the calendar. -/
theorem add?_eraLast (nanos : Nat) (within : nanos < 2 * nanosPerSecond) {duration : Duration}
    {seconds : Nat} (span : duration.nanos = seconds * nanosPerSecond)
    (long : calendarMargin < seconds) : (eraLast nanos within).add? duration = none := by
  rw [← Option.not_isSome_iff_eq_none, Instant.isSome_add?_iff span]
  simp only [eraLast, eraEnd, calendarMargin, latestSecond] at *
  omega

namespace Sample

theorem second_begins : 0 < 2 * nanosPerSecond := by decide

/-- The end of the year 9999. -/
def dusk : Instant := eraLast 0 second_begins

/-- A challenge that is open at the end of the year 9999. -/
def lateChallenge : Challenge where
  challengeId := "challenge"
  deviceId := "device"
  nonce := .ofNat 2
  createdAt := dusk
  expiresAt := dusk
  used := false

/-- A device is enrolled, and has been offered a challenge, at the end of the year 9999. -/
def late : State Storage where
  store := ⟨.memory ⟨[("device", device)], [("challenge", lateChallenge)], []⟩, ⟨[], [], []⟩⟩
  counters := .empty
  license := .disabled
  now := dusk

end Sample

open Sample in
/-- **If nothing is abandoned, the lifetimes are in the calendar.** -/
theorem AuthSettings.inCalendar_of_neverOverflows {config : Config}
    (valid : config.validate = .ok ()) (never : config.NeverOverflows) :
    config.auth.InCalendar := by
  obtain ⟨limits, secret⟩ := Config.of_validate valid
  have built := Service.built_ofSettings limits secret service.checker none []
  have begins := never.builds service.checker none []
  have inEra : late.now.InEra := inEra_eraLast 0 (by decide)
  rcases made : Service.ofSettings service.checker config.auth none [] with failure | trusting <;>
    rw [made] at built begins
  · cases built with
    | refused _ large => exact large.imp_right .inl
    | abandoned _ => exact absurd rfl begins
  cases built with
  | built _ short shortToo nanos nanosToo checks limit =>
    have positive := (AuthSettings.of_validate limits secret).2.2.1
    refine .inr (.inr ⟨?_, ?_⟩)
    · by_contra long
      have outlasts : late.now.add? trusting.challengeLifetime = none :=
        add?_eraLast 0 (by decide) nanos (Nat.lt_of_not_le long)
      have known : RecordStore.device "device" late.store = .ok (some device) := rfl
      have unlocked : ¬ trusting.failureLimit ≤ late.counters.count "device" := by
        rw [limit]
        exact fun none => positive (UInt32.le_zero_iff.mp none)
      exact never.issues made late inEra (.inl rfl) "other" (.ofNat 3) "device"
        (trusting.issueChallenge_overflows known rfl unlocked rfl outlasts "other" (.ofNat 3))
    · by_contra long
      have outlasts : late.now.add? trusting.sessions.lifetime = none :=
        add?_eraLast 0 (by decide) nanosToo (Nat.lt_of_not_le long)
      have passes : trusting.Passes "device" "challenge" [1] (values 2) late lateChallenge device :=
        ⟨rfl, rfl, rfl, rfl, rfl, rfl, by rw [checks]; rfl⟩
      obtain ⟨store, spends⟩ : ∃ store,
          RecordStore.spendChallenge "challenge" late.store = .ok (true, store) := ⟨_, rfl⟩
      exact never.verifies made late inEra "session" "device" "challenge" [1] (values 2)
        (Service.submitProof_overflows passes spends outlasts "session")

namespace LicenseKeeper

/-- Terms that have expired, and a grace period that would outlast the calendar. -/
theorem check_overflows {keeper : LicenseKeeper} {terms : LicenseTerms} {now : Instant}
    (loaded : keeper.state = .loaded terms) (expired : terms.expiresAt < now)
    (outlasts : terms.expiresAt.add? keeper.gracePeriod = none) :
    keeper.check now = .error .overflow := by
  have late : ¬ now ≤ terms.expiresAt := mt Instant.not_lt.mpr (not_not_intro expired)
  simp only [check, loaded, if_neg late, Failure.later, outlasts, bind, Except.bind]

end LicenseKeeper

open Sample in
/-- **If nothing is abandoned, the grace period is in the calendar.** -/
theorem LicenseSettings.inCalendar_of_neverOverflows {config : Config}
    (never : config.NeverOverflows) : config.license.InCalendar := by
  let files : Disk := ⟨[], [], []⟩
  have opened := LicenseKeeper.opened_ofSettings config.license files
  have begins := never.opens files
  rcases made : LicenseKeeper.ofSettings config.license files with failure | keeper <;>
    rw [made] at opened begins
  · cases opened with
    | refused _ why =>
      rcases why with none | large | invalid
      · exact .inl none
      · exact .inr (.inl large)
      · exact .inr (.inr (.inr invalid))
    | abandoned _ _ _ => exact absurd rfl begins
  cases opened with
  | opened _ short issuer nanos =>
    by_cases within : config.license.gracePeriod.toNat ≤ calendarMargin
    · exact .inr (.inr (.inl within))
    have outlasts : dusk.add? keeper.gracePeriod = none :=
      add?_eraLast 0 (by decide) nanos (Nat.lt_of_not_le within)
    have asked := never.checks made (.loaded ⟨"license", 0, dusk⟩) (eraLast 1 (by decide))
      (inEra_eraLast 1 (by decide))
    exact absurd (LicenseKeeper.check_overflows rfl (by decide) outlasts) asked.1

/-- **With which settings nothing is abandoned.** Of all settings that the rules accept, these are
the ones of which every lifetime is refused, or stays in the calendar up to the year 10000. -/
theorem Config.neverOverflows_iff {config : Config} (valid : config.validate = .ok ()) :
    config.NeverOverflows ↔ config.auth.InCalendar ∧ config.license.InCalendar :=
  ⟨fun never => ⟨AuthSettings.inCalendar_of_neverOverflows valid never,
      LicenseSettings.inCalendar_of_neverOverflows never⟩,
    fun ⟨auth, license⟩ => neverOverflows_of_inCalendar valid auth license⟩

/-! The settings that a gateway has by itself, with a secret and a key. -/

namespace Sample

/-- Settings that the rules accept. -/
def usual : Config where
  auth := { tokenSecret := some "0123456789abcdef0123456789abcdef" }
  zkp := { verifyingKeyPath := some "auth_verifying.key" }

/-- The same, with the shortest sessions for which there is no duration. -/
def excessive : Config :=
  { usual with auth := { usual.auth with sessionLifetime := 9223372036854776 } }

end Sample

open Sample in
theorem Config.neverOverflows_iff_usual :
    usual.validate = .ok () ∧ excessive.validate = .ok () ∧ usual.NeverOverflows ∧
      ¬ excessive.NeverOverflows := by
  have valid : usual.validate = .ok () := by decide
  have validToo : excessive.validate = .ok () := by decide
  have within : usual.auth.InCalendar ∧ usual.license.InCalendar :=
    ⟨.inr (.inr ⟨by decide, by decide⟩), .inl rfl⟩
  refine ⟨valid, validToo, (neverOverflows_iff valid).mpr within, fun never => ?_⟩
  rcases ((neverOverflows_iff validToo).mp never).1 with large | ⟨_, large⟩ | ⟨_, short⟩
  · exact absurd large (by decide)
  · exact absurd large (by decide)
  · exact absurd short (by decide)

end DeviceAuth
