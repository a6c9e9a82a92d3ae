import DeviceAuth.Proofs.Auth.TokenLifetime
import Mathlib

/-!
**What has been presented to a license gate decides what it does,** and of that only the last
license that verified; before any has, only whether some license failed.

* `Verdict`: what comes of a license that is presented. It depends on the issuer alone, not on what
  was presented before.
* `LicenseKeeper.present_eq`: a gate changes by the verdict. `LicenseKeeper.after_eq`: after any
  number of presentations it is in the state that `held` and `fault` name.
* `license_gate_of_history`: what the gate then answers, its report included.
-/

namespace DeviceAuth

/-- A license that is presented to a gate: by itself, or in a file at a path. -/
inductive Presentation (δ : Type) where
  | license (license : License)
  | file (files : Files.Tree δ) (path : String)

/-- What comes of a license that is presented. -/
inductive Verdict where
  /-- The issuer has signed it. -/
  | verified (terms : LicenseTerms)
  /-- It is no license, or the issuer has not signed it. -/
  | failed (error : AuthError)
  /-- The file with it cannot be read. -/
  | unread
  deriving DecidableEq

namespace Verdict

/-- What comes of a license. -/
def ofLicense (issuer : Ed25519.PublicKey) (license : License) : Verdict :=
  match license.verify issuer with
  | .ok terms => verified terms
  | .error error => failed error

/-- The terms that have been verified. -/
def terms? : Verdict → Option LicenseTerms
  | verified terms => some terms
  | _ => none

/-- Why the license failed. -/
def error? : Verdict → Option AuthError
  | failed error => some error
  | _ => none

end Verdict

section History

variable {δ : Type}

/-- What comes of a presentation. -/
def Presentation.verdict (issuer : Ed25519.PublicKey) : Presentation δ → Verdict
  | license shown => .ofLicense issuer shown
  | file files path =>
    match files.readText path with
    | .error _ => .unread
    | .ok text =>
      match (Json.parse? (Bytes.ofText text)).bind License.ofJson? with
      | some shown => .ofLicense issuer shown
      | none => .failed LicenseKeeper.unreadable

/-- The terms of the last license that verified. -/
def held (issuer : Ed25519.PublicKey) (presented : List (Presentation δ)) : Option LicenseTerms :=
  (presented.filterMap fun presentation => (presentation.verdict issuer).terms?).getLast?

/-- The terms that are held come from the verdicts alone. -/
theorem held_eq_of_verdicts (issuer : Ed25519.PublicKey) (presented : List (Presentation δ)) :
    held issuer presented =
      ((presented.map (Presentation.verdict issuer)).filterMap Verdict.terms?).getLast? := by
  rw [List.filterMap_map]
  rfl

/-- Why the last license failed that did. -/
def fault (issuer : Ed25519.PublicKey) (presented : List (Presentation δ)) : Option AuthError :=
  (presented.filterMap fun presentation => (presentation.verdict issuer).error?).getLast?

/-! ### The state of a gate -/

/-- The state that the last terms and the last failure lead to. -/
def Presented.of : Option LicenseTerms → Option AuthError → Presented
  | some terms, _ => .loaded terms
  | none, some error => .rejected error.message
  | none, none => .pending

namespace LicenseKeeper

/-- Presents a license, by itself or in a file. -/
def present (keeper : LicenseKeeper) : Presentation δ → Except AuthError Unit × LicenseKeeper
  | .license shown => keeper.install shown
  | .file files path => keeper.load files path

/-- The gate after presentations. -/
def after (keeper : LicenseKeeper) (presented : List (Presentation δ)) : LicenseKeeper :=
  presented.foldl (fun keeper presentation => (keeper.present presentation).2) keeper

variable {keeper : LicenseKeeper}

/-- The gate after a verdict. -/
def hear (keeper : LicenseKeeper) : Verdict → LicenseKeeper
  | .verified terms => { keeper with state := .loaded terms }
  | .failed error => keeper.reject error
  | .unread => keeper

/-- No verdict changes the grace period. -/
theorem gracePeriod_hear (verdict : Verdict) :
    (keeper.hear verdict).gracePeriod = keeper.gracePeriod := by
  cases verdict with
  | failed error =>
    simp only [hear, reject]
    split <;> rfl
  | _ => rfl

theorem install_eq (license : License) :
    (keeper.install license).2 = keeper.hear (.ofLicense keeper.issuer license) := by
  unfold install Verdict.ofLicense
  rcases license.verify keeper.issuer with error | terms <;> rfl

/-- **A gate changes by the verdict.** -/
theorem present_eq (presentation : Presentation δ) :
    (keeper.present presentation).2 = keeper.hear (presentation.verdict keeper.issuer) := by
  cases presentation with
  | license shown => exact install_eq shown
  | file files path =>
    simp only [present, load, Presentation.verdict]
    rcases files.readText path with fault | text
    · rfl
    dsimp only
    rcases (Json.parse? (Bytes.ofText text)).bind License.ofJson? with _ | shown
    · rfl
    · exact install_eq shown

/-- The state after a verdict, from the last terms and the last failure before it. -/
theorem hear_of {terms : Option LicenseTerms} {error : Option AuthError}
    (current : keeper.state = .of terms error) (verdict : Verdict) :
    keeper.hear verdict =
      { keeper with state := .of (verdict.terms?.or terms) (verdict.error?.or error) } := by
  obtain ⟨issuer, gracePeriod, state⟩ := keeper
  cases current
  rcases verdict with new | new | _ <;> rcases terms with _ | old <;>
    rcases error with _ | last <;> rfl

theorem after_concat (before : List (Presentation δ)) (presentation : Presentation δ) :
    keeper.after (before ++ [presentation]) =
      ((keeper.after before).present presentation).2 := by
  simp only [after, List.foldl_append, List.foldl_cons, List.foldl_nil]

/-- **After any presentations** a gate holds the last license that verified, and if none did, the
last failure. -/
theorem after_eq (issuer : Ed25519.PublicKey) (gracePeriod : Duration)
    (presented : List (Presentation δ)) :
    (awaiting issuer gracePeriod).after presented =
      ⟨issuer, gracePeriod, .of (held issuer presented) (fault issuer presented)⟩ := by
  induction presented using List.reverseRecOn with
  | nil => rfl
  | append_singleton before presentation ih =>
    rw [after_concat, ih, present_eq, hear_of rfl]
    simp only [held, fault, List.filterMap_append, List.filterMap_cons, List.filterMap_nil]
    rcases presentation.verdict issuer with new | new | _ <;>
      simp only [Verdict.terms?, Verdict.error?, List.getLast?_append, List.append_nil,
        List.getLast?_singleton, Option.none_or, Option.some_or]

/-! ### The answers of a gate -/

section Answers

variable (issuer : Ed25519.PublicKey) {gracePeriod : Duration} {terms : LicenseTerms}
  (now : Instant) {end_ : Instant}

/-- **A gate with a license passes until the end of the grace period.** -/
theorem check_loaded (span : 0 ≤ gracePeriod.nanos)
    (ends : terms.expiresAt.add? gracePeriod = some end_) :
    (mk issuer gracePeriod (.loaded terms)).check now =
      if now ≤ end_ then .ok ()
      else .error (.refused (.licenseDenied ("license " ++ terms.licenseId ++ " expired at "
        ++ Rfc3339.renderWithOffset terms.expiresAt))) := by
  have graceful := Instant.le_add? span ends
  by_cases current : now ≤ terms.expiresAt
  · have inTime : now ≤ end_ := Int.le_trans current graceful
    simp only [check, current, inTime, if_true]
  · have late : end_ < now ↔ ¬ now ≤ end_ := by rw [← Instant.not_lt, Classical.not_not]
    simp only [check, current, if_false, Failure.later, ends, bind, Except.bind, late, ite_not]

/-- The report on a license says whether it has expired, and whether the grace period is over. -/
theorem report_loaded (span : 0 ≤ gracePeriod.nanos)
    (ends : terms.expiresAt.add? gracePeriod = some end_) :
    ∃ report, (mk issuer gracePeriod (.loaded terms)).report now = .ok report ∧
      (report.expired = true ∧ report.inGracePeriod = false ↔ ¬ now ≤ end_) := by
  have graceful := Instant.le_add? span ends
  by_cases expired : terms.expiresAt < now
  · simp only [report, expired, decide_true, if_true, Failure.later, ends, bind, Except.bind]
    exact ⟨_, rfl, by simp only [true_and, decide_eq_false_iff_not]⟩
  · simp only [report, expired, decide_false, Bool.false_eq_true, if_false]
    have inTime : now ≤ end_ := Int.le_trans (Instant.not_lt.mp expired) graceful
    exact ⟨_, rfl, by simp only [Bool.false_eq_true, false_and, inTime, not_true]⟩

end Answers

end LicenseKeeper

/-- **The license gate is determined by what has been presented to it.** It holds the terms of the
last license that verified, whatever failed before or after it. If none verified, it denies where a
license failed, and passes where nothing was presented that could be read. A license passes until
its grace period is over, which its report agrees with, and sets the limit of devices. -/
theorem license_gate_of_history (issuer : Ed25519.PublicKey) (gracePeriod : Duration)
    (presented : List (Presentation δ)) (now : Instant) (span : 0 ≤ gracePeriod.nanos)
    (inRange : ∀ terms, held issuer presented = some terms →
      ∃ end_, terms.expiresAt.add? gracePeriod = some end_) :
    let keeper := (LicenseKeeper.awaiting issuer gracePeriod).after presented
    (∀ terms, held issuer presented = some terms → keeper.state = .loaded terms) ∧
      (held issuer presented = none → ∀ error, fault issuer presented = some error →
        keeper.state = .rejected error.message ∧
          keeper.check now = .error (.refused (.licenseDenied error.message))) ∧
      (held issuer presented = none → fault issuer presented = none →
        keeper.state = .pending ∧ keeper.check now = .ok ()) ∧
      (keeper.check now = .ok () ↔
        (held issuer presented = none ∧ fault issuer presented = none) ∨
          ∃ terms end_, held issuer presented = some terms ∧
            terms.expiresAt.add? gracePeriod = some end_ ∧ now ≤ end_) ∧
      keeper.maxDevices = ((held issuer presented).map LicenseTerms.maxDevices).getD 0 ∧
      ∀ terms, held issuer presented = some terms → ∃ report, keeper.report now = .ok report ∧
        ((∃ detail, keeper.check now = .error (.refused (.licenseDenied detail))) ↔
          report.expired = true ∧ report.inGracePeriod = false) := by
  intro keeper
  have remembers : keeper = _ := LicenseKeeper.after_eq issuer gracePeriod presented
  clear_value keeper
  subst remembers
  revert inRange
  generalize held issuer presented = terms
  generalize fault issuer presented = error
  intro inRange
  rcases terms with _ | terms
  · rcases error with _ | error <;>
      simp [Presented.of, LicenseKeeper.check, LicenseKeeper.maxDevices]
  obtain ⟨end_, ends⟩ := inRange terms rfl
  have passes := LicenseKeeper.check_loaded issuer now span ends
  obtain ⟨report, reported, agrees⟩ := LicenseKeeper.report_loaded issuer now span ends
  simp only [Presented.of, passes]
  refine ⟨fun _ same => ?_, nofun, nofun, ?_, rfl, fun _ same => ⟨report, reported, ?_⟩⟩
  · cases same
    rfl
  · by_cases inTime : now ≤ end_
    · simp only [inTime, if_true, true_iff]
      exact .inr ⟨terms, end_, rfl, ends, inTime⟩
    · simp only [inTime, if_false, reduceCtorEq, false_iff]
      rintro (⟨none, -⟩ | ⟨other, otherEnd, same, otherEnds, before⟩)
      · cases none
      · cases same
        rw [ends] at otherEnds
        cases otherEnds
        exact inTime before
  · rw [agrees]
    by_cases inTime : now ≤ end_
    · simp only [inTime, if_true, reduceCtorEq, exists_false, not_true]
    · simp only [inTime, if_false, not_false_iff, iff_true]
      exact ⟨_, rfl⟩

end History

/-! A license that verified is served until its grace period is over, whatever is presented after
it. -/

namespace Sample

/-- The key under which the neutral point signs everything. -/
def anyone : Ed25519.PublicKey :=
  ⟨Ed25519.Point.neutral.encode, .neutral⟩

/-- A license for one device that ends at once. -/
def trial : License where
  terms := ⟨"license", 1, epoch⟩
  signature := Hex.encode (Ed25519.Point.neutral.encode ++ Bytes.ofNatLE 32 0)

/-- A license without signature, one that verifies, another without, and a file that is missing. -/
def presentations : List (Presentation Unit) := [
  .license { trial with signature := "" },
  .license trial,
  .license ⟨⟨"other", 2, epoch⟩, "00"⟩,
  .file .empty "license.json"]

end Sample

open Sample in
theorem license_gate_of_history_graceful :
    let keeper := (LicenseKeeper.awaiting anyone second).after presentations
    keeper.state = .loaded trial.terms ∧ keeper.check nextSecond = .ok () ∧
      keeper.maxDevices = 1 := by
  have missing : (Files.Tree.empty : Files.Tree Unit).readText "license.json" =
      .error .notFound := by cbv
  have verified : Verdict.ofLicense anyone trial = .verified trial.terms := by decide +kernel
  have unsigned : Verdict.ofLicense anyone { trial with signature := "" } =
      .failed (.licenseDenied "signature must be 64 bytes") := by decide +kernel
  have short : Verdict.ofLicense anyone ⟨⟨"other", 2, epoch⟩, "00"⟩ =
      .failed (.licenseDenied "signature must be 64 bytes") := by decide +kernel
  have verdicts : presentations.map (Presentation.verdict anyone) =
      [.failed (.licenseDenied "signature must be 64 bytes"), .verified trial.terms,
        .failed (.licenseDenied "signature must be 64 bytes"), .unread] := by
    simp only [presentations, List.map_cons, List.map_nil, Presentation.verdict, missing, verified,
      unsigned, short]
  have holds : held anyone presentations = some trial.terms := by
    rw [held_eq_of_verdicts, verdicts]
    rfl
  have ends : epoch.add? second = some nextSecond := by decide +kernel
  obtain ⟨loaded, -, -, passes, limit, -⟩ :=
    license_gate_of_history anyone second presentations nextSecond (by decide) fun terms same => by
      rw [holds] at same
      cases same
      exact ⟨nextSecond, ends⟩
  refine ⟨loaded _ holds, passes.mpr (.inr ⟨_, nextSecond, holds, ends, Int.le_refl _⟩), ?_⟩
  rw [limit, holds]
  rfl

end DeviceAuth
