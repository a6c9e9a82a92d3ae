import DeviceAuth.Proofs.Auth.Requests

/-!
**Which requests an operation makes.** For whatever is allowed: an operation that reads, and makes
the changes that are listed for it, makes only requests that are allowed, if its reads and these
changes are.
-/

namespace DeviceAuth

open Operation

variable {allowed : Request → Prop} (reads : ∀ request : Request, request.IsRead → allowed request)

include reads

namespace SessionPolicy

variable (policy : SessionPolicy) (token : String)

theorem only_recognize (moment : Instant) : Only allowed (policy.recognize token moment) := by
  refine .bind (.ofResult _) fun claims => ?_
  refine .bind (.request (.session claims.sessionId) _ (reads _ trivial)) fun found => ?_
  rcases found with _ | session
  · exact .refuse _
  · exact .ite (.refuse _) (.ite (.refuse _) (.bind (.ofResult _) fun _ => .pure _))

theorem only_accept (notes : ∀ sessionId usedAt, allowed (.noteUse sessionId usedAt)) :
    Only allowed (policy.accept token) := by
  refine .bind (.request .now _ (reads _ trivial)) fun moment => ?_
  refine .bind (policy.only_recognize reads token moment) fun (claims, _) => ?_
  refine .bind (.request (.noteUse claims.sessionId moment) _ (notes _ _)) fun noted => ?_
  exact .ite (.pure _) (.refuse _)

theorem only_extend (notes : ∀ sessionId usedAt, allowed (.noteUse sessionId usedAt))
    (prolongs : ∀ sessionId expiresAt renewed,
      allowed (.prolongSession sessionId expiresAt renewed)) :
    Only allowed (policy.extend token) := by
  refine .bind (.request .now _ (reads _ trivial)) fun moment => ?_
  refine .bind (policy.only_recognize reads token moment) fun (claims, session) => ?_
  refine .bind (.later _ _) fun expiresAt => ?_
  refine .bind (.request (.prolongSession _ _ _) _ (prolongs _ _ _)) fun found => ?_
  refine .ite ?_ (.refuse _)
  exact .bind (.request (.noteUse _ _) _ (notes _ _)) fun _ => .pure _

omit reads in
theorem only_close (removes : ∀ sessionId, allowed (.removeSession sessionId))
    (sessionId : String) : Only allowed (close sessionId) :=
  .bind (.request (.removeSession sessionId) _ (removes _)) fun _ => .ite (.pure _) (.refuse _)

end SessionPolicy

namespace Service

variable (service : Service)

theorem only_endByToken (token : String)
    (notes : ∀ sessionId usedAt, allowed (.noteUse sessionId usedAt))
    (removes : ∀ sessionId, allowed (.removeSession sessionId)) :
    Only allowed (service.endByToken token) := by
  refine .bind (service.sessions.only_accept reads token notes) fun claims => ?_
  exact .bind (SessionPolicy.only_close removes claims.sessionId) fun _ => .pure _

theorem only_removeExpired (challenges : ∀ moment, allowed (.dropChallenges moment))
    (sessions : ∀ moment, allowed (.dropSessions moment)) : Only allowed removeExpired := by
  refine .bind (.request .now _ (reads _ trivial)) fun moment => ?_
  refine .bind (.request (.dropChallenges moment) _ (challenges _)) fun dropped => ?_
  exact .bind (.request (.dropSessions moment) _ (sessions _)) fun also => .pure _

theorem only_credentialOf (deviceId : String) : Only allowed (credentialOf deviceId) := by
  refine .bind (.request (.device deviceId) _ (reads _ trivial)) fun found => ?_
  rcases found with _ | credential
  · exact .refuse _
  · exact .ite (.pure _) (.refuse _)

theorem only_checkLicense (deviceId : String) : Only allowed (checkLicense deviceId) := by
  refine .bind (.request .license _ (reads _ trivial)) fun gate => .ite ?_ (.pure _)
  refine .bind (.request .now _ (reads _ trivial)) fun moment => .bind (.done _) fun _ => ?_
  refine .ite (.pure _) (.bind (.bind (.request .now _ (reads _ trivial)) fun now => ?_)
    fun live => .ite (.refuse _) (.pure _))
  exact .request (.liveDevices now) _ (reads _ trivial)

theorem only_issueChallenge (adds : ∀ added, allowed (.addChallenge added))
    (challengeId : String) (nonce : Word256) (deviceId : String) :
    Only allowed (service.issueChallenge challengeId nonce deviceId) := by
  refine .bind (only_credentialOf reads deviceId) fun _ => ?_
  refine .bind (.request (.failures deviceId) _ (reads _ trivial)) fun failures => ?_
  refine .ite (.refuse _) (.bind (only_checkLicense reads deviceId) fun _ => ?_)
  refine .bind (.request .now _ (reads _ trivial)) fun moment => .bind (.later _ _) fun expiry => ?_
  exact .bind (.request (.addChallenge _) _ (adds _)) fun _ => .pure _

theorem only_holdAgainst (counts : ∀ deviceId, allowed (.countFailure deviceId))
    (deviceId : String) (error : AuthError) : Only allowed (holdAgainst deviceId error) := by
  have known : Only allowed (knows deviceId) := by
    refine .ask _ _ (reads _ trivial) fun answer => ?_
    rcases answer with _ | _ | _ <;> exact .pure _
  refine .ite (.bind known fun _ => .ite (.ite ?_ (.refuse _)) (.refuse _)) (.refuse _)
  exact .bind (.request (.countFailure deviceId) _ (counts _)) fun _ => .refuse _

theorem only_submitProof (spends : ∀ challengeId, allowed (.spendChallenge challengeId))
    (forgets : ∀ deviceId, allowed (.forgetFailures deviceId))
    (adds : ∀ added, allowed (.addSession added))
    (counts : ∀ deviceId, allowed (.countFailure deviceId))
    (sessionId deviceId challengeId : String) (proof : Bytes) (values : PublicValues) :
    Only allowed (service.submitProof sessionId deviceId challengeId proof values) := by
  refine .onRefusal (.bind (.request .now _ (reads _ trivial)) fun moment => ?_)
    (only_holdAgainst reads counts deviceId)
  refine .bind (.bind (.request (.challenge challengeId) _ (reads _ trivial)) fun found => ?_)
    fun challenge => ?_
  · rcases found with _ | challenge
    · exact .refuse _
    · exact .ite (.refuse _) (.ite (.refuse _) (.pure _))
  refine .bind (only_credentialOf reads deviceId) fun device => .bind (.ofResult _) fun _ => ?_
  refine .bind (.ofResult _) fun valid => .ite ?_ (.refuse _)
  refine .bind (.request (.spendChallenge challengeId) _ (spends _)) fun spent =>
    .ite ?_ (.refuse _)
  refine .bind (.request (.forgetFailures deviceId) _ (forgets _)) fun _ => ?_
  refine .bind (.request .now _ (reads _ trivial)) fun now => .bind (.later _ _) fun expiry => ?_
  exact .bind (.request (.addSession _) _ (adds _)) fun _ => .pure _

end Service

end DeviceAuth
