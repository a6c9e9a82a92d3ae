import DeviceAuth.Gateway.Router
import DeviceAuth.Proofs.Auth.Sessions

/-!
**What is asked of a session, request by request,** whatever the requests are answered with: its
token is accepted or it is extended (a use), or it is ended by its id, by its token, or by a request
to the gateway that carries its token (a revocation).

* `Barred`: if the session is gone, an operation ends with that it is not found, and asks to write
  nothing but this session.
* `Visits`: how an operation that uses a session comes to be barred, once the session is gone.
* `RemovesFirst`: an operation that succeeds has removed the session.
-/

namespace DeviceAuth

open Operation

/-- Whether a request of a client asks the gateway to end the session of its token. -/
def Gateway.Request.AsksToRevoke (request : Gateway.Request) : Prop :=
  request.method = "POST" ∧
    (Gateway.targetPath? request.target).bind Gateway.Endpoint.ofPath? = some .revoke

/-- What is asked of a session. -/
inductive Job where
  | accept (token : String)
  | extend (token : String)
  | close (sessionId : String)
  | endByToken (token : String)
  | revoke (fresh : Gateway.Fresh) (request : Gateway.Request) (asks : request.AsksToRevoke)

namespace Job

/-- What a job gives. -/
abbrev Result : Job → Type
  | accept _ => TokenClaims
  | extend _ => Session
  | close _ => Unit
  | endByToken _ => TokenClaims
  | revoke _ _ _ => Gateway.Response

/-- The operation that does a job. -/
def operation (server : Gateway.Server) : (job : Job) → Operation job.Result
  | accept token => server.service.acceptToken token
  | extend token => server.service.extendSession token
  | close sessionId => Service.endSession sessionId
  | endByToken token => server.service.endByToken token
  | revoke fresh request _ => Gateway.respond server fresh request

/-- The session that the verified token of a job names, or the one that is named without token. -/
def subject? (server : Gateway.Server) : Job → Option String
  | accept token | extend token | endByToken token =>
    (server.service.sessions.tokenKey.verify token).toOption.map TokenClaims.sessionId
  | close sessionId => some sessionId
  | revoke _ request _ =>
    (Gateway.bearerToken request.headers).toOption.bind fun token =>
      (server.service.sessions.tokenKey.verify token).toOption.map TokenClaims.sessionId

/-- Whether a job uses its session. -/
def IsUse : Job → Prop
  | accept _ | extend _ => True
  | _ => False

/-- Whether a job ends its session. -/
def IsRevocation : Job → Prop
  | close _ | endByToken _ | revoke _ _ _ => True
  | _ => False

/-- Whether a result says that the job is done. -/
def Succeeds : (job : Job) → job.Result → Prop
  | revoke _ _ _, response => response.status = 200
  | _, _ => True

end Job

/-! ### Requests -/

/-- The id of the session that a request adds. -/
def Request.opened? : Request → Option String
  | addSession added => some added.sessionId
  | _ => none

/-- Whether a request leaves the session with an id as it is. -/
def Request.Spares (sessionId : String) : Request → Prop
  | addSession added => added.sessionId ≠ sessionId
  | noteUse other _ | prolongSession other _ _ | removeSession other => other ≠ sessionId
  | dropSessions _ => False
  | _ => True

theorem Request.revise_of_spares {request : Request} {sessionId : String}
    (spares : request.Spares sessionId) (resolution : Resolution) (held : Option Session) :
    request.revise resolution sessionId held = held := by
  cases request with
  | addSession _ | noteUse _ _ | prolongSession _ _ _ | removeSession _ =>
    exact if_neg fun same => spares same.symm
  | dropSessions _ => cases spares
  | _ => rfl

/-- An id without session stays so, unless a session is added with it. -/
theorem Request.revise_none {request : Request} {sessionId : String}
    (other : request.opened? ≠ some sessionId) (resolution : Resolution) :
    request.revise resolution sessionId none = none := by
  cases request with
  | addSession added =>
    refine if_neg fun same => other ?_
    rw [opened?, same]
  | noteUse _ _ | prolongSession _ _ _ | removeSession _ => exact ite_self none
  | _ => rfl

namespace Operation

variable {α β : Type} {sessionId : String}

/-! ### Sessions that are gone -/

/-- **An operation that can only fail, if the session is gone:** it asks for the clock, reads the
session or writes to it, and ends with that the session is not found. -/
inductive Barred (sessionId : String) : Operation α → Prop
  | failed : Barred sessionId (.done (.error (.refused (.sessionNotFound sessionId))))
  | now (next : Instant → Operation α) : (∀ moment, Barred sessionId (next moment)) →
      Barred sessionId (.ask .now next)
  | session (next : Except AuthError (Option Session) → Operation α) :
      Barred sessionId (next (.ok none)) → Barred sessionId (.ask (.session sessionId) next)
  | noteUse (usedAt : Instant) (next : Except AuthError Bool → Operation α) :
      Barred sessionId (next (.ok false)) →
      Barred sessionId (.ask (.noteUse sessionId usedAt) next)
  | prolongSession (expiresAt : Instant) (token : String)
      (next : Except AuthError Bool → Operation α) : Barred sessionId (next (.ok false)) →
      Barred sessionId (.ask (.prolongSession sessionId expiresAt token) next)

/-- **An operation that uses a session.** Before each of its requests it is barred if the session is
gone by then, except that one that has extended the session does not look at whether its use could
be noted. What is read of the session must have its id. -/
inductive Visits (sessionId : String) (renewing : Prop) : Operation α → Prop
  | done (result : Except Failure α) : Visits sessionId renewing (.done result)
  | now (next : Instant → Operation α) : (∀ moment, Barred sessionId (next moment)) →
      (∀ moment, Visits sessionId renewing (next moment)) →
      Visits sessionId renewing (.ask .now next)
  | session (next : Except AuthError (Option Session) → Operation α) :
      Barred sessionId (next (.ok none)) →
      (∀ answer, (∀ session, answer = .ok (some session) → session.sessionId = sessionId) →
        Visits sessionId renewing (next answer)) →
      Visits sessionId renewing (.ask (.session sessionId) next)
  | noteUse (usedAt : Instant) (next : Except AuthError Bool → Operation α) :
      renewing ∨ Barred sessionId (next (.ok false)) →
      (∀ answer, Visits sessionId renewing (next answer)) →
      Visits sessionId renewing (.ask (.noteUse sessionId usedAt) next)
  | prolongSession (expiresAt : Instant) (token : String)
      (next : Except AuthError Bool → Operation α) : Barred sessionId (next (.ok false)) →
      (∀ answer, Visits sessionId renewing (next answer)) →
      Visits sessionId renewing (.ask (.prolongSession sessionId expiresAt token) next)

/-- It is barred, or has ended, or has extended the session. -/
theorem Visits.barred_or {renewing : Prop} {operation : Operation α}
    (visits : Visits sessionId renewing operation) :
    Barred sessionId operation ∨ (∃ result, operation = .done result) ∨
      renewing ∧ ∃ usedAt next, operation = .ask (.noteUse sessionId usedAt) next := by
  cases visits with
  | done result => exact .inr (.inl ⟨result, rfl⟩)
  | now next barred _ => exact .inl (.now next barred)
  | session next barred _ => exact .inl (.session next barred)
  | noteUse usedAt next either _ =>
    rcases either with allowed | barred
    · exact .inr (.inr ⟨allowed, usedAt, next, rfl⟩)
    · exact .inl (.noteUse usedAt next barred)
  | prolongSession expiresAt token next barred _ =>
    exact .inl (.prolongSession expiresAt token next barred)

/-! ### Values -/

/-- **Every value that an operation can end with** is as it should be. -/
inductive Gives (given : α → Prop) : Operation α → Prop
  | failed (failure : Failure) : Gives given (.done (.error failure))
  | value (value : α) : given value → Gives given (.done (.ok value))
  | ask (request : Request) (next : request.Answer → Operation α) :
      (∀ answer, Gives given (next answer)) → Gives given (.ask request next)

namespace Gives

variable {given : α → Prop} {wanted : β → Prop}

theorem any (operation : Operation α) : Gives (fun _ => True) operation := by
  induction operation with
  | done result =>
    rcases result with failure | value
    · exact .failed failure
    · exact .value value trivial
  | ask request next ih => exact .ask request next ih

theorem ofResult (result : Except AuthError α) :
    Gives (fun value => result = .ok value) (Operation.ofResult result) := by
  rcases result with error | value
  · exact .failed _
  · exact .value value rfl

theorem bind {first : Operation α} {rest : α → Operation β} (gives : Gives given first)
    (goesOn : ∀ value, given value → Gives wanted (rest value)) : Gives wanted (first >>= rest) := by
  induction gives with
  | failed failure => exact .failed failure
  | value value holds => exact goesOn value holds
  | ask request next _ ih => exact .ask request _ ih

end Gives

/-- The requests after an operation may depend on what it gives. -/
theorem Only.bind_gives {allowed : Request → Prop} {given : α → Prop} {first : Operation α}
    {rest : α → Operation β} (begins : Only allowed first) (gives : Gives given first)
    (goesOn : ∀ value, given value → Only allowed (rest value)) : Only allowed (first >>= rest) := by
  induction begins with
  | done result =>
    cases gives with
    | failed failure => exact .done _
    | value value holds => exact goesOn value holds
  | ask request next here _ ih =>
    cases gives with
    | ask _ _ gives => exact .ask request _ here fun answer => ih answer (gives answer)

/-! ### Sessions that an operation removes -/

/-- **An operation that does not succeed without removing the session:** before it ends with a good
value, its own request has removed it. -/
inductive RemovesFirst (sessionId : String) (good : α → Prop) : Operation α → Prop
  | failed (failure : Failure) : RemovesFirst sessionId good (.done (.error failure))
  | bad (value : α) : ¬ good value → RemovesFirst sessionId good (.done (.ok value))
  | ask (request : Request) (next : request.Answer → Operation α) :
      (∀ answer, RemovesFirst sessionId good (next answer)) →
      RemovesFirst sessionId good (.ask request next)
  | remove (next : Except AuthError Bool → Operation α) :
      (∀ answer, answer ≠ .ok true → RemovesFirst sessionId good (next answer)) →
      RemovesFirst sessionId good (.ask (.removeSession sessionId) next)

namespace RemovesFirst

variable {good : α → Prop} {better : β → Prop}

/-- What comes before does not matter, apart from the values that it gives. -/
theorem after {given : α → Prop} {first : Operation α} {rest : α → Operation β}
    (gives : Gives given first)
    (goesOn : ∀ value, given value → RemovesFirst sessionId better (rest value)) :
    RemovesFirst sessionId better (first >>= rest) := by
  induction gives with
  | failed failure => exact .failed failure
  | value value holds => exact goesOn value holds
  | ask request next _ ih => exact .ask request _ ih

/-- What comes after does not matter, unless what comes before has not succeeded. -/
theorem bind {first : Operation α} (removes : RemovesFirst sessionId good first)
    {rest : α → Operation β}
    (goesOn : ∀ value, ¬ good value → RemovesFirst sessionId better (rest value)) :
    RemovesFirst sessionId better (first >>= rest) := by
  induction removes with
  | failed failure => exact .failed failure
  | bad value no => exact goesOn value no
  | ask request next _ ih => exact .ask request _ ih
  | remove next _ ih => exact .remove _ ih

theorem outcome {operation : Operation α} (removes : RemovesFirst sessionId good operation) :
    RemovesFirst sessionId (fun result => ∃ value, result = .ok value ∧ good value)
      operation.outcome := by
  induction removes with
  | failed failure =>
    refine .bad _ fun ⟨_, same, _⟩ => ?_
    cases same
  | bad value no =>
    refine .bad _ fun ⟨_, same, yes⟩ => ?_
    cases same
    exact no yes
  | ask request next _ ih => exact .ask request _ ih
  | remove next _ ih => exact .remove _ ih

end RemovesFirst

/-! ### Results as values -/

theorem Only.outcome {allowed : Request → Prop} {operation : Operation α}
    (only : Only allowed operation) : Only allowed operation.outcome := by
  induction only with
  | done result => exact .done _
  | ask request next here _ ih => exact .ask request _ here ih

theorem Within.outcome {bound : Nat} {operation : Operation α} (within : Within bound operation) :
    Within bound operation.outcome := by
  induction within with
  | done bound result => exact .done bound _
  | ask request next _ ih => exact .ask request _ ih

end Operation

/-! ### Tokens -/

namespace SessionPolicy

variable {β : Type} {policy : SessionPolicy} {token : String} {claims : TokenClaims}

/-- Recognizing a token fails if the session that it names is gone. -/
theorem barred_recognize (verified : policy.tokenKey.verify token = .ok claims) (moment : Instant)
    (rest : TokenClaims × Session → Operation β) :
    Barred claims.sessionId (policy.recognize token moment >>= rest) := by
  unfold recognize
  rw [verified]
  exact .session _ .failed

theorem visits_recognize (verified : policy.tokenKey.verify token = .ok claims) {renewing : Prop}
    (moment : Instant) {rest : TokenClaims × Session → Operation β}
    (goesOn : ∀ session, session.sessionId = claims.sessionId →
      Visits claims.sessionId renewing (rest (claims, session))) :
    Visits claims.sessionId renewing (policy.recognize token moment >>= rest) := by
  unfold recognize
  rw [verified]
  refine .session _ .failed fun answer keyed => ?_
  rcases answer with error | _ | session
  · exact .done _
  · exact .done _
  show Visits claims.sessionId renewing ((if _ then _ else if _ then _ else _) >>= rest)
  split
  · exact .done _
  split
  · exact .done _
  rcases claims.checkPeriod moment with error | _
  · exact .done _
  · exact goesOn session (keyed session rfl)

theorem barred_accept (verified : policy.tokenKey.verify token = .ok claims) :
    Barred claims.sessionId (policy.accept token) :=
  .now _ fun moment => barred_recognize verified moment _

theorem barred_extend (verified : policy.tokenKey.verify token = .ok claims) :
    Barred claims.sessionId (policy.extend token) :=
  .now _ fun moment => barred_recognize verified moment _

theorem visits_accept (verified : policy.tokenKey.verify token = .ok claims) :
    Visits claims.sessionId False (policy.accept token) := by
  refine .now _ (fun moment => barred_recognize verified moment _) fun moment => ?_
  refine visits_recognize verified moment fun session _ => ?_
  refine .noteUse moment _ (.inr .failed) fun answer => ?_
  rcases answer with error | _ | _ <;> exact .done _

theorem visits_extend (verified : policy.tokenKey.verify token = .ok claims) :
    Visits claims.sessionId True (policy.extend token) := by
  refine .now _ (fun moment => barred_recognize verified moment _) fun moment => ?_
  refine visits_recognize verified moment fun session named => ?_
  rcases ends : Failure.later moment policy.lifetime with failure | expiresAt
  · simp only [Operation.later, ends]
    exact .done _
  simp only [Operation.later, ends]
  rw [← named]
  refine .prolongSession expiresAt _ _ .failed fun answer => ?_
  rcases answer with error | _ | _
  · exact .done _
  · exact .done _
  refine .noteUse moment _ (.inl trivial) fun answer => ?_
  rcases answer with error | _ <;> exact .done _

variable (policy token)

/-- Only the claims of the token itself are recognized. -/
theorem gives_recognize (moment : Instant) :
    Gives (fun recognized => policy.tokenKey.verify token = .ok recognized.1)
      (policy.recognize token moment) := by
  refine .bind (.ofResult _) fun claims verified => .bind (.any _) fun found _ => ?_
  rcases found with _ | session
  · exact .failed _
  show Gives _ (if _ then _ else if _ then _ else _)
  split
  · exact .failed _
  split
  · exact .failed _
  · exact .bind (.any _) fun _ _ => .value _ verified

theorem gives_accept :
    Gives (fun claims => policy.tokenKey.verify token = .ok claims) (policy.accept token) := by
  refine .bind (.any _) fun moment _ => ?_
  refine .bind (policy.gives_recognize token moment) fun (claims, _) verified => ?_
  refine .bind (.any _) fun noted _ => ?_
  split
  · exact .value _ verified
  · exact .failed _

end SessionPolicy

/-! ### Jobs -/

theorem Request.IsRead.spares {request : Request} (read : request.IsRead) (sessionId : String) :
    request.Spares sessionId := by
  cases request <;> first | exact trivial | cases read

theorem Request.Shortens.opensNothing {request : Request} (shortens : request.Shortens) :
    request.opened? = none := by
  cases request <;> first | rfl | cases shortens

namespace SessionPolicy

variable (policy : SessionPolicy) (token : String)

theorem opensNothing_extend :
    Only (fun request => request.opened? = none) (policy.extend token) :=
  policy.only_extend (fun _ read => read.shortens.opensNothing) token (fun _ _ => rfl)
    fun _ _ _ => rfl

/-- Accepting a token spares all sessions but the one that it names. -/
theorem spares_accept {other : String}
    (elsewhere : ∀ claims, policy.tokenKey.verify token = .ok claims → claims.sessionId ≠ other) :
    Only (Request.Spares other) (policy.accept token) := by
  refine .bind (.request .now _ trivial) fun moment => ?_
  refine .bind_gives (policy.only_recognize (fun _ read => read.spares other) token moment)
    (policy.gives_recognize token moment) fun (claims, _) verified => ?_
  have here : (Request.noteUse claims.sessionId moment).Spares other := elsewhere claims verified
  exact .bind (.request _ _ here) fun _ => .ite (.pure _) (.refuse _)

theorem spares_close {sessionId other : String} (elsewhere : sessionId ≠ other) :
    Only (Request.Spares other) (close sessionId) := by
  have here : (Request.removeSession sessionId).Spares other := elsewhere
  exact .bind (.request _ _ here) fun _ => .ite (.pure _) (.refuse _)

theorem removesFirst_close (sessionId : String) :
    RemovesFirst sessionId (fun _ => True) (close sessionId) := by
  refine .remove _ fun answer other => ?_
  rcases answer with error | _ | _
  · exact .failed _
  · exact .failed _
  · exact absurd rfl other

theorem within_recognize (moment : Instant) : Within 1 (policy.recognize token moment) := by
  show Within (0 + (1 + 0)) _
  refine .bind (.done _ _) fun claims => .bind (.request (.session _) _) fun found => ?_
  rcases found with _ | session
  · exact .done _ _
  · refine .ite (.done _ _) (.ite (.done _ _) ?_)
    show Within (0 + 0) _
    exact .bind (.done _ _) fun _ => .done _ _

theorem within_accept : Within 3 (policy.accept token) := by
  show Within (1 + (1 + (1 + 0))) _
  refine .bind (.request .now _) fun moment => ?_
  refine .bind (policy.within_recognize token moment) fun recognized => ?_
  exact .bind (.request (.noteUse _ _) _) fun _ => .ite (.done _ _) (.done _ _)

theorem within_extend : Within 4 (policy.extend token) := by
  show Within (1 + (1 + (0 + (1 + (1 + 0))))) _
  refine .bind (.request .now _) fun moment => ?_
  refine .bind (policy.within_recognize token moment) fun (claims, session) => ?_
  refine .bind (.done _ _) fun expiresAt => ?_
  refine .bind (.request (.prolongSession _ _ _) _) fun found => .ite ?_ (.done _ _)
  exact .bind (.request (.noteUse _ _) _) fun _ => .done _ _

theorem within_close (sessionId : String) : Within 1 (close sessionId) := by
  show Within (1 + 0) _
  exact .bind (.request (.removeSession _) _) fun _ => .ite (.done _ _) (.done _ _)

end SessionPolicy

namespace Service

variable (service : Service) (token : String)

theorem within_endByToken : Within 4 (service.endByToken token) := by
  show Within (3 + (1 + 0)) _
  refine .bind (service.sessions.within_accept token) fun claims => ?_
  exact .bind (SessionPolicy.within_close claims.sessionId) fun _ => .done _ _

theorem spares_endByToken {other : String} (elsewhere : ∀ claims,
      service.sessions.tokenKey.verify token = .ok claims → claims.sessionId ≠ other) :
    Only (Request.Spares other) (service.endByToken token) := by
  refine .bind_gives (service.sessions.spares_accept token elsewhere)
    (service.sessions.gives_accept token) fun claims verified => ?_
  exact .bind (SessionPolicy.spares_close (elsewhere claims verified)) fun _ => .pure _

theorem removesFirst_endByToken {claims : TokenClaims}
    (verified : service.sessions.tokenKey.verify token = .ok claims) :
    RemovesFirst claims.sessionId (fun _ => True) (service.endByToken token) := by
  refine .after (service.sessions.gives_accept token) fun other verifiedToo => ?_
  rw [verified] at verifiedToo
  cases verifiedToo
  exact (SessionPolicy.removesFirst_close claims.sessionId).bind fun _ no => absurd trivial no

end Service

/-! ### Requests to the gateway -/

namespace Gateway

variable (server : Server) (fresh : Fresh) {request : Gateway.Request}

/-- A request to end the session of its token is answered by what comes of that. -/
theorem respond_of_asksToRevoke (asks : request.AsksToRevoke) :
    respond server fresh request =
      (authorized request server.service.endByToken fun claims =>
        .ofJson 200 (SessionNotice.ended claims.sessionId).toJson) >>= pure := by
  obtain ⟨posts, path⟩ := asks
  simp only [respond, path, posts]
  rfl

/-- A refusal has no status of success. -/
theorem refusal_status (error : AuthError) : (refusal error).status ≠ 200 := by
  show statusOf error ≠ 200
  unfold statusOf
  split
  · decide
  · decide
  · split <;> decide

section Answered

variable {α : Type} {allowed : DeviceAuth.Request → Prop} {operation : Operation α}
  (respond : α → Response)

theorem only_answered (only : Only allowed operation) :
    Only allowed (answered operation respond) := by
  refine only.outcome.bind fun result => ?_
  rcases result with (error | _) | value <;> exact .pure _

theorem within_answered {bound : Nat} (within : Within bound operation) :
    Within bound (answered operation respond) := by
  show Within (bound + 0) _
  refine within.outcome.bind fun result => ?_
  rcases result with (error | _) | value <;> exact .done _ _

/-- An operation that fails is answered with another status. -/
theorem removesFirst_answered {sessionId : String}
    (removes : RemovesFirst sessionId (fun _ => True) operation) :
    RemovesFirst sessionId (fun response => response.status = 200)
      (answered operation respond) := by
  refine removes.outcome.bind fun result failed => ?_
  rcases result with (error | _) | value
  · exact .bad _ (refusal_status error)
  · exact .bad _ (refusal_status _)
  · exact absurd ⟨value, rfl, trivial⟩ failed

end Answered

end Gateway

namespace Job

variable {server : Gateway.Server} {job : Job} {sessionId other : String}

variable (server job) in
theorem opensNothing : Only (fun request => request.opened? = none) (job.operation server) := by
  have shortens : ∀ {α : Type} {operation : Operation α}, Only Request.Shortens operation →
      Only (fun request => request.opened? = none) operation :=
    fun only => only.mono fun _ => Request.Shortens.opensNothing
  cases job with
  | accept token => exact shortens (server.service.sessions.shortens_accept token)
  | extend token => exact server.service.sessions.opensNothing_extend token
  | close sessionId => exact shortens (SessionPolicy.shortens_close sessionId)
  | endByToken token => exact shortens (server.service.shortens_endByToken token)
  | revoke fresh request asks =>
    simp only [operation, Gateway.respond_of_asksToRevoke server fresh asks, Gateway.authorized]
    refine .bind ?_ fun _ => .pure _
    rcases Gateway.bearerToken request.headers with error | token
    · exact .pure _
    · exact Gateway.only_answered _ (shortens (server.service.shortens_endByToken token))

variable (server job) in
/-- A job makes four requests at most. -/
theorem within : Within 4 (job.operation server) := by
  cases job with
  | accept token => exact (server.service.sessions.within_accept token).mono (by decide)
  | extend token => exact server.service.sessions.within_extend token
  | close sessionId => exact (SessionPolicy.within_close sessionId).mono (by decide)
  | endByToken token => exact server.service.within_endByToken token
  | revoke fresh request asks =>
    simp only [operation, Gateway.respond_of_asksToRevoke server fresh asks, Gateway.authorized]
    show Within (4 + 0) _
    refine .bind ?_ fun _ => .done _ _
    rcases Gateway.bearerToken request.headers with error | token
    · exact .done _ _
    · exact Gateway.within_answered _ (server.service.within_endByToken token)

/-- A revocation spares every session but its own. -/
theorem spares (revocation : job.IsRevocation) (elsewhere : job.subject? server ≠ some other) :
    Only (Request.Spares other) (job.operation server) := by
  have verified : ∀ {token : String},
      (server.service.sessions.tokenKey.verify token).toOption.map TokenClaims.sessionId ≠
          some other → ∀ claims, server.service.sessions.tokenKey.verify token = .ok claims →
        claims.sessionId ≠ other := by
    rintro token elsewhere claims verified rfl
    rw [verified] at elsewhere
    exact elsewhere rfl
  cases job with
  | accept _ | extend _ => cases revocation
  | close sessionId => exact SessionPolicy.spares_close fun same => elsewhere (congrArg some same)
  | endByToken token => exact server.service.spares_endByToken token (verified elsewhere)
  | revoke fresh request asks =>
    simp only [operation, Gateway.respond_of_asksToRevoke server fresh asks, Gateway.authorized]
    refine .bind ?_ fun _ => .pure _
    rcases bears : Gateway.bearerToken request.headers with error | token
    · exact .pure _
    · rw [subject?, bears] at elsewhere
      exact Gateway.only_answered _ (server.service.spares_endByToken token (verified elsewhere))

theorem verified_of_subject {token : String}
    (subject : (server.service.sessions.tokenKey.verify token).toOption.map
      TokenClaims.sessionId = some sessionId) :
    ∃ claims, server.service.sessions.tokenKey.verify token = .ok claims ∧
      claims.sessionId = sessionId := by
  rcases verified : server.service.sessions.tokenKey.verify token with error | claims <;>
    rw [verified] at subject <;> cases subject
  exact ⟨claims, rfl, rfl⟩

/-- A revocation that succeeds has removed its session. -/
theorem removesFirst (revocation : job.IsRevocation)
    (subject : job.subject? server = some sessionId) :
    RemovesFirst sessionId job.Succeeds (job.operation server) := by
  cases job with
  | accept _ | extend _ => cases revocation
  | close _ =>
    cases subject
    exact SessionPolicy.removesFirst_close sessionId
  | endByToken token =>
    obtain ⟨claims, verified, rfl⟩ := verified_of_subject subject
    exact server.service.removesFirst_endByToken token verified
  | revoke fresh request asks =>
    simp only [operation, Gateway.respond_of_asksToRevoke server fresh asks, Gateway.authorized]
    rcases bears : Gateway.bearerToken request.headers with error | token <;>
      rw [subject?, bears] at subject
    · cases subject
    · obtain ⟨claims, verified, rfl⟩ := verified_of_subject subject
      have removes := Gateway.removesFirst_answered
        (fun claims => .ofJson 200 (SessionNotice.ended claims.sessionId).toJson)
        (server.service.removesFirst_endByToken token verified)
      exact removes.bind fun response other => .bad response other

/-- Whether a job extends its session. -/
def Extends : Job → Prop
  | extend _ => True
  | _ => False

theorem barred (use : job.IsUse) (subject : job.subject? server = some sessionId) :
    Barred sessionId (job.operation server) := by
  cases job with
  | accept token =>
    obtain ⟨claims, verified, rfl⟩ := verified_of_subject subject
    exact SessionPolicy.barred_accept verified
  | extend token =>
    obtain ⟨claims, verified, rfl⟩ := verified_of_subject subject
    exact SessionPolicy.barred_extend verified
  | close _ | endByToken _ | revoke _ _ _ => cases use

theorem visits (use : job.IsUse) (subject : job.subject? server = some sessionId) :
    Visits sessionId job.Extends (job.operation server) := by
  cases job with
  | accept token =>
    obtain ⟨claims, verified, rfl⟩ := verified_of_subject subject
    exact SessionPolicy.visits_accept verified
  | extend token =>
    obtain ⟨claims, verified, rfl⟩ := verified_of_subject subject
    exact SessionPolicy.visits_extend verified
  | close _ | endByToken _ | revoke _ _ _ => cases use

end Job

end DeviceAuth
