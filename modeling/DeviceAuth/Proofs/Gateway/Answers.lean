import DeviceAuth.Gateway.Router
import DeviceAuth.Proofs.Auth.Requests

/-!
**What a client is told.** The answer to an operation depends on its result alone, and of a failure
it shows no more than the failure's kind: whatever is the fault of the request is told apart only
where a device is locked out or a license is missing.

* `run_answered`: the answer to an operation is what is `told` of its result.
* `refusal_eq_denial`: every failure with the status 401 is answered with the one `denial`.
-/

namespace DeviceAuth

/-- A result as a value is the result. -/
theorem Operation.run_outcome {α σ : Type} [RecordStore σ] (operation : Operation α)
    (state : State σ) :
    operation.outcome.run state = (.ok (operation.run state).1, (operation.run state).2) := by
  induction operation generalizing state with
  | done result => rfl
  | ask request next ih => exact ih _ _

namespace Gateway

/-- What a client is told of a failure. -/
def refusalOf : Failure → Response
  | .refused error => refusal error
  | .overflow => refusal (.internal "the call was abandoned")

/-- What a client is told of a result. -/
def told {α : Type} (respond : α → Response) : Except Failure α → Response
  | .ok value => respond value
  | .error failure => refusalOf failure

/-- An operation is answered with what is told of its result. -/
theorem run_answered {α σ : Type} [RecordStore σ] (operation : Operation α)
    (respond : α → Response) (state : State σ) :
    (answered operation respond).run state =
      (.ok (told respond (operation.run state).1), (operation.run state).2) := by
  simp only [answered, Operation.run_bind, Operation.run_outcome]
  rcases (operation.run state).1 with (error | _) | value <;> rfl

/-- What is told of every failure with the status 401. -/
def denial : Response :=
  .ofJson 401 (Json.ofMembers [
    ("success", .boolean false),
    ("message", Json.ofText "authentication failed")])

/-- What is held against a device has the status 401. -/
theorem statusOf_of_countsAgainstDevice {error : AuthError}
    (counts : error.countsAgainstDevice = true) : statusOf error = 401 := by
  cases error <;> first | rfl | cases counts

/-- A failure with the status 401 is no fault of the server. -/
theorem not_isServerFault_of_statusOf {error : AuthError} (status : statusOf error = 401) :
    error.isServerFault = false := by
  cases error <;> first | rfl | cases status

/-- **All failures with the status 401 are answered alike.** -/
theorem refusal_eq_denial {error : AuthError} (status : statusOf error = 401) :
    refusal error = denial := by
  simp only [refusal, status, AuthError.publicMessage, not_isServerFault_of_statusOf status,
    Bool.false_eq_true, if_false]
  rfl

end Gateway

end DeviceAuth
