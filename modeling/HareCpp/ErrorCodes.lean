import Mathlib.Tactic

/-!
# Return codes

`HARE_ERROR_E` with its two tests, in the order of `ErrorCodes.hpp`.  Every
decision of the worker threads goes through these two tests: `noError` to go
on, `serverFailure` to give the connection up.  A code that is neither leaves
the connection alone.
-/

namespace HareCpp

/-- `HARE_ERROR_E`. -/
inductive HareError
  | allGood
  | invalidAmqpVersion
  | timeoutOccured
  | publishError
  | notInitialized
  | initializeFailure
  | invalidParameters
  | producerCreationFailed
  | consumerCreationFailed
  | threadAlreadyRunning
  | threadNotRunning
  | serverConnectionFailure
  | serverAuthenticationFailure
  | serverExceptionResponse
  | unableToSubscribe
  | producerQueueFull
  | unableToOpenChannel
  | unableToCloseChannel
  | channelException
  | noRpcReply
  deriving DecidableEq, Repr

/-- `noError`. -/
def noError (retCode : HareError) : Bool := decide (HareError.allGood = retCode)

/-- `serverFailure`. -/
def serverFailure (retCode : HareError) : Bool :=
  decide (retCode = .serverConnectionFailure) || decide (retCode = .serverExceptionResponse)

@[simp] theorem noError_eq_true (retCode : HareError) :
    noError retCode = true ↔ retCode = .allGood := by
  simp [noError, eq_comm]

@[simp] theorem noError_eq_false (retCode : HareError) :
    noError retCode = false ↔ retCode ≠ .allGood := by
  simp [noError, eq_comm]

/-- A server failure is never a success. -/
theorem ne_allGood_of_serverFailure {retCode : HareError} (h : serverFailure retCode = true) :
    retCode ≠ .allGood := by
  rintro rfl
  exact absurd h (by decide)

end HareCpp
