/-
Module: CodaNode.Server.Outcome
Layer: Server
Purpose: What a job ends in: the exceptions the consumer distinguishes, the result of an executor, and
  the payload of a webhook.
Imports: CodaNode.Server.Ir
Main exports: Exc, ExecutionResult, WebhookPayload
-/
import CodaNode.Server.Ir

namespace CodaNode

/-- The exception classes some `except` clause of the consumer tells apart. `connectionError` stands
for `ConnectionError`, `OSError` and `redis.asyncio.ConnectionError`, which are always named
together. `cancelledError` is `asyncio.CancelledError`, the only class here that is not an
`Exception`. -/
inductive ExcKind where
  | cancelledError
  | connectionError
  | responseError
  | jobCancelled
  | keyError
  | valueError
  | unicodeDecodeError
  | validationError
  | overflowError
  | other
deriving Repr, DecidableEq

/-- An exception: its class and its text `str(exc)`. -/
structure Exc where
  kind : ExcKind
  text : String := ""
deriving Repr, DecidableEq

namespace Exc

/-- Caught by `except (ConnectionError, OSError, aioredis.ConnectionError)`. -/
def isConnection (exception : Exc) : Bool := exception.kind = .connectionError

/-- Caught by `except Exception`. -/
def isException (exception : Exc) : Bool := exception.kind ≠ .cancelledError

/-- What code outside the consumer can raise: `_JobCancelledWhileExecuting` is private to it. -/
def isForeign (exception : Exc) : Bool := exception.kind ≠ .jobCancelled

/-- An `Exception` that code outside the consumer can raise. -/
def isOrdinary (exception : Exc) : Bool := exception.isException && exception.isForeign

/-- An outcome that is a value or an `Exception`. -/
def regular {α : Type} : Except Exc α → Bool
  | .ok _ => true
  | .error exception => exception.isException

/-- An outcome of code outside the consumer. -/
def foreign {α : Type} : Except Exc α → Bool
  | .ok _ => true
  | .error exception => exception.isForeign

theorem isException_of_isConnection {exception : Exc} (connection : exception.isConnection = true) :
    exception.isException = true := by
  simp only [isConnection, isException, decide_eq_true_eq] at connection ⊢
  simp [connection]

theorem isForeign_of_isConnection {exception : Exc} (connection : exception.isConnection = true) :
    exception.isForeign = true := by
  simp only [isConnection, isForeign, decide_eq_true_eq] at connection ⊢
  simp [connection]

theorem isException_of_isOrdinary {exception : Exc} (ordinary : exception.isOrdinary = true) :
    exception.isException = true := by
  simp only [isOrdinary, Bool.and_eq_true] at ordinary
  exact ordinary.1

theorem isOrdinary_of_isConnection {exception : Exc} (connection : exception.isConnection = true) :
    exception.isOrdinary = true := by
  rw [isOrdinary, isException_of_isConnection connection, isForeign_of_isConnection connection]
  rfl

end Exc

instance (priority := 2000) exceptDecidableEq {ε α : Type} [DecidableEq ε] [DecidableEq α] : DecidableEq (Except ε α)
  | .ok left, .ok right => decidable_of_iff (left = right) (by rw [Except.ok.injEq])
  | .error left, .error right => decidable_of_iff (left = right) (by rw [Except.error.injEq])
  | .ok _, .error _ | .error _, .ok _ => isFalse (by rintro ⟨⟩)

/-- The outcome of one execution. [SRC executor.py:43-57] -/
structure ExecutionResult where
  counts : List (String × Int)
  executionTimeMs : PyFloat
  shotsCompleted : Int
deriving Repr, DecidableEq

/-- The `status` of a webhook. -/
inductive WebhookStatus where
  | completed
  | failed
deriving Repr, DecidableEq

/-- The body of a webhook. [SRC webhook.py:33-62] -/
structure WebhookPayload where
  jobId : String
  status : WebhookStatus
  counts : Option (List (String × Int)) := none
  executionTimeMs : Option PyFloat := none
  shotsCompleted : Option Int := none
  error : Option String := none
deriving Repr, DecidableEq

/-- The payload both dispatch paths build from a result. -/
def WebhookPayload.ofResult (jobId : String) (result : ExecutionResult) : WebhookPayload where
  jobId := jobId
  status := .completed
  counts := some result.counts
  executionTimeMs := some result.executionTimeMs
  shotsCompleted := some result.shotsCompleted

/-- The payload `send_error` builds. [SRC webhook.py:147-152] -/
def WebhookPayload.ofError (jobId error : String) : WebhookPayload where
  jobId := jobId
  status := .failed
  error := some error

end CodaNode
