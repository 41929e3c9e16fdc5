import CqlClient.Retry.Context

namespace CqlClient

/-- How much a policy that logs its decisions says. -/
inductive LogLevel
  | trace
  | debug
  | info
  | warn
  | error
  deriving DecidableEq, Repr

/-- Decides whether a failed request is tried again. -/
inductive RetryPolicy
  /-- Never. -/
  | never
  /-- After failures for which another attempt can succeed. -/
  | errorCodeAware
  /-- A limited number of times. -/
  | maxRetries (inner : RetryPolicy) (limit : Nat)
  /-- As the inner policy says, which is logged. -/
  | logging (inner : RetryPolicy) (level : LogLevel)
  deriving DecidableEq, Repr

/-- Whether another attempt can succeed after an error of a node. Another node is needed if this
one has no room. -/
def DatabaseError.isRetryable (hasNext : Bool) : DatabaseError → Bool
  | .writeTimeout _ _ _ writeType => writeType = .batchLog
  | .readTimeout _ received required dataPresent => required ≤ received && !dataPresent
  | .overloaded => hasNext
  | .isBootstrapping => hasNext
  | .unprepared _ => true
  | _ => false

/-- Whether another attempt can succeed after a failure to connect. -/
def ConnectionError.isRetryable : ConnectionError → Bool
  | .io _ => true
  | .connectTimeout _ => true
  | .setupTimeout _ => true
  | .broken _ => true
  | .closed => true
  | _ => false

/-- Whether another attempt can succeed after a failed one. -/
def AttemptError.isRetryable (hasNext : Bool) : AttemptError → Bool
  | .connection error => error.isRetryable
  | .broken _ => true
  | .connectionClosed => true
  | .notYetOpen => true
  | .noFreeStream => true
  | .database error _ => error.isRetryable hasNext
  | _ => false

namespace RetryPolicy

/-- Retries allowed when no other limit is given. -/
def defaultLimit : Nat := 5

/-- The policy used unless another one is configured. -/
def standard : RetryPolicy := .maxRetries .errorCodeAware defaultLimit

/-- Whether another attempt is allowed. -/
def canRetry : RetryPolicy → RetryContext → Bool
  | .never, _ => false
  | .errorCodeAware, c =>
      match c.lastError with
      | none => true
      | some error => error.isRetryable c.hasNext
  | .maxRetries inner limit, c => c.failures ≤ limit && inner.canRetry c
  | .logging inner _, c => inner.canRetry c

end RetryPolicy

end CqlClient
