import CqlClient.Client

namespace CqlClient

namespace AttemptError

/-- Whether a failure is retryable, but no longer once it is the failure to open a connection. -/
def IsLostOnOpening (hasNext : Bool) : AttemptError → Prop
  | .notYetOpen => True
  | .connectionClosed => True
  | .noFreeStream => True
  | .database error _ => error.isRetryable hasNext = true
  | _ => False

theorem isLostOnOpening_iff (hasNext : Bool) (error : AttemptError) :
    error.IsLostOnOpening hasNext ↔
      error.isRetryable hasNext = true ∧ (ConnectionError.ofAttempt error).isRetryable = false := by
  cases error with
  | connection error =>
      cases error <;> simp [IsLostOnOpening, isRetryable, ConnectionError.ofAttempt]
  | _ => simp [IsLostOnOpening, isRetryable, ConnectionError.ofAttempt, ConnectionError.isRetryable]

end AttemptError

namespace RetryPolicy

theorem canRetry_fail (context : RetryContext) (error : AttemptError) :
    errorCodeAware.canRetry (context.fail error) = error.isRetryable context.hasNext :=
  rfl

theorem isRetryable_ofAttempt_iff (error : AttemptError) :
    (ConnectionError.ofAttempt error).isRetryable = true ↔
      (∃ reason, error = .broken reason) ∨
        ∃ inner, error = .connection inner ∧ inner.isRetryable = true := by
  cases error <;> simp [ConnectionError.ofAttempt, ConnectionError.isRetryable]

/-- After a failure to open a connection another attempt is allowed if the connection broke or could
not be had. All else that is retryable for a request is lost: a connection that is closed or not yet
open, the lack of a stream, and every error of the node. -/
theorem canRetry_opening_iff (context : RetryContext) (error : AttemptError) :
    (errorCodeAware.canRetry (context.fail (.connection (.ofAttempt error))) = true ↔
        (∃ reason, error = .broken reason) ∨
          ∃ inner, error = .connection inner ∧ inner.isRetryable = true) ∧
      ((errorCodeAware.canRetry (context.fail error) = true →
          errorCodeAware.canRetry (context.fail (.connection (.ofAttempt error))) = true) ↔
        ¬ error.IsLostOnOpening context.hasNext) := by
  refine ⟨isRetryable_ofAttempt_iff error, ?_⟩
  rw [canRetry_fail, canRetry_fail, AttemptError.isLostOnOpening_iff, not_and, Bool.not_eq_false]
  rfl

end RetryPolicy

namespace Client

/-- Nodes that have no room for any request. -/
def crowded : Network Unit where
  dial _ _ := return .accepted
  write _ _ := return { bytes := [0x82, 0, 0, 0, 0, 0, 0, 6, 0, 0, 0x10, 0x01, 0, 0] }
  hangUp _ := return ()

/-- A client with one open connection. -/
def connected : Client Unit where
  network := ()
  pending := { deadline := .ofSeconds 10 }
  connections := Assoc.empty.insert 0 {
    address := .ofOctets 10 0 0 1, config := {}, listens := false, createdAt := 0
    phase := .opened }

theorem request_crowded :
    ((Client.request crowded 0 .options).run connected).1 = .error (.database .overloaded "") := by
  have hfails : (match ((Client.request crowded 0 .options).run connected).1 with
      | .ok _ => false
      | .error error => decide (error = .database .overloaded "")) = true := by
    decide +kernel
  split at hfails
  · exact nomatch hfails
  · next error herror => rw [herror, of_decide_eq_true hfails]

end Client

namespace RetryPolicy

theorem not_canRetry_opening : ¬ ∀ (net : Network Unit) (client : Client Unit) (id : ConnectionId)
    (request : Request) (error : AttemptError),
    ((Client.request net id request).run client).1 = .error error →
      ∀ context : RetryContext, errorCodeAware.canRetry (context.fail error) = true →
        errorCodeAware.canRetry (context.fail (.connection (.ofAttempt error))) = true := by
  intro h
  have hcanRetry := h _ _ _ _ _ Client.request_crowded
    ⟨some (.ofOctets 10 0 0 1), some (.ofOctets 10 0 0 2), [], 0, none⟩ rfl
  exact nomatch hcanRetry

end RetryPolicy

end CqlClient
