import CqlClient.Failure.Attempt

namespace CqlClient

/-- How far a request got with its candidates, and how often it failed. -/
structure RetryContext where
  /-- Endpoint of the next attempt; `none` once the candidates ran out. -/
  current : Option IpAddress
  /-- The candidate after the current one. -/
  lookahead : Option IpAddress
  /-- The candidates after these two. -/
  remaining : List IpAddress
  /-- Number of failures. -/
  failures : Nat
  lastError : Option AttemptError
  deriving DecidableEq

namespace RetryContext

/-- The context of a request that was not tried yet; `none` if there is no candidate. -/
def start? : List IpAddress → Option RetryContext
  | [] => none
  | current :: rest => some ⟨current, rest.head?, rest.tail, 0, none⟩

/-- Move on to the next candidate. At the end nothing changes any more. -/
def next (c : RetryContext) : RetryContext :=
  match c.lookahead with
  | none => { c with current := none, lookahead := none }
  | some endpoint =>
      { c with
        current := some endpoint
        lookahead := c.remaining.head?
        remaining := c.remaining.tail }

/-- Whether a candidate remains after the current one. -/
def hasNext (c : RetryContext) : Bool := c.lookahead.isSome

/-- Record a failure. -/
def fail (c : RetryContext) (error : AttemptError) : RetryContext :=
  { c with failures := c.failures + 1, lastError := some error }

end RetryContext

end CqlClient
