import CqlClient.Address

namespace CqlClient

/-- Endpoints used in turn: each plan starts one endpoint further. -/
structure Rotation where
  endpoints : List IpAddress
  /-- Number of the next plan; it wraps around. -/
  counter : UInt64
  deriving DecidableEq

namespace Rotation

/-- First counters are spread below this number, so that rotations made at the same time start
apart. -/
def seedRange : Nat := 997

/-- A rotation of given endpoints. -/
def ofEndpoints (endpoints : List IpAddress) (seed : Nat) : Rotation :=
  ⟨endpoints, UInt64.ofNat (seed % seedRange)⟩

/-- The endpoints, beginning at the place that the counter points to. -/
def plan (rotation : Rotation) : List IpAddress :=
  let size := rotation.endpoints.length
  (List.range size).filterMap fun offset =>
    rotation.endpoints[(rotation.counter + UInt64.ofNat offset).toNat % size]?

/-- The rotation for the next plan. -/
def next (rotation : Rotation) : Rotation :=
  { rotation with counter := rotation.counter + 1 }

/-- The rotation with an endpoint, at the end if it is new. -/
def add (rotation : Rotation) (endpoint : IpAddress) : Rotation :=
  if endpoint ∈ rotation.endpoints then rotation
  else { rotation with endpoints := rotation.endpoints ++ [endpoint] }

/-- The rotation without an endpoint. -/
def remove (rotation : Rotation) (endpoint : IpAddress) : Rotation :=
  { rotation with endpoints := rotation.endpoints.filter (· ≠ endpoint) }

end Rotation

end CqlClient
