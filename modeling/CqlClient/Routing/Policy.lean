import CqlClient.Consistency
import CqlClient.Placement.Replicas
import CqlClient.Routing.Rotation

namespace CqlClient

/-- What a routing policy may know about a request. -/
structure RoutingRequest where
  consistency : Consistency := .quorum
  keyspace : Option String := none
  /-- The serialized partition key. -/
  routingKey : Option Bytes := none
  deriving DecidableEq

/-- How the endpoints for a request are chosen. -/
inductive RoutingPolicy
  /-- All endpoints in turn. -/
  | rotating (rotation : Rotation)
  /-- A rotation for each datacenter, that of the home datacenter first. -/
  | datacenterAware (home : String) (rotations : Assoc String Rotation)
  /-- Replicas of the partition first, then as the child says. -/
  | tokenAware (child : RoutingPolicy)
  deriving DecidableEq

namespace RoutingPolicy

/-- A rotation over all endpoints, without any. -/
def roundRobin (seed : Nat) : RoutingPolicy :=
  .rotating (.ofEndpoints [] seed)

/-- A policy that prefers a datacenter, without endpoints. -/
def preferring (home : String) (seed : Nat) : RoutingPolicy :=
  .datacenterAware home (Assoc.empty.insert home (.ofEndpoints [] seed))

/-- Name of the policy. -/
def name : RoutingPolicy → String
  | .rotating _ => "RoundRobinPolicy"
  | .datacenterAware _ _ => "DcAwareRoundRobinPolicy"
  | .tokenAware child => "TokenAwarePolicy(" ++ child.name ++ ")"

/-- Whether a peer belongs to the part of the cluster that is preferred. -/
def isLocal : RoutingPolicy → Peer → Bool
  | .rotating _, _ => true
  | .datacenterAware home _, peer => peer.datacenter = some home
  | .tokenAware child, peer => child.isLocal peer

/-- Allow a peer to be chosen. A new rotation begins where the seed says. -/
def addEndpoint (seed : Nat) : RoutingPolicy → Peer → RoutingPolicy
  | .rotating rotation, peer => .rotating (rotation.add peer.address)
  | .datacenterAware home rotations, peer =>
      match peer.datacenter with
      | none => .datacenterAware home rotations
      | some datacenter =>
          let rotation := (rotations.get? datacenter).getD (.ofEndpoints [] seed)
          .datacenterAware home (rotations.insert datacenter (rotation.add peer.address))
  | .tokenAware child, peer => .tokenAware (child.addEndpoint seed peer)

/-- Change every value of a map. -/
def mapValues {κ α : Type} (change : α → α) (m : Assoc κ α) : Assoc κ α :=
  ⟨m.entries.map fun entry => (entry.1, change entry.2), by
    rw [List.map_map]
    exact m.nodup_keys⟩

/-- Stop choosing a peer, in whatever datacenter it was. -/
def removeEndpoint : RoutingPolicy → Peer → RoutingPolicy
  | .rotating rotation, peer => .rotating (rotation.remove peer.address)
  | .datacenterAware home rotations, peer =>
      .datacenterAware home (mapValues (·.remove peer.address) rotations)
  | .tokenAware child, peer => .tokenAware (child.removeEndpoint peer)

/-- Plan of a datacenter. -/
def planOf (rotations : Assoc String Rotation) (datacenter : String) : List IpAddress :=
  ((rotations.get? datacenter).map Rotation.plan).getD []

/-- The datacenters other than the home datacenter, in the order of their names. -/
def otherDatacenters (home : String) (rotations : Assoc String Rotation) : List String :=
  (rotations.keys.filter (· ≠ home)).mergeSort fun a b => !decide (b < a)

/-- The natural replicas of a request's partition that are up and local; `none` if the request does
not tell the partition or its replicas are unknown. -/
def localReplicas? (child : RoutingPolicy) (request : RoutingRequest) (s : Snapshot) :
    Option (List IpAddress) := do
  let keyspace ← request.keyspace
  let key ← request.routingKey
  let replicas := s.replicas keyspace (s.partitioner.token key)
  if replicas.isEmpty then none
  else
    return replicas.filter fun endpoint =>
      match s.peer? endpoint with
      | some peer => peer.isUp && child.isLocal peer
      | none => false

/-- The endpoints to try for a request, best first. -/
def plan : RoutingPolicy → RoutingRequest → Snapshot → List IpAddress
  | .rotating rotation, _, _ => rotation.plan
  | .datacenterAware home rotations, _, _ =>
      planOf rotations home ++ (otherDatacenters home rotations).flatMap (planOf rotations)
  | .tokenAware child, request, s =>
      let others := child.plan request s
      match child.localReplicas? request s with
      | some replicas => replicas ++ others.filter fun endpoint => endpoint ∉ replicas
      | none => others

/-- The policy after a plan was made. -/
def afterPlan : RoutingPolicy → RoutingPolicy
  | .rotating rotation => .rotating rotation.next
  | .datacenterAware home rotations => .datacenterAware home (mapValues Rotation.next rotations)
  | .tokenAware child => .tokenAware child.afterPlan

/-- Endpoints of the rotation inside, if there is a single one. -/
def endpoints? : RoutingPolicy → Option (List IpAddress)
  | .rotating rotation => some rotation.endpoints
  | .datacenterAware _ _ => none
  | .tokenAware child => child.endpoints?

/-- The preferred datacenter, if there is one. -/
def home? : RoutingPolicy → Option String
  | .rotating _ => none
  | .datacenterAware home _ => some home
  | .tokenAware child => child.home?

end RoutingPolicy

end CqlClient
