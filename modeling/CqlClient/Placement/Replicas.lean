import CqlClient.Topology.Snapshot

namespace CqlClient

/-- The first `count` distinct endpoints. -/
def firstDistinct (count : Nat) (endpoints : List IpAddress) : List IpAddress :=
  endpoints.eraseDups.take count

/-- Replicas taken so far from a datacenter. -/
structure Quota where
  wanted : Nat
  found : Nat
  rackCount : Nat
  /-- Racks that hold a replica. -/
  seenRacks : List String
  /-- Nodes passed over because their rack held a replica already, while another rack had none. -/
  skipped : List IpAddress
  deriving DecidableEq

namespace Quota

/-- Whether the datacenter has the replicas that it should have. -/
def isMet (quota : Quota) : Bool := quota.wanted ≤ quota.found

/-- What is wanted of a datacenter: as many replicas as configured, or else all its nodes. -/
def ofDatacenter (s : Snapshot) (datacenter : String) (factor : Nat) : Quota :=
  { wanted := min factor (s.datacenterEndpoints datacenter).length
    found := 0
    rackCount := s.rackCount datacenter
    seenRacks := []
    skipped := [] }

/-- Offer a node of a rack. A node of a new rack is taken; when that was the last new rack, the nodes
passed over come next. A node of a rack seen before is passed over while some rack is new. Gives
the nodes taken. -/
def offer (quota : Quota) (rack : String) (endpoint : IpAddress) : Quota × List IpAddress :=
  if quota.seenRacks.length = quota.rackCount then
    ({ quota with found := quota.found + 1 }, [endpoint])
  else if rack ∈ quota.seenRacks then
    if endpoint ∈ quota.skipped then (quota, [])
    else ({ quota with skipped := quota.skipped ++ [endpoint] }, [])
  else
    let seenRacks := quota.seenRacks ++ [rack]
    let found := quota.found + 1
    if seenRacks.length = quota.rackCount then
      let released := quota.skipped.take (quota.wanted - found)
      ({ quota with found := found + released.length, seenRacks, skipped := [] },
        endpoint :: released)
    else ({ quota with found, seenRacks }, [endpoint])

end Quota

/-- Replicas taken so far, with a quota for each datacenter. -/
structure Spread where
  quotas : Assoc String Quota
  /-- Number of quotas that are not met. -/
  unmet : Nat
  replicas : List IpAddress
  deriving DecidableEq

namespace Spread

/-- Nothing is taken yet. -/
def start (s : Snapshot) (factors : Assoc String Nat) : Spread :=
  let quotas := factors.entries.map fun entry =>
    (entry.1, Quota.ofDatacenter s entry.1 entry.2)
  { quotas := Assoc.ofList quotas
    unmet := (quotas.filter fun entry => !entry.2.isMet).length
    replicas := [] }

/-- Meet a node on the ring. Nothing is taken once all quotas are met. -/
def step (s : Snapshot) (spread : Spread) (endpoint : IpAddress) : Spread :=
  if spread.unmet = 0 ∨ endpoint ∈ spread.replicas then spread
  else
    match s.peer? endpoint with
    | none => spread
    | some peer =>
        match peer.datacenter with
        | none => spread
        | some datacenter =>
            match spread.quotas.get? datacenter with
            | none => spread
            | some quota =>
                if quota.isMet then spread
                else
                  let (quota, taken) := quota.offer peer.rackName endpoint
                  { quotas := spread.quotas.insert datacenter quota
                    unmet := if quota.isMet then spread.unmet - 1 else spread.unmet
                    replicas := spread.replicas ++ taken }

end Spread

/-- Replicas by datacenter, spread over the racks of each. -/
def spreadReplicas (s : Snapshot) (factors : Assoc String Nat) (walk : List IpAddress) :
    List IpAddress :=
  (walk.foldl (Spread.step s) (Spread.start s factors)).replicas

/-- Datacenter and rack of a node; an unknown node has neither. -/
def Snapshot.placement (s : Snapshot) (endpoint : IpAddress) : Option String × String :=
  match s.peer? endpoint with
  | some peer => (peer.datacenter, peer.rackName)
  | none => (none, "")

/-- Replicas taken so far besides the owner, by where they are. -/
structure Across where
  replicas : List IpAddress
  hasOtherDatacenter : Bool
  hasOtherRack : Bool
  deriving DecidableEq

/-- Meet a node on the ring. One node of a datacenter other than the owner's is taken, and one node
of another rack of the owner's datacenter. -/
def Across.step (s : Snapshot) (count : Nat) (home : Option String × String) (across : Across)
    (endpoint : IpAddress) : Across :=
  if count ≤ across.replicas.length then across
  else
    let (datacenter, rack) := s.placement endpoint
    if datacenter ≠ home.1 then
      if across.hasOtherDatacenter then across
      else { across with replicas := across.replicas ++ [endpoint], hasOtherDatacenter := true }
    else if rack ≠ home.2 ∧ !across.hasOtherRack then
      { across with replicas := across.replicas ++ [endpoint], hasOtherRack := true }
    else across

/-- Fill up with the nodes met that are not taken yet. -/
def fillUp (count : Nat) (replicas walk : List IpAddress) : List IpAddress :=
  walk.foldl (fun replicas endpoint =>
    if count ≤ replicas.length ∨ endpoint ∈ replicas then replicas
    else replicas ++ [endpoint]) replicas

/-- The owner, a node of another datacenter and a node of another rack, in the order met, then the
next nodes. -/
def acrossReplicas (s : Snapshot) (count : Nat) (walk : List IpAddress) : List IpAddress :=
  if count = 0 then []
  else
    match walk with
    | [] => []
    | owner :: rest =>
        let across := rest.foldl (Across.step s count (s.placement owner)) ⟨[owner], false, false⟩
        fillUp count across.replicas walk

namespace Strategy

/-- The natural replicas of a token, in the order in which they are preferred. -/
def replicas (strategy : Strategy) (s : Snapshot) (token : Token) : List IpAddress :=
  let walk := s.ring.owners token
  match strategy with
  | .simple count => firstDistinct count walk
  | .single => firstDistinct 1 walk
  | .perDatacenter factors => spreadReplicas s factors walk
  | .acrossDatacenters count => acrossReplicas s count walk
  | .other _ _ => []

end Strategy

/-- The natural replicas of a token in a keyspace; none if the keyspace is unknown. -/
def Snapshot.replicas (s : Snapshot) (keyspace : String) (token : Token) : List IpAddress :=
  match s.keyspace? keyspace with
  | some keyspace => keyspace.strategy.replicas s token
  | none => []

end CqlClient
