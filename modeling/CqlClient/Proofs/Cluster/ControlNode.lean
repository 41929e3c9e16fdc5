import CqlClient.Proofs.Cluster.Failover
import CqlClient.Proofs.Cluster.Following
import CqlClient.Proofs.Cluster.Refresh
import CqlClient.Proofs.Routing.Eligibility
import CqlClient.Proofs.Wire.Accepted

namespace CqlClient

/-- Whether tables were read from the node at an address, which tells of itself first, as up, and
not again among its peers. -/
def ClusterMetadata.IsFrom (metadata : ClusterMetadata) (address : IpAddress) : Prop :=
  ∃ node others, metadata.peers = node :: others ∧ node.address = address ∧ node.isUp = true ∧
    ∀ peer ∈ others, peer.address ≠ address

namespace SystemTable

theorem isFrom_assemble {node : LocalNode} {address : IpAddress}
    (haddress : node.peer.address = address) (hup : node.peer.isUp = true) (peers : List Peer)
    (keyspaces : List Keyspace) (tables : List (String × String)) :
    (assemble node peers keyspaces tables).IsFrom address := by
  refine ⟨node.peer, _, rfl, haddress, hup, fun peer hpeer => ?_⟩
  rw [← haddress]
  exact of_decide_eq_true (List.mem_filter.mp hpeer).2

theorem readLocal_eq_ok {contents : Contents} {address : IpAddress} {node : LocalNode}
    (h : readLocal contents address = .ok node) :
    node.peer.address = address ∧ node.peer.isUp = true := by
  rw [readLocal] at h
  split at h
  · exact nomatch h
  · obtain ⟨className, -, h⟩ := Except.exists_of_bind_eq_ok h
    split at h
    · exact nomatch h
    · obtain ⟨texts, -, h⟩ := Except.exists_of_bind_eq_ok h
      obtain ⟨datacenter, -, h⟩ := Except.exists_of_bind_eq_ok h
      obtain ⟨rack, -, h⟩ := Except.exists_of_bind_eq_ok h
      obtain ⟨hostId, -, h⟩ := Except.exists_of_bind_eq_ok h
      obtain ⟨schemaVersion, -, h⟩ := Except.exists_of_bind_eq_ok h
      obtain ⟨releaseVersion, -, h⟩ := Except.exists_of_bind_eq_ok h
      obtain ⟨tokens, -, h⟩ := Except.exists_of_bind_eq_ok h
      obtain ⟨clusterName, -, h⟩ := Except.exists_of_bind_eq_ok h
      obtain ⟨⟩ := h
      exact ⟨rfl, rfl⟩

variable {σ α β : Type} {nodes later : σ}

theorem exists_of_exceptT {first : StateM σ (Except MetadataError β)}
    {next : β → ExceptT MetadataError (StateM σ) α} {a : α}
    (h : (ExceptT.mk first >>= next).run.run nodes = (.ok a, later)) :
    ∃ b between, first.run nodes = (.ok b, between) ∧
      (next b).run.run between = (.ok a, later) := by
  have hrun : (ExceptT.mk first >>= next).run = first >>= ExceptT.bindCont next := rfl
  rw [hrun, StateT.run_bind] at h
  rcases hfirst : first.run nodes with ⟨e | b, between⟩
  · rw [hfirst] at h
    exact nomatch h
  · rw [hfirst] at h
    exact ⟨b, between, rfl, h⟩

theorem exists_of_queryAnd {ask : Asking σ} {table contents : String}
    {read : Contents → Except MetadataError α} {a : α}
    (h : (queryAnd ask table contents read).run nodes = (.ok a, later)) :
    ∃ rows, read rows = .ok a := by
  rw [queryAnd, StateT.run_bind] at h
  obtain ⟨rows, -, hread⟩ := Except.exists_of_bind_eq_ok (congrArg Prod.fst h)
  exact ⟨rows, hread⟩

theorem isFrom_of_queryAll {ask : Asking σ} {address : IpAddress} {metadata : ClusterMetadata}
    (h : (queryAll ask address).run nodes = (.ok metadata, later)) : metadata.IsFrom address := by
  obtain ⟨node, _, hlocal, hnode⟩ := exists_of_exceptT h
  obtain ⟨peers, _, -, hpeers⟩ := exists_of_exceptT hnode
  obtain ⟨keyspaces, _, -, hkeyspaces⟩ := exists_of_exceptT hpeers
  obtain ⟨tables, _, -, htables⟩ := exists_of_exceptT hkeyspaces
  obtain ⟨⟩ := htables
  obtain ⟨contents, hread⟩ := exists_of_queryAnd hlocal
  obtain ⟨haddress, hup⟩ := readLocal_eq_ok hread
  exact isFrom_assemble haddress hup peers keyspaces tables

end SystemTable

namespace Client

variable {σ : Type}

theorem isFrom_of_readAll {net : Network σ} {config : ClusterConfig} {id : ConnectionId}
    {address : IpAddress} {metadata : ClusterMetadata} {c later : Client σ}
    (h : ((clusterAccess net config).readAll id address).run c = (.ok metadata, later)) :
    metadata.IsFrom address :=
  SystemTable.isFrom_of_queryAll ((run_within_eq_iff (by simp)).mp h).1

theorem unreachable_subset (net : Network σ) (config : ClusterConfig)
    (addresses : List IpAddress) (c : Client σ) :
    ((unreachable net config addresses).run c).1 ⊆ addresses := by
  intro address hmem
  rw [unreachable, StateT.run_bind] at hmem
  obtain ⟨pair, hpair, rfl⟩ := List.mem_map.mp hmem
  exact (List.of_mem_zip (List.mem_filter.mp hpair).1).1

end Client

namespace ClusterView

open RoutingPolicy (IsKept Covers isKept_covers)

variable {v : ClusterView} {metadata : ClusterMetadata} {address : IpAddress}

theorem peer?_foldl_takePeer {peers : List Peer} (h : ∀ peer ∈ peers, peer.address ≠ address)
    (v : ClusterView) :
    (peers.foldl (fun v peer => (v.takePeer peer).1) v).snapshot.peer? address =
      v.snapshot.peer? address :=
  List.foldlRecOn (motive := fun w : ClusterView =>
    w.snapshot.peer? address = v.snapshot.peer? address) _ _ rfl fun w hw peer hpeer => by
      rw [peer?_takePeer, if_neg (h peer hpeer).symm, hw]

theorem exists_peer?_applyMetadata (h : metadata.IsFrom address) (v : ClusterView) :
    ∃ peer, (v.applyMetadata metadata).1.snapshot.peer? address = some peer ∧
      peer.isUp = ((v.snapshot.peer? address).map Peer.isUp).getD true := by
  obtain ⟨node, others, hpeers, rfl, hup, hothers⟩ := h
  refine ⟨Snapshot.keepStatus (v.snapshot.peer? node.address) node, ?_, ?_⟩
  · have hlisted : node.address ∈ metadata.peers.map Peer.address := by simp [hpeers]
    rw [applyMetadata, Snapshot.peer?, peers_takeKeyspaces]
    change (takePeers _ metadata.peers).1.snapshot.peer? node.address = _
    rw [takePeers, forEach_fst, forEach_fst]
    -- Only peers that are not listed leave.
    refine (get_foldl_remove (fun w : ClusterView => w.snapshot.peer?)
      (fun w key other => w.snapshot.peer?_removePeer key other) _ _ node.address).trans ?_
    have hkept (keys : List IpAddress) :
        node.address ∉ keys.filter fun other => other ∉ metadata.peers.map Peer.address := by
      simp only [List.mem_filter, hlisted, not_true, decide_false, Bool.false_eq_true, and_false,
        not_false_eq_true]
    rw [if_neg (hkept _), hpeers, List.foldl_cons, peer?_foldl_takePeer hothers, peer?_takePeer,
      if_pos rfl]
    rfl
  · rw [← hup]
    rfl

theorem peer?_markAllDown {addresses : List IpAddress} (h : address ∉ addresses)
    (v : ClusterView) :
    (Worker.markAllDown v addresses).1.snapshot.peer? address = v.snapshot.peer? address := by
  rw [Worker.markAllDown, forEach_fst]
  refine List.foldlRecOn (motive := fun w : ClusterView =>
    w.snapshot.peer? address = v.snapshot.peer? address) _ _ rfl fun w hw down hdown => ?_
  refine (w.snapshot.peer?_setStatus down address false).trans ?_
  rw [if_neg (fun heq : address = down => h (heq ▸ hdown)), hw]

/-- Whether a node is marked up in the directory and eligible: the policy chooses between it and
others, and it is in the plan of every request. -/
structure Favours (v : ClusterView) (address : IpAddress) : Prop where
  isUp : ∃ peer, v.snapshot.peer? address = some peer ∧ peer.isUp = true
  offered : v.routing.Offers address
  planned : v.routing.CountersFit → ∀ request, address ∈ v.plan request

/-- Whether a node is in the directory with a given status. One that is up is eligible if the policy
can choose it at all. -/
def Knows (v : ClusterView) (address : IpAddress) (isUp : Bool) : Prop :=
  ∃ peer, v.snapshot.peer? address = some peer ∧ peer.isUp = isUp ∧
    (isUp = true → v.routing.Serves peer → v.Favours address)

theorem Relates.knows (h : v.Relates Covers) {peer : Peer}
    (hpeer : v.snapshot.peer? address = some peer) : v.Knows address peer.isUp := by
  refine ⟨peer, hpeer, rfl, fun hup hserves => ?_⟩
  have hoffers := h.related address peer (Snapshot.up?_eq_some_iff.mpr ⟨hpeer, hup⟩) hserves
  exact ⟨⟨peer, hpeer, hup⟩, hoffers, fun hfits request => hoffers.mem_plan hfits request _⟩

theorem Relates.knows_applyMetadata (h : v.Relates Covers) (hfrom : metadata.IsFrom address) :
    (v.applyMetadata metadata).1.Knows address
      (((v.snapshot.peer? address).map Peer.isUp).getD true) := by
  obtain ⟨peer, hpeer, hup⟩ := exists_peer?_applyMetadata hfrom v
  rw [← hup]
  exact (h.applyMetadata isKept_covers metadata).knows hpeer

theorem Knows.markAllDown (h : v.Relates Covers) {isUp : Bool} (hknows : v.Knows address isUp)
    {addresses : List IpAddress} (hnew : address ∉ addresses) :
    (Worker.markAllDown v addresses).1.Knows address isUp := by
  obtain ⟨peer, hpeer, rfl, -⟩ := hknows
  exact (h.markAllDown isKept_covers addresses).knows ((peer?_markAllDown hnew v).trans hpeer)

theorem Relates.afterPlan (h : v.Relates Covers) : v.afterPlan.Relates Covers :=
  ⟨h.indexed, RoutingPolicy.Covers.afterPlan h.related⟩

end ClusterView

namespace Worker

open RoutingPolicy (Covers isKept_covers)

variable {σ κ : Type} {access : ClusterAccess σ κ} {config : ClusterConfig} {w : Worker κ}

/-- How a worker can come to be: a cluster is found, inputs arrive, and plans are made for requests,
whatever happens to the nodes meanwhile. -/
inductive IsReached (access : ClusterAccess σ κ) (config : ClusterConfig) : Worker κ → Prop
  | discover {firstCounter : String → Nat} {w : Worker κ} {met : List Announcement}
      {nodes later : σ}
      (found : (discover access config firstCounter).run nodes = (.ok (w, met), later)) :
      IsReached access config w
  | step {w : Worker κ} (h : IsReached access config w) (input : WorkerInput) (nodes : σ) :
      IsReached access config ((w.step access config.seeds input).run nodes).1.1
  | plan {w : Worker κ} (h : IsReached access config w) :
      IsReached access config { w with view := w.view.afterPlan }

theorem IsReached.relates (h : IsReached access config w) : w.view.Relates Covers := by
  induction h with
  | discover found => exact relates_discover isKept_covers config.routing.covers_none found
  | step h input nodes ih => exact relates_step isKept_covers ih access config.seeds input nodes
  | plan h ih => exact ih.afterPlan

theorem isReached_of_found? {nodes later : σ} (h : (w, later) ∈ found? access config nodes) :
    IsReached access config w := by
  obtain ⟨met, hfound⟩ := exists_of_found? h
  exact .discover hfound

section Control

open Client

theorem isFrom_of_registers {net : Network σ} {candidates : List IpAddress} {address : IpAddress}
    {metadata : ClusterMetadata} {id : ConnectionId} {c read : Client σ}
    (h : Registers (clusterAccess net config) candidates c address metadata id read) :
    metadata.IsFrom address := by
  obtain ⟨-, reads⟩ := h
  exact isFrom_of_readAll reads

/-- When a control connection was registered and everything was read through it, its node is in the
directory. It is up and eligible, unless it was known and marked down before; then it keeps this
status. When a cluster is found nothing was known before, so its node is up. -/
theorem knows_control (net : Network σ) (config : ClusterConfig) :
    let access := clusterAccess net config
    (∀ firstCounter w met c later,
      (discover access config firstCounter).run c = (.ok (w, met), later) →
        ∃ address id metadata read down,
          Registers access config.seeds c address metadata id read ∧
          w.control = some (address, id) ∧
            let seen := (({ routing := config.routing, firstCounter } :
              ClusterView).applyMetadata metadata).1
            w.view = (markAllDown seen down).1 ∧ seen.Knows address true ∧
              w.view.Knows address true) ∧
      ∀ w, IsReached access config w → w.control.isSome → ∀ c address metadata id read,
        Registers access (ControlConnection.candidates config.seeds w.view.snapshot) c address
            metadata id read →
          let after := ((w.step access config.seeds .controlLost).run c).1.1
          after.control = some (address, id) ∧ after.view = (w.view.applyMetadata metadata).1 ∧
            after.view.Knows address
              (((w.view.snapshot.peer? address).map Peer.isUp).getD true) := by
  intro access
  refine ⟨fun firstCounter w met c later hfound => ?_,
    fun w hw hcontrol c address metadata id read hregisters => ?_⟩
  · obtain ⟨address, id, metadata, read, hregisters, rfl⟩ := exists_of_discover hfound
    have hempty := ClusterView.relates_empty config.routing.covers_none firstCounter
    have hseen := hempty.knows_applyMetadata (isFrom_of_registers hregisters)
    refine ⟨address, id, metadata, read, _, hregisters, rfl, rfl, hseen, ?_⟩
    -- The node itself is not among those whose connections are tried.
    refine hseen.markAllDown (hempty.applyMetadata isKept_covers metadata) fun hdown => ?_
    have hother := unreachable_subset net config _ read hdown
    simp at hother
  · intro after
    obtain ⟨lost, hlost⟩ := Option.isSome_iff_exists.mp hcontrol
    have hstep : w.step access config.seeds .controlLost = w.register access config.seeds := by
      rw [Worker.step, hlost]
    have hafter : after = { w with
        view := (w.view.applyMetadata metadata).1, control := some (address, id) } := by
      change ((w.step access config.seeds .controlLost).run c).1.1 = _
      rw [hstep, hregisters.run_register]
    rw [hafter]
    exact ⟨rfl, rfl, hw.relates.knows_applyMetadata (isFrom_of_registers hregisters)⟩

/-- What a node tells of itself that is alone in its cluster and has no datacenter. -/
def loneNode : Rows :=
  .ofTable "system" "local"
    [("cluster_name", .text), ("data_center", .text), ("rack", .text), ("host_id", .uuid),
      ("partitioner", .text), ("release_version", .text), ("schema_version", .uuid),
      ("tokens", .set .text)]
    [[none, none, none, none, some (Bytes.ofString Partitioner.murmur3.name), none, none,
      some [0, 0]]]

/-- What a node answers that is alone in its cluster. -/
def answerAlone : Request → Response
  | .options => .supported .empty
  | .query contents _ =>
      .result (.rows (if contents = SystemTable.localQuery then loneNode
        else .ofTable "system" "" [] []))
  | _ => .ready

def frameAlone (frame : Bytes) : Option Bytes := do
  let ((params, opcode, body), _) ← (Frame.splitRequest frame).toOption
  let (request, _) ← (Request.read opcode body).toOption
  let answer := answerAlone request
  let content ← answer.write.toOption
  return Frame.assemble ⟨Frame.version ||| Frame.responseBit, 0, params.stream⟩
    answer.opcode.code content

/-- A node that is alone in its cluster, whatever its address. -/
def alone : Network Unit where
  dial _ _ := return .accepted
  write _ frame := return (frameAlone frame).elim { hangsUp := true } fun bytes => { bytes }
  hangUp _ := return

/-- The control connection to a node that is up is lost, and the node accepts another one. -/
theorem knows_control_alone :
    let access := clusterAccess alone firstSeed
    ∃ w c address metadata id read, IsReached access firstSeed w ∧ w.control.isSome ∧
      Registers access (ControlConnection.candidates firstSeed.seeds w.view.snapshot) c address
        metadata id read ∧
      ((w.step access firstSeed.seeds .controlLost).run c).1.1.view.Favours address := by
  intro access
  obtain ⟨⟨w, c⟩, hfound, hcontrol, ⟨address, metadata, id, read, hregisters⟩, hup, hhome⟩ :
      ∃ found ∈ found? access firstSeed (ofConfig firstSeed ()),
        found.1.control.isSome ∧ (∃ address metadata id read,
          Registers access (ControlConnection.candidates firstSeed.seeds found.1.view.snapshot)
            found.2 address metadata id read) ∧ found.1.view.snapshot.peers.values.all Peer.isUp ∧
        ((found.1.step access firstSeed.seeds .controlLost).run
          found.2).1.1.view.routing.home? = none := by
    decide +kernel
  have hw := isReached_of_found? hfound
  obtain ⟨-, hknows⟩ := knows_control alone firstSeed
  obtain ⟨-, -, peer, -, -, hfavours⟩ := hknows w hw hcontrol c address metadata id read hregisters
  have hserves := RoutingPolicy.serves_of_home?_eq_none hhome peer
  refine ⟨w, c, address, metadata, id, read, hw, hcontrol, hregisters, hfavours ?_ hserves⟩
  cases hget : w.view.snapshot.peer? address with
  | none => rfl
  | some known => exact List.all_eq_true.mp hup known (Assoc.mem_values_iff.mpr ⟨address, hget⟩)

/-- A node that is reported down and then accepts another control connection stays down. One without
a datacenter is never chosen by a policy that prefers one. -/
theorem not_favours_control :
    (¬ ∀ {σ : Type} (net : Network σ) (config : ClusterConfig) (w : Worker ConnectionId),
      let access := clusterAccess net config
      IsReached access config w → w.control.isSome → ∀ c address metadata id read,
        Registers access (ControlConnection.candidates config.seeds w.view.snapshot) c address
            metadata id read →
          ((w.step access config.seeds .controlLost).run c).1.1.view.Favours address) ∧
      ¬ ∀ {σ : Type} (net : Network σ) (config : ClusterConfig) (firstCounter : String → Nat)
        (w : Worker ConnectionId) (met : List Announcement) (c later : Client σ),
        (discover (clusterAccess net config) config firstCounter).run c = (.ok (w, met), later) →
          ∃ address ∈ w.controlAddress?, w.view.Favours address := by
  refine ⟨fun h => ?_, fun h => ?_⟩
  · let access := clusterAccess alone firstSeed
    obtain ⟨⟨w, c⟩, hfound, hcontrol, ⟨address, metadata, id, read, hregisters⟩, hdown⟩ :
        ∃ found ∈ found? access firstSeed (ofConfig firstSeed ()),
          let fallen := (found.1.step access firstSeed.seeds
            (.event (.status .down ⟨.ofOctets 10 0 0 1, 9042⟩))).run found.2
          fallen.1.1.control.isSome ∧ (∃ address metadata id read,
            Registers access (ControlConnection.candidates firstSeed.seeds
              fallen.1.1.view.snapshot) fallen.2 address metadata id read) ∧
          ((fallen.1.1.step access firstSeed.seeds .controlLost).run
            fallen.2).1.1.view.snapshot.peers.values.all (!·.isUp) := by
      decide +kernel
    have hw := (isReached_of_found? hfound).step
      (.event (.status .down ⟨.ofOctets 10 0 0 1, 9042⟩)) c
    have hfavours := h alone firstSeed _ hw hcontrol _ address metadata id read hregisters
    obtain ⟨peer, hpeer, hup⟩ := hfavours.isUp
    have hpeerDown := List.all_eq_true.mp hdown peer (Assoc.mem_values_iff.mpr ⟨address, hpeer⟩)
    rw [hup] at hpeerDown
    exact nomatch hpeerDown
  · let config : ClusterConfig := { firstSeed with routing := .preferring "dc1" 0 }
    obtain ⟨⟨w, c⟩, hfound, hplan, hfits⟩ :
        ∃ found ∈ found? (clusterAccess alone config) config (ofConfig config ()),
          found.1.view.plan {} = [] ∧ found.1.view.routing.CountersFit := by
      decide +kernel
    obtain ⟨met, hrun⟩ := exists_of_found? hfound
    obtain ⟨address, -, hfavours⟩ := h alone config _ w met _ c hrun
    have hplanned := hfavours.planned hfits {}
    rw [hplan] at hplanned
    exact nomatch hplanned

end Control

end Worker

end CqlClient
