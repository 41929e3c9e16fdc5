import CqlClient.Client.SessionAccess
import CqlClient.Proofs.Client.Contact
import CqlClient.Proofs.Cluster.Registration
import CqlClient.Proofs.Placement.Distinct

namespace CqlClient

namespace IpAddress

theorem le_trans {a b c : IpAddress} (hab : a.le b) (hbc : b.le c) : a.le c := by
  cases a with
  | v4 a =>
      cases c with
      | v6 c => rfl
      | v4 c =>
          cases b with
          | v6 b => exact nomatch hbc
          | v4 b =>
              rw [le, decide_eq_true_eq] at hab hbc ⊢
              exact List.le_trans hab hbc
  | v6 a =>
      cases b with
      | v4 b => exact nomatch hab
      | v6 b =>
          cases c with
          | v4 c => exact nomatch hbc
          | v6 c =>
              rw [le, decide_eq_true_eq] at hab hbc ⊢
              exact List.le_trans hab hbc

theorem le_total (a b : IpAddress) : a.le b || b.le a := by
  cases a with
  | v4 a =>
      cases b with
      | v4 b => simpa [le] using List.le_total a.val b.val
      | v6 b => rfl
  | v6 a =>
      cases b with
      | v4 b => rfl
      | v6 b => simpa [le] using List.le_total a.val b.val

theorem pairwise_sort (addresses : List IpAddress) : (sort addresses).Pairwise (·.le ·) := by
  apply List.pairwise_mergeSort
  · exact fun _ _ _ => le_trans
  · exact le_total

end IpAddress

namespace ControlConnection

theorem mem_upNodes {s : Snapshot} {address : IpAddress} :
    address ∈ upNodes s ↔ ∃ peer ∈ s.peers.values, peer.isUp = true ∧ peer.address = address := by
  simp [upNodes, IpAddress.sort, and_assoc]

theorem candidates_eq (seeds : List IpAddress) (s : Snapshot) :
    ∃ others, candidates seeds s = seeds.eraseDups ++ others ∧ (candidates seeds s).Nodup ∧
      others.Pairwise (·.le ·) ∧ ∀ address, address ∈ others ↔
        address ∉ seeds ∧ ∃ peer ∈ s.peers.values, peer.isUp = true ∧ peer.address = address := by
  refine ⟨_, List.eraseDups_append, nodup_eraseDups _, ?_, fun address => ?_⟩
  · have hsublist : ((upNodes s).removeAll seeds).eraseDups.Sublist (upNodes s) :=
      (eraseDups_sublist _).trans List.filter_sublist
    exact (IpAddress.pairwise_sort _).sublist hsublist
  · rw [List.mem_eraseDups, List.removeAll, List.mem_filter, ← mem_upNodes, and_comm]
    simp

end ControlConnection

namespace Worker

variable {σ κ : Type} {w : Worker κ}

/-- Whether the cluster is lost: no node holds the control connection, and every request fails with
nothing asked of any node. -/
structure IsLost (w : Worker κ) : Prop where
  controlAddress? : w.controlAddress? = none
  execute : ∀ {σ κ : Type} (session : Session) (access : SessionAccess σ κ) (policy : RetryPolicy)
    (statement : Statement) (fuel : Nat), session.execute access policy w statement fuel =
      pure (.finished (.error .clusterUnavailable), w)
  prepare : ∀ {σ κ : Type} (session : Session) (access : SessionAccess σ κ) (policy : RetryPolicy)
    (contents : String) (fuel : Nat), session.prepare access policy w contents fuel =
      pure (.finished (.error .clusterUnavailable), w)
  executeWith : ∀ {σ κ : Type} (access : SessionAccess σ κ) (policy : RetryPolicy)
    (statement : Statement) (fuel : Nat) (context : RetryContext),
    Session.executeWith access policy w.isUnavailable statement fuel context =
      pure (.finished (.error .clusterUnavailable))

theorem isLost_of_isUnavailable (hcontrol : w.control = none) (h : w.isUnavailable = true) :
    w.IsLost := by
  have hstart : ∀ (session : Session) (request : RoutingRequest),
      session.start w request = (.error .clusterUnavailable, w) :=
    fun session request => if_pos h
  refine ⟨?_, ?_, ?_, ?_⟩
  · rw [Worker.controlAddress?, hcontrol, Option.map_none]
  · intro σ κ session access policy statement fuel
    rw [Session.execute, hstart]
  · intro σ κ session access policy contents fuel
    rw [Session.prepare, hstart]
  · intro σ κ access policy statement fuel context
    rw [h]
    rfl

/-- How a worker can come to be by its inputs, whatever happens to the nodes between them. -/
inductive Leads (access : ClusterAccess σ κ) (seeds : List IpAddress) (w : Worker κ) :
    Worker κ → Prop
  | refl : Leads access seeds w w
  | step {later : Worker κ} (h : Leads access seeds w later) (input : WorkerInput) (nodes : σ) :
      Leads access seeds w ((later.step access seeds input).run nodes).1.1

theorem Leads.isUnavailable {access : ClusterAccess σ κ} {seeds : List IpAddress}
    {later : Worker κ} (h : Leads access seeds w later) (hcontrol : w.control = none)
    (hw : w.isUnavailable = true) : later.control = none ∧ later.isUnavailable = true := by
  induction h with
  | refl => exact ⟨hcontrol, hw⟩
  | @step later _ input nodes ih =>
      obtain ⟨hnone, hunavailable⟩ := ih
      cases input with
      | event change => exact ⟨hnone, hunavailable⟩
      | controlLost =>
          rw [Worker.step, hnone]
          exact ⟨hnone, hunavailable⟩

section Loss

open Client

/-- When the control connection is lost, the seeds are tried in their order and then the nodes
marked up in the order of their addresses, each once. The first that accepts holds the control
connection, and none after it is contacted. If all refuse, the cluster is lost and stays so. -/
theorem replaced_or_lost (net : Network σ) (config : ClusterConfig) {w : Worker ConnectionId}
    {lost : IpAddress × ConnectionId} (hlost : w.control = some lost)
    (c : Client (σ × List Contact)) :
    let access := clusterAccess net.contacted config
    let candidates := ControlConnection.candidates config.seeds w.view.snapshot
    let after := (w.step access config.seeds .controlLost).run c
    (∃ others, candidates = config.seeds.eraseDups ++ others ∧ candidates.Nodup ∧
        others.Pairwise (·.le ·) ∧ ∀ address, address ∈ others ↔ address ∉ config.seeds ∧
          ∃ peer ∈ w.view.snapshot.peers.values, peer.isUp = true ∧ peer.address = address) ∧
      ((∃ tried address rest before id accepted, candidates = tried ++ address :: rest ∧
          Refused net.contacted config tried c before ∧
          Accepts net.contacted config address before id accepted ∧
          after.1.1.control = some (address, id) ∧
          after.1.1.isUnavailable = w.isUnavailable ∧
          HasContacted (tried ++ [address]) c after.2) ∨
        Refused net.contacted config candidates c after.2 ∧ HasContacted candidates c after.2 ∧
          ∀ later, Leads access config.seeds after.1.1 later → later.IsLost) := by
  intro access candidates after
  refine ⟨ControlConnection.candidates_eq _ _, ?_⟩
  have hafter : after = (w.register access config.seeds).run c := by
    change (w.step access config.seeds .controlLost).run c = _
    rw [Worker.step, hlost]
  rcases hopen : (ControlConnection.openAny access.openControl candidates).run c with
    ⟨e | ⟨address, id⟩, opened⟩
  · have hrefused := refused_of_openAny hopen
    right
    rw [hafter, run_register_of_error hopen]
    refine ⟨hrefused, ?_, fun later hlater => ?_⟩
    · have hcontacted := hrefused.hasContacted_append (hasContacted_nil opened)
      rwa [List.append_nil] at hcontacted
    · obtain ⟨hcontrol, hunavailable⟩ := hlater.isUnavailable rfl rfl
      exact isLost_of_isUnavailable hcontrol hunavailable
  · obtain ⟨tried, rest, before, heq, hrefused, haccepts⟩ := exists_accepts_of_openAny hopen
    obtain ⟨view, announcements, hrun, -⟩ := run_register_of_ok hopen
    left
    refine ⟨tried, address, rest, before, id, opened, heq, hrefused, haccepts, ?_⟩
    rw [hafter, hrun]
    refine ⟨rfl, rfl, hrefused.hasContacted_append ?_⟩
    -- The tables are read on the connection that was accepted.
    have hdialled := haccepts.hasDialled.trans (onlyWrites_readAll net config address opened)
    exact hdialled.cons (hasContacted_nil _)

/-- Nodes that refuse every connection, but for some that greet whoever connects. -/
def greeting (hosts : List IpAddress) : Network Unit where
  dial _ address := return if address ∈ hosts then .accepted else .refused .refused
  write _ frame := return {
    bytes := match frame with
      | _ :: _ :: stream :: 0x05 :: _ => [0x82, 0, stream, 0x06, 0, 0, 0, 2, 0, 0]
      | _ :: _ :: stream :: _ => [0x82, 0, stream, 0x02, 0, 0, 0, 0]
      | _ => [] }
  hangUp _ := return

/-- A cluster that is found by two seeds. -/
def twoSeeds : ClusterConfig where
  seeds := [9, 1].map (IpAddress.ofOctets 10 0 0)
  routing := .roundRobin 0

/-- Five nodes are known. The first is a seed, the second is marked down, and the connection to the
last one is lost. -/
def outage : Worker ConnectionId where
  view := ({ routing := .roundRobin 0 } : ClusterView).applyAll (
    [1, 2, 3, 4, 5].map (fun last => .join { address := .ofOctets 10 0 0 last }) ++
      [.markDown (.ofOctets 10 0 0 2)])
  control := some (.ofOctets 10 0 0 5, 0)

theorem candidates_outage : ControlConnection.candidates twoSeeds.seeds outage.view.snapshot =
    [9, 1, 3, 4, 5].map (IpAddress.ofOctets 10 0 0) := by
  have hup : ControlConnection.upNodes outage.view.snapshot =
      [1, 3, 4, 5].map (IpAddress.ofOctets 10 0 0) :=
    List.mergeSort_of_pairwise (by decide +kernel)
  rw [ControlConnection.candidates, hup]
  decide +kernel

/-- Both seeds and a node refuse before another one accepts; if that refuses too, the cluster is
lost. -/
theorem replaced_or_lost_outage :
    let c := Client.ofConfig twoSeeds ((), [])
    outage.control.isSome ∧
      (let access := clusterAccess (greeting [.ofOctets 10 0 0 4]).contacted twoSeeds
      let after := (outage.step access twoSeeds.seeds .controlLost).run c
      after.1.1.controlAddress? = some (.ofOctets 10 0 0 4) ∧
        HasContacted ([9, 1, 3, 4].map (IpAddress.ofOctets 10 0 0)) c after.2) ∧
      (let access := clusterAccess (greeting []).contacted twoSeeds
      let after := (outage.step access twoSeeds.seeds .controlLost).run c
      HasContacted ([9, 1, 3, 4, 5].map (IpAddress.ofOctets 10 0 0)) c after.2 ∧
        ∀ later, Leads access twoSeeds.seeds after.1.1 later → later.IsLost) := by
  intro c
  refine ⟨rfl, ?_, ?_⟩
  · intro access after
    have hcontrol : after.1.1.control = some (.ofOctets 10 0 0 4, 3) := by
      refine (control_register access twoSeeds.seeds outage c).trans ?_
      rw [candidates_outage]
      decide +kernel
    obtain ⟨-, ⟨tried, address, rest, before, id, accepted, heq, -, -, htaken,
      -, hcontacted⟩ | ⟨-, -, hlost⟩⟩ :=
        @replaced_or_lost Unit (greeting [.ofOctets 10 0 0 4]) twoSeeds outage _ rfl c
    · obtain ⟨rfl, rfl⟩ := Prod.mk.inj (Option.some.inj (hcontrol.symm.trans htaken))
      refine ⟨congrArg (Option.map Prod.fst) hcontrol, ?_⟩
      have hsplit : [9, 1, 3].map (IpAddress.ofOctets 10 0 0) ++ .ofOctets 10 0 0 4 ::
          [.ofOctets 10 0 0 5] = tried ++ .ofOctets 10 0 0 4 :: rest :=
        candidates_outage.symm.trans heq
      obtain ⟨rfl, -⟩ := (List.append_cons_inj_of_notMem (by decide) (by decide)).mp hsplit
      exact hcontacted
    · have hnone := (hlost _ .refl).controlAddress?
      rw [Worker.controlAddress?, hcontrol] at hnone
      exact nomatch hnone
  · intro access after
    have hcontrol : after.1.1.control = none := by
      refine (control_register access twoSeeds.seeds outage c).trans ?_
      rw [candidates_outage]
      decide +kernel
    obtain ⟨-, ⟨tried, address, rest, before, id, accepted, -, -, -, htaken, -⟩ |
      ⟨-, hcontacted, hlost⟩⟩ := @replaced_or_lost Unit (greeting []) twoSeeds outage _ rfl c
    · exact nomatch hcontrol.symm.trans htaken
    · rw [candidates_outage] at hcontacted
      exact ⟨hcontacted, hlost⟩

end Loss

end Worker

end CqlClient
