import CqlClient.Proofs.Cluster.Agreement

namespace CqlClient

section Keyed

variable {σ α β κ : Type} [DecidableEq κ] (get : σ → κ → Option β) {key : α → κ}

/-- Each of several changes gives a key of its own a value, which depends on the former value of
this key alone. -/
theorem get_foldl_of_nodup {change : σ → α → σ} {value : Option β → α → β}
    (hchange : ∀ s a k,
      get (change s a) k = if k = key a then some (value (get s k) a) else get s k)
    {items : List α} (hnodup : (items.map key).Nodup) (s : σ) (k : κ) :
    get (items.foldl change s) k =
      ((items.find? fun a => key a = k).map (value (get s k))).or (get s k) := by
  induction items generalizing s with
  | nil => rfl
  | cons item rest ih =>
      obtain ⟨hnew, hrest⟩ := List.nodup_cons.mp hnodup
      rw [List.foldl_cons, ih hrest, hchange, List.find?_cons]
      by_cases hkey : key item = k
      · -- No later item has this key, so the value that it is given here stays.
        have hnone : rest.find? (fun a => key a = k) = none := by
          refine List.find?_eq_none.mpr fun other hother => ?_
          intro heq
          exact hnew (hkey ▸ of_decide_eq_true heq ▸ List.mem_map_of_mem hother)
        simp [hkey, hnone]
      · simp [hkey, Ne.symm hkey]

theorem get_foldl_remove {remove : σ → κ → σ}
    (hremove : ∀ s k other, get (remove s k) other = if other = k then none else get s other)
    (items : List κ) (s : σ) (k : κ) :
    get (items.foldl remove s) k = if k ∈ items then none else get s k := by
  induction items generalizing s with
  | nil => simp
  | cons item rest ih =>
      rw [List.foldl_cons, ih, hremove]
      by_cases hkey : k = item
      · simp [hkey]
      · simp [hkey]

theorem get_foldl_remove_unlisted {remove : σ → κ → σ}
    (hremove : ∀ s k other, get (remove s k) other = if other = k then none else get s other)
    {s : σ} {k : κ} {gone : List κ} {listed old : Option β}
    (hgone : k ∈ gone ↔ (get s k).isSome ∧ listed = none) (hget : get s k = listed.or old) :
    get (gone.foldl remove s) k = listed := by
  rw [get_foldl_remove get hremove]
  cases listed with
  | some value => rw [if_neg (by simp [hgone]), hget, Option.some_or]
  | none =>
      split
      · rfl
      · next hkept => simpa [hgone] using hkept

end Keyed

namespace Keyspace

variable {keyspace old : Keyspace}

theorem foldl_addTable (keyspace : Keyspace) (tables : List String) :
    tables.foldl addTable keyspace =
      { keyspace with tables := (tables.foldl addTable keyspace).tables } := by
  induction tables generalizing keyspace with
  | nil => rfl
  | cons table rest ih => exact ih (keyspace.addTable table)

theorem mem_tables_foldl_addTable {tables : List String} {table : String} :
    table ∈ (tables.foldl addTable keyspace).tables ↔
      table ∈ keyspace.tables ∨ table ∈ tables := by
  induction tables generalizing keyspace with
  | nil => simp
  | cons first rest ih =>
      rw [List.foldl_cons, ih, addTable, mem_insertName, List.mem_cons]
      tauto

theorem keepTables_eq (keyspace old : Keyspace) :
    keyspace.keepTables old = { keyspace with tables := (keyspace.keepTables old).tables } :=
  foldl_addTable keyspace old.tables

theorem mem_tables_keepTables {table : String} :
    table ∈ (keyspace.keepTables old).tables ↔ table ∈ keyspace.tables ∨ table ∈ old.tables :=
  mem_tables_foldl_addTable

end Keyspace

namespace Snapshot

/-- A listed peer with the status of its former record, if there is one. -/
def keepStatus (old : Option Peer) (peer : Peer) : Peer :=
  peer.withStatus ((old.map Peer.isUp).getD peer.isUp)

/-- A listed keyspace with the tables of its former record, if there is one. -/
def keepTables (old : Option Keyspace) (keyspace : Keyspace) : Keyspace :=
  old.elim keyspace keyspace.keepTables

theorem keepTables_eq (old : Option Keyspace) (keyspace : Keyspace) :
    { keepTables old keyspace with tables := keyspace.tables } = keyspace := by
  cases old with
  | none => rfl
  | some old => rw [keepTables, Option.elim_some, Keyspace.keepTables_eq]

theorem name_keepTables (old : Option Keyspace) (keyspace : Keyspace) :
    (keepTables old keyspace).name = keyspace.name := by
  have heq := congrArg Keyspace.name (keepTables_eq old keyspace)
  exact heq

theorem mem_tables_keepTables {old : Option Keyspace} {keyspace : Keyspace} {table : String} :
    table ∈ (keepTables old keyspace).tables ↔
      table ∈ keyspace.tables ∨ ∃ former, old = some former ∧ table ∈ former.tables := by
  cases old with
  | none => simp [keepTables]
  | some former => simp [keepTables, Keyspace.mem_tables_keepTables]

theorem putKeyspace_eq (s : Snapshot) (keyspace : Keyspace) :
    s.putKeyspace keyspace =
      let kept := keepTables (s.keyspace? keyspace.name) keyspace
      { s with keyspaces := s.keyspaces.insert kept.name kept } := by
  rw [putKeyspace]
  cases s.keyspace? keyspace.name <;> rfl

theorem keyspace?_putKeyspace (s : Snapshot) (keyspace : Keyspace) (name : String) :
    (s.putKeyspace keyspace).keyspace? name =
      if name = keyspace.name then some (keepTables (s.keyspace? name) keyspace)
      else s.keyspace? name := by
  rw [putKeyspace_eq, keyspace?, Assoc.get?_insert, name_keepTables]
  split
  · next heq => rw [heq]
  · rfl

theorem keyspace?_removeKeyspace (s : Snapshot) (name other : String) :
    (s.removeKeyspace name).keyspace? other = if other = name then none else s.keyspace? other :=
  s.keyspaces.get?_erase name other

end Snapshot

namespace ClusterMetadata

/-- The listed record of a peer. -/
def peer? (metadata : ClusterMetadata) (address : IpAddress) : Option Peer :=
  metadata.peers.find? fun peer => peer.address = address

/-- The listed keyspace of a name. -/
def keyspace? (metadata : ClusterMetadata) (name : String) : Option Keyspace :=
  metadata.keyspaces.find? fun keyspace => keyspace.name = name

/-- Whether no peer and no keyspace is listed twice. -/
structure IsDistinct (metadata : ClusterMetadata) : Prop where
  peers : (metadata.peers.map Peer.address).Nodup
  keyspaces : (metadata.keyspaces.map Keyspace.name).Nodup

end ClusterMetadata

namespace ClusterView

variable {v : ClusterView} {metadata : ClusterMetadata}

theorem forEach_fst {α : Type} (change : ClusterView → α → ClusterView × List Announcement)
    (v : ClusterView) (items : List α) :
    (forEach change v items).1 = items.foldl (fun v a => (change v a).1) v := by
  induction items generalizing v with
  | nil => rfl
  | cons item rest ih => exact ih (change v item).1

theorem snapshot_enlistIfUp (v : ClusterView) (peer : Peer) :
    (v.enlistIfUp peer).snapshot = v.snapshot := by
  rw [enlistIfUp]
  split <;> rfl

theorem snapshot_join (v : ClusterView) (peer : Peer) :
    (v.join peer).snapshot = v.snapshot.addPeer peer := by
  rw [join, snapshot_enlistIfUp]
  cases v.snapshot.peer? peer.address <;> rfl

theorem snapshot_refresh (v : ClusterView) (known peer : Peer) :
    (v.refresh known peer).snapshot = v.snapshot.addPeer (peer.withStatus known.isUp) := by
  rw [refresh]
  split <;> rfl

theorem snapshot_takePeer (v : ClusterView) (peer : Peer) :
    (v.takePeer peer).1.snapshot =
      v.snapshot.addPeer (Snapshot.keepStatus (v.snapshot.peer? peer.address) peer) := by
  rw [takePeer]
  cases v.snapshot.peer? peer.address with
  | none => exact v.snapshot_join peer
  | some known => exact v.snapshot_refresh known peer

theorem peer?_takePeer (v : ClusterView) (peer : Peer) (address : IpAddress) :
    (v.takePeer peer).1.snapshot.peer? address =
      if address = peer.address then
        some (Snapshot.keepStatus (v.snapshot.peer? address) peer)
      else v.snapshot.peer? address := by
  rw [snapshot_takePeer, Snapshot.peer?_addPeer]
  change (if address = peer.address then _ else _) = _
  split
  · next heq => rw [heq]
  · rfl

theorem peer?_takePeers {peers : List Peer} (hnodup : (peers.map Peer.address).Nodup)
    (v : ClusterView) (address : IpAddress) :
    (v.takePeers peers).1.snapshot.peer? address =
      (peers.find? fun peer => peer.address = address).map
        (Snapshot.keepStatus (v.snapshot.peer? address)) := by
  rw [takePeers, forEach_fst, forEach_fst]
  refine get_foldl_remove_unlisted (fun w : ClusterView => w.snapshot.peer?)
    (fun w key other => w.snapshot.peer?_removePeer key other) ?_
    (get_foldl_of_nodup (fun w : ClusterView => w.snapshot.peer?) peer?_takePeer hnodup v address)
  simp [Assoc.mem_keys_iff, Snapshot.peer?]

theorem keyspace?_takeKeyspaces {keyspaces : List Keyspace}
    (hnodup : (keyspaces.map Keyspace.name).Nodup) (v : ClusterView) (name : String) :
    (v.takeKeyspaces keyspaces).snapshot.keyspace? name =
      (keyspaces.find? fun keyspace => keyspace.name = name).map
        (Snapshot.keepTables (v.snapshot.keyspace? name)) := by
  refine get_foldl_remove_unlisted Snapshot.keyspace? Snapshot.keyspace?_removeKeyspace ?_
    (get_foldl_of_nodup Snapshot.keyspace? Snapshot.keyspace?_putKeyspace hnodup v.snapshot name)
  simp [Assoc.mem_keys_iff, Snapshot.keyspace?]

theorem keyspaces_takePeers (v : ClusterView) (peers : List Peer) :
    (v.takePeers peers).1.snapshot.keyspaces = v.snapshot.keyspaces := by
  have hjoined : (forEach takePeer v peers).1.snapshot.keyspaces = v.snapshot.keyspaces :=
    forEach_induction (P := fun w => w.snapshot.keyspaces = v.snapshot.keyspaces)
      (fun w peer hw => by rw [snapshot_takePeer, Snapshot.keyspaces_addPeer, hw]) rfl peers
  exact forEach_induction (P := fun w => w.snapshot.keyspaces = v.snapshot.keyspaces)
    (fun w address hw => (w.snapshot.keyspaces_removePeer address).trans hw) hjoined _

theorem peers_takeKeyspaces (v : ClusterView) (keyspaces : List Keyspace) :
    (v.takeKeyspaces keyspaces).snapshot.peers = v.snapshot.peers :=
  List.foldlRecOn (motive := fun s : Snapshot => s.peers = v.snapshot.peers) _ _
    (List.foldlRecOn (motive := fun s : Snapshot => s.peers = v.snapshot.peers) _ _ rfl
      fun _ hs _ _ => hs)
    fun _ hs _ _ => hs

theorem peer?_applyMetadata (h : metadata.IsDistinct) (v : ClusterView) (address : IpAddress) :
    (v.applyMetadata metadata).1.snapshot.peer? address =
      (metadata.peer? address).map (Snapshot.keepStatus (v.snapshot.peer? address)) := by
  rw [applyMetadata, Snapshot.peer?, peers_takeKeyspaces]
  exact peer?_takePeers h.peers _ address

theorem keyspace?_applyMetadata (h : metadata.IsDistinct) (v : ClusterView) (name : String) :
    (v.applyMetadata metadata).1.snapshot.keyspace? name =
      (metadata.keyspace? name).map (Snapshot.keepTables (v.snapshot.keyspace? name)) := by
  rw [applyMetadata]
  refine (keyspace?_takeKeyspaces h.keyspaces _ name).trans ?_
  rw [Snapshot.keyspace?, keyspaces_takePeers]
  rfl

/-- Whether a view is that of given system tables, but for the status of the peers that were known
before. -/
structure Mirrors (v before : ClusterView) (metadata : ClusterMetadata) : Prop where
  peers : ∀ address, v.snapshot.peer? address =
    (metadata.peer? address).map (Snapshot.keepStatus (before.snapshot.peer? address))
  keyspaces : ∀ name, (v.snapshot.keyspace? name).isSome = (metadata.keyspace? name).isSome
  keyspace : ∀ name found listed, v.snapshot.keyspace? name = some found →
    metadata.keyspace? name = some listed →
      { found with tables := listed.tables } = listed ∧
        ∀ table, table ∈ found.tables ↔ table ∈ listed.tables

/-- After a refresh the peers are those that are listed, each with the status that it had, and the
keyspaces are those that are listed. Their tables are the listed ones and those that were known
before: a table that was dropped unnoticed stays for good. -/
theorem mirrors_applyMetadata_iff (h : metadata.IsDistinct) (v : ClusterView) :
    let after := (v.applyMetadata metadata).1
    (∀ address, after.snapshot.peer? address =
        (metadata.peer? address).map (Snapshot.keepStatus (v.snapshot.peer? address))) ∧
      (∀ name, (after.snapshot.keyspace? name).isSome = (metadata.keyspace? name).isSome) ∧
      (∀ name found listed, after.snapshot.keyspace? name = some found →
        metadata.keyspace? name = some listed →
          { found with tables := listed.tables } = listed ∧
            ∀ table, table ∈ found.tables ↔ table ∈ listed.tables ∨
              ∃ old, v.snapshot.keyspace? name = some old ∧ table ∈ old.tables) ∧
      (after.Mirrors v metadata ↔ ∀ name old listed, v.snapshot.keyspace? name = some old →
        metadata.keyspace? name = some listed → old.tables ⊆ listed.tables) := by
  intro after
  have hpeers := peer?_applyMetadata h v
  have hkeyspace := keyspace?_applyMetadata h v
  have hsome : ∀ name, (after.snapshot.keyspace? name).isSome =
      (metadata.keyspace? name).isSome := fun name => by
    rw [hkeyspace, Option.isSome_map]
  have htables : ∀ name found listed, after.snapshot.keyspace? name = some found →
      metadata.keyspace? name = some listed →
        { found with tables := listed.tables } = listed ∧
          ∀ table, table ∈ found.tables ↔ table ∈ listed.tables ∨
            ∃ old, v.snapshot.keyspace? name = some old ∧ table ∈ old.tables := by
    intro name found listed hfound hlisted
    rw [hkeyspace, hlisted, Option.map_some, Option.some.injEq] at hfound
    subst hfound
    exact ⟨Snapshot.keepTables_eq _ listed, fun table => Snapshot.mem_tables_keepTables⟩
  refine ⟨hpeers, hsome, htables, fun hmirrors name old listed hold hlisted table htable => ?_,
    fun hkept => ⟨hpeers, hsome, fun name found listed hfound hlisted => ?_⟩⟩
  · obtain ⟨found, hfound⟩ := Option.isSome_iff_exists.mp
      ((hsome name).trans (Option.isSome_iff_exists.mpr ⟨listed, hlisted⟩))
    exact ((hmirrors.keyspace name found listed hfound hlisted).2 table).mp
      (((htables name found listed hfound hlisted).2 table).mpr (.inr ⟨old, hold, htable⟩))
  · obtain ⟨heq, hmem⟩ := htables name found listed hfound hlisted
    refine ⟨heq, fun table => (hmem table).trans (or_iff_left_of_imp ?_)⟩
    rintro ⟨old, hold, htable⟩
    exact hkept name old listed hold hlisted htable

/-- Two nodes and a keyspace with tables, as the system tables list them. -/
def twoNodes (tables : List String) : ClusterMetadata where
  clusterName := some "cluster"
  partitioner := .murmur3
  peers :=
    [{ address := .ofOctets 10 0 0 1, datacenter := some "dc1" },
      { address := .ofOctets 10 0 0 2, datacenter := some "dc1" }]
  keyspaces := [{ name := "ks", strategy := .simple 2, tables }]

/-- A table is dropped while a node is down and no event comes through. -/
theorem mirrors_applyMetadata_twoNodes : (twoNodes ["kept"]).IsDistinct ∧
    let before := { routing := .roundRobin 0 : ClusterView }.applyAll
      [.applyMetadata (twoNodes ["dropped", "kept"]), .markDown (.ofOctets 10 0 0 2)]
    let after := (before.applyMetadata (twoNodes ["kept"])).1
    after.snapshot.peer? (.ofOctets 10 0 0 2) =
        some { address := .ofOctets 10 0 0 2, datacenter := some "dc1", isUp := false } ∧
      ¬ after.Mirrors before (twoNodes ["kept"]) := by
  have hdistinct : (twoNodes ["kept"]).IsDistinct := ⟨by decide, by decide⟩
  refine ⟨hdistinct, ?_⟩
  intro before after
  obtain ⟨hpeers, -, -, hmirrors⟩ := mirrors_applyMetadata_iff hdistinct before
  refine ⟨(hpeers _).trans (by rfl), fun h => ?_⟩
  have hstale := hmirrors.mp h "ks" _ _ rfl rfl
  exact absurd (hstale (List.mem_cons_self ..)) (by decide)

theorem not_mirrors_applyMetadata : ¬ ∀ (policy : RoutingPolicy) (firstCounter : String → Nat)
    (changes : List ClusterChange) (metadata : ClusterMetadata),
    policy.HasNoEndpoints → metadata.IsDistinct →
      let before := ({ routing := policy, firstCounter } : ClusterView).applyAll changes
      (before.applyMetadata metadata).1.Mirrors before metadata := by
  intro h
  have hmirrors := h (.roundRobin 0) (fun _ => 0)
    [.applyMetadata (twoNodes ["dropped", "kept"])] (twoNodes ["kept"]) rfl
    ⟨by decide, by decide⟩
  have hstale := ((hmirrors.keyspace "ks" _ _ rfl rfl).2 "dropped").mp
  exact absurd (hstale (by decide)) (by decide)

end ClusterView

end CqlClient
