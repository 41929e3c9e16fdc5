import CqlClient.Proofs.Client.Contact
import CqlClient.Proofs.Text.Literal

namespace CqlClient

namespace SystemTable

open Text (Piece apostrophe pieces?)

/-- The pieces of a query for all rows when it is narrowed down to those of one keyspace. -/
def piecesFor (all name : String) : List Piece :=
  (all ++ " WHERE keyspace_name=").toList.map .code ++ [.literal name]

theorem pieces?_append_ofKeyspace {all : String} (h : apostrophe ∉ all.toList) (name : String) :
    pieces? (all ++ ofKeyspace (some name)).toList = some (piecesFor all name) := by
  have hcondition : apostrophe ∉ " WHERE keyspace_name=".toList := by decide +kernel
  have hcode : apostrophe ∉ (all ++ " WHERE keyspace_name=").toList := by
    rw [String.toList_append, List.mem_append]
    exact not_or.mpr ⟨h, hcondition⟩
  have hquery : all ++ ofKeyspace (some name) =
      all ++ " WHERE keyspace_name=" ++ Text.literal name := String.append_assoc.symm
  rw [hquery, String.toList_append]
  exact Text.pieces?_append_literal _ hcode name

theorem pieces?_keyspacesQuery (name : String) :
    pieces? (keyspacesQuery (some name)).toList = some (piecesFor (keyspacesQuery none) name) :=
  pieces?_append_ofKeyspace (by decide +kernel) name

theorem pieces?_tablesQuery (name : String) :
    pieces? (tablesQuery (some name)).toList = some (piecesFor (tablesQuery none) name) :=
  pieces?_append_ofKeyspace (by decide +kernel) name

theorem pieces?_peersQuery : pieces? peersQuery.toList = some (peersQuery.toList.map .code) :=
  Text.pieces?_of_not_mem (by decide +kernel)

end SystemTable

namespace Client

variable {σ α : Type} {R : Client σ → Client σ → Prop} {P : String → Prop} {id : ConnectionId}

section Events

variable [IsPreorder (Client σ) R] {reads : Option (TableReads (Client σ))}

theorem keeps_readPeer
    (hpeers : ∀ tables ∈ reads, ∀ partitioner, Keeps R (tables.peers partitioner))
    (v : ClusterView) (address : IpAddress) : Keeps R (v.readPeer reads address) := by
  cases reads with
  | none => exact keeps_pure _
  | some tables =>
      refine (hpeers tables rfl _).bind fun peers => ?_
      cases peers with
      | ok peers => exact keeps_pure _
      | error e => exact keeps_pure _

theorem keeps_refreshKeyspace {name : String}
    (hkeyspace : ∀ tables ∈ reads, Keeps R (tables.keyspace name)) (v : ClusterView) :
    Keeps R (v.refreshKeyspace reads name) := by
  cases reads with
  | none => exact keeps_pure _
  | some tables =>
      refine (hkeyspace tables rfl).bind fun keyspaces => ?_
      cases keyspaces with
      | ok keyspaces => exact keeps_pure _
      | error e => exact keeps_pure _

theorem keeps_handle
    (hpeers : ∀ tables ∈ reads, ∀ partitioner, Keeps R (tables.peers partitioner)) {event : Event}
    (hkeyspace : ∀ change name, event = .schema change name none →
      ∀ tables ∈ reads, Keeps R (tables.keyspace name))
    (v : ClusterView) : Keeps R (v.handle reads event) := by
  cases event with
  | topology change node =>
      cases change with
      | newNode => exact (keeps_readPeer hpeers v node.ip).bind fun _ => keeps_pure _
      | removedNode => exact keeps_pure _
      | movedNode => exact (keeps_readPeer hpeers v node.ip).bind fun _ => keeps_pure _
  | status change node =>
      cases change with
      | up =>
          rw [ClusterView.handle]
          split
          · exact (keeps_pure _).bind fun _ => keeps_pure _
          · exact (keeps_readPeer hpeers v node.ip).bind fun _ => keeps_pure _
      | down => exact keeps_pure _
  | schema change keyspace table =>
      cases table with
      | some table => exact keeps_pure _
      | none =>
          have hrefresh := keeps_refreshKeyspace (hkeyspace change keyspace rfl) v
          refine Keeps.bind ?_ fun _ => keeps_pure _
          cases change with
          | created => exact hrefresh
          | updated => exact hrefresh
          | dropped => exact keeps_pure _
          | invalid => exact keeps_pure _

end Events

/-- Whether since a moment a client wrote nothing but queries with given statements. -/
def HasQueried (P : String → Prop) (before after : Client (σ × FrameLog)) : Prop :=
  ∃ written : FrameLog, after.network.2 = before.network.2 ++ written ∧
    ∀ entry ∈ written, ∃ contents compression, P contents ∧
      Carries entry.2 ⟨(singlePage contents).request, compression⟩

theorem HasQueried.of_written {before after : Client (σ × FrameLog)}
    (h : after.network.2 = before.network.2) : HasQueried P before after :=
  ⟨[], by rw [h, List.append_nil], nofun⟩

theorem HasQueried.of_network {before after : Client (σ × FrameLog)}
    (h : after.network = before.network) : HasQueried P before after :=
  .of_written (congrArg Prod.snd h)

theorem HasQueried.trans {first second third : Client (σ × FrameLog)}
    (h : HasQueried P first second) (hnext : HasQueried P second third) :
    HasQueried P first third := by
  obtain ⟨written, hwritten, hqueries⟩ := h
  obtain ⟨more, hmore, hmoreQueries⟩ := hnext
  refine ⟨written ++ more, by rw [hmore, hwritten, List.append_assoc], fun entry hentry => ?_⟩
  exact (List.mem_append.mp hentry).elim (hqueries entry) (hmoreQueries entry)

instance : IsPreorder (Client (σ × FrameLog)) (HasQueried P) where
  refl _ := .of_network rfl
  trans _ _ _ := .trans

theorem hasQueried_ask (net : Network σ) {contents : String} (h : P contents) :
    Keeps (HasQueried P) (ask net.recorded id (singlePage contents).request) := by
  intro c
  cases hconnection : c.connections.get? id with
  | none =>
      have hnone : (connection? id).run c = (none, c) := congrArg (·, c) hconnection
      rw [ask, run_bind, submit, run_bind, hnone]
      exact .of_network rfl
  | some connection =>
      have hasked := asked_ask net (singlePage contents).request hconnection
      generalize (ask net.recorded id (singlePage contents).request).run c = asked at hasked ⊢
      cases hasked with
      | refused error quiet unwritable => exact .of_written quiet.written
      | written answer writable carries log kept config compresses phase =>
          refine ⟨_, log, fun entry hentry => ?_⟩
          obtain rfl := List.mem_singleton.mp hentry
          exact ⟨contents, connection.compression, h, _, carries⟩

theorem hasQueried_inTime (net : Network σ) (config : ClusterConfig) {contents : String}
    (h : P contents) (table : String) (read : SystemTable.Contents → Except MetadataError α) :
    Keeps (HasQueried P)
      (inTime config (SystemTable.queryAnd (asking net.recorded id) table contents read)) :=
  keeps_within .of_network (keeps_queryAnd (keeps_asking (hasQueried_ask net h)) table read) _ _

/-- Whether a statement, as it is scanned, is the query for the peers, or the query for a keyspace
with the name of one that an event names. -/
def IsMeantFor (events : List Event) (contents : String) : Prop :=
  Text.pieces? contents.toList = some (SystemTable.peersQuery.toList.map .code) ∨
    ∃ change name, Event.schema change name none ∈ events ∧
      Text.pieces? contents.toList =
        some (SystemTable.piecesFor (SystemTable.keyspacesQuery none) name)

theorem hasQueried_step (net : Network σ) (config : ClusterConfig) (seeds : List IpAddress)
    (w : Worker ConnectionId) {events : List Event} {event : Event} (hevent : event ∈ events) :
    Keeps (HasQueried (IsMeantFor events))
      (w.step (clusterAccess net.recorded config) seeds (.event event)) := by
  refine Keeps.bind (keeps_handle ?_ ?_ w.view) fun handled => keeps_pure _
  · intro tables htables partitioner
    obtain ⟨control, -, rfl⟩ := Option.map_eq_some_iff.mp htables
    exact hasQueried_inTime net config (.inl SystemTable.pieces?_peersQuery) _ _
  · rintro change name rfl tables htables
    obtain ⟨control, -, rfl⟩ := Option.map_eq_some_iff.mp htables
    exact hasQueried_inTime net config
      (.inr ⟨change, name, hevent, SystemTable.pieces?_keyspacesQuery name⟩) _ _

theorem hasQueried_run (net : Network σ) (config : ClusterConfig) (seeds : List IpAddress)
    (w : Worker ConnectionId) {events handled : List Event} (h : handled ⊆ events) :
    Keeps (HasQueried (IsMeantFor events))
      (w.run (clusterAccess net.recorded config) seeds (handled.map .event)) := by
  induction handled generalizing w with
  | nil => exact keeps_pure _
  | cons event handled ih =>
      obtain ⟨hevent, hhandled⟩ := List.cons_subset.mp h
      refine (hasQueried_step net config seeds w hevent).bind fun after => ?_
      exact (ih after.1 hhandled).bind fun _ => keeps_pure _

/-- The literal of a name is scanned as this name and to its end, and so it is with anything behind
it but an apostrophe; nothing else is scanned as this name. In the queries for one keyspace its name
is this literal, which ends with the query, and the characters before it are those of the query for
all rows. So whatever the names in events are, a client asks for nothing else for their sake. -/
theorem quotesNames :
    (∀ name : String, Text.scanLiteral? (Text.literal name).toList = some (name, [])) ∧
      (∀ text name left, Text.scanLiteral? text = some (name, left) ↔
        text = (Text.literal name).toList ++ left ∧ left.head? ≠ some Text.apostrophe) ∧
      (∀ name,
        Text.pieces? (SystemTable.keyspacesQuery (some name)).toList =
          some (SystemTable.piecesFor (SystemTable.keyspacesQuery none) name) ∧
        Text.pieces? (SystemTable.tablesQuery (some name)).toList =
          some (SystemTable.piecesFor (SystemTable.tablesQuery none) name)) ∧
      ∀ (σ : Type) (net : Network σ) (config : ClusterConfig) (w : Worker ConnectionId)
        (events : List Event) (c : Client (σ × FrameLog)),
        let handling := w.run (clusterAccess net.recorded config) config.seeds (events.map .event)
        HasQueried (IsMeantFor events) c (handling.run c).2 := by
  refine ⟨fun name => ?_, fun text name left => Text.scanLiteral?_eq_some_iff,
    fun name => ⟨SystemTable.pieces?_keyspacesQuery name, SystemTable.pieces?_tablesQuery name⟩, ?_⟩
  · exact Text.scanLiteral?_eq_some_iff.mpr ⟨(List.append_nil _).symm, nofun⟩
  · intro σ net config w events c handling
    exact hasQueried_run net config config.seeds w (List.Subset.refl events) c

end Client

end CqlClient
