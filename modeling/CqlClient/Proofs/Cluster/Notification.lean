import CqlClient.Proofs.Cluster.Following
import CqlClient.Proofs.Cluster.UnlistedPeer

namespace CqlClient

/-- What listeners are to be told about an event; nothing about an invalid change of the schema. -/
def Event.notice? : Event → Option Notice
  | .topology .newNode node => some (.joined node.ip)
  | .topology .removedNode node => some (.left node.ip)
  | .topology .movedNode node => some (.moved node.ip)
  | .status .up node => some (.wentUp node.ip)
  | .status .down node => some (.wentDown node.ip)
  | .schema .invalid _ _ => none
  | .schema change keyspace none => some (.keyspaceChanged change keyspace)
  | .schema change keyspace (some table) => some (.tableChanged change keyspace table)

/-- Whether a directory has the news. Whether a keyspace is known that was created depends on what
could be read, and so do its tables. -/
def Notice.IsReflectedIn : Notice → Snapshot → Prop
  | .joined address, s => ∃ peer, s.peer? address = some peer
  | .left address, s => s.peer? address = none
  | .moved address, s => ∃ peer, s.peer? address = some peer
  | .wentUp address, s => ∃ peer, s.peer? address = some peer ∧ peer.isUp = true
  | .wentDown address, s => ∀ peer, s.peer? address = some peer → peer.isUp = false
  | .keyspaceChanged change keyspace, s => change = .dropped → s.keyspace? keyspace = none
  | .tableChanged change keyspace table, s =>
      ∀ known, s.keyspace? keyspace = some known → (table ∈ known.tables ↔ change ≠ .dropped)

theorem Snapshot.Indexed.keyspace?_updateKeyspace {s : Snapshot} (h : s.Indexed) (name : String)
    {change : Keyspace → Keyspace} (hname : ∀ keyspace, (change keyspace).name = keyspace.name) :
    (s.updateKeyspace name change).keyspace? name = (s.keyspace? name).map change := by
  cases hget : s.keyspace? name with
  | none => simp only [Snapshot.updateKeyspace, hget, Option.map_none]
  | some keyspace =>
      simp only [Snapshot.updateKeyspace, hget, Option.map_some]
      rw [keyspace?, Assoc.get?_insert, hname, h.keyspace_name name keyspace hget, if_pos rfl]

theorem Snapshot.peer?_addPeer_self (s : Snapshot) {peer : Peer} {address : IpAddress}
    (h : peer.address = address) : (s.addPeer peer).peer? address = some peer :=
  (s.peer?_addPeer peer address).trans (if_pos h.symm)

theorem ListenerCall.all_append (listeners : List String) (first others : List Announcement) :
    all listeners (first ++ others) = all listeners first ++ all listeners others :=
  List.flatMap_append

namespace ClusterView

variable {σ : Type} {v : ClusterView}

theorem exists_peer?_markUp (v : ClusterView) (peer : Peer) : ∃ found,
    (v.markUp peer).snapshot.peer? peer.address = some found ∧ found.isUp = true := by
  rw [markUp]
  cases hget : v.snapshot.peer? peer.address with
  | none =>
      exact ⟨peer.withStatus true, v.snapshot.peer?_addPeer_self rfl, rfl⟩
  | some known =>
      refine ⟨known.withStatus true, ?_, rfl⟩
      refine (v.snapshot.peer?_setStatus peer.address peer.address true).trans ?_
      rw [if_pos rfl, hget, Option.map_some]

/-- Whether an event was handled as it should be: one announcement at most, of the event itself and
with the directory as it is now, which has the news. -/
structure Tells (event : Event) (after : ClusterView) (announcements : List Announcement) :
    Prop where
  announcements_eq : announcements = (event.notice?.map after.announce).toList
  reflected : ∀ notice ∈ event.notice?, notice.IsReflectedIn after.snapshot
  indexed : after.snapshot.Indexed

theorem tells_topology (h : v.snapshot.Indexed) (reads : Option (TableReads σ))
    (change : TopologyChange) (node : Endpoint) (nodes : σ) :
    let handled := (v.handle reads (.topology change node)).run nodes
    Tells (.topology change node) handled.1.1 handled.1.2 := by
  intro handled
  have hindexed : handled.1.1.snapshot.Indexed := indexed_handle h reads _ nodes
  have haddress := address_readPeer v reads node.ip nodes
  cases change with
  | newNode =>
      refine ⟨?_, ?_, hindexed⟩
      · exact congrArg (fun address => [announce _ (.joined address)]) haddress
      · rintro notice ⟨⟩
        exact ⟨_, (congrArg (·.peer? node.ip) (v.snapshot_join _)).trans
          (v.snapshot.peer?_addPeer_self haddress)⟩
  | removedNode =>
      refine ⟨rfl, ?_, hindexed⟩
      rintro notice ⟨⟩
      exact (v.snapshot.peer?_removePeer node.ip node.ip).trans (if_pos rfl)
  | movedNode =>
      refine ⟨?_, ?_, hindexed⟩
      · exact congrArg (fun address => [announce _ (.moved address)]) haddress
      · rintro notice ⟨⟩
        refine ⟨_, (congrArg (·.peer? node.ip) (v.snapshot_move _)).trans
          (Snapshot.peer?_addPeer_self _ ?_)⟩
        exact haddress

theorem tells_status (h : v.snapshot.Indexed) (reads : Option (TableReads σ))
    (change : StatusChange) (node : Endpoint) (nodes : σ) :
    let handled := (v.handle reads (.status change node)).run nodes
    Tells (.status change node) handled.1.1 handled.1.2 := by
  intro handled
  have hindexed : handled.1.1.snapshot.Indexed := indexed_handle h reads _ nodes
  cases change with
  | up =>
      obtain ⟨peer, haddress, hhandled⟩ := exists_markUp_of_handle h reads node nodes
      change handled.1 = v.apply (.markUp peer) at hhandled
      rw [hhandled] at hindexed ⊢
      refine ⟨?_, ?_, hindexed⟩
      · exact congrArg (fun address => [announce _ (.wentUp address)]) haddress
      · rintro notice ⟨⟩
        exact haddress ▸ v.exists_peer?_markUp peer
  | down =>
      refine ⟨rfl, ?_, hindexed⟩
      rintro notice ⟨⟩ peer hpeer
      have hdown := hpeer.symm.trans (v.snapshot.peer?_setStatus node.ip node.ip false)
      rw [if_pos rfl, eq_comm, Option.map_eq_some_iff] at hdown
      obtain ⟨known, -, rfl⟩ := hdown
      rfl

theorem tells_keyspaceChange (h : v.snapshot.Indexed) (reads : Option (TableReads σ))
    (change : SchemaChange) (keyspace : String) (nodes : σ) :
    let handled := (v.handle reads (.schema change keyspace none)).run nodes
    Tells (.schema change keyspace none) handled.1.1 handled.1.2 := by
  intro handled
  have hindexed : handled.1.1.snapshot.Indexed := indexed_handle h reads _ nodes
  cases change with
  | created =>
      refine ⟨rfl, ?_, hindexed⟩
      rintro notice ⟨⟩ hdropped
      exact nomatch hdropped
  | updated =>
      refine ⟨rfl, ?_, hindexed⟩
      rintro notice ⟨⟩ hdropped
      exact nomatch hdropped
  | dropped =>
      refine ⟨rfl, ?_, hindexed⟩
      rintro notice ⟨⟩ -
      exact (v.snapshot.keyspace?_removeKeyspace keyspace keyspace).trans (if_pos rfl)
  | invalid => exact ⟨rfl, nofun, hindexed⟩

theorem mem_tables_handleTableChange (h : v.snapshot.Indexed) {keyspace table : String}
    {change : SchemaChange} (hchange : change ≠ .invalid) {known : Keyspace}
    (hknown : (v.handleTableChange keyspace table change).snapshot.keyspace? keyspace =
      some known) : table ∈ known.tables ↔ change ≠ .dropped := by
  have hadded : (v.snapshot.addTable keyspace table).keyspace? keyspace = some known →
      table ∈ known.tables := by
    intro hget
    have hmap := hget.symm.trans (h.keyspace?_updateKeyspace keyspace fun _ => rfl)
    obtain ⟨old, -, rfl⟩ := Option.map_eq_some_iff.mp hmap.symm
    exact mem_insertName.mpr (.inl rfl)
  cases change with
  | created => simpa using hadded hknown
  | updated => simpa using hadded hknown
  | dropped =>
      have hmap := hknown.symm.trans (h.keyspace?_updateKeyspace keyspace fun _ => rfl)
      obtain ⟨old, -, rfl⟩ := Option.map_eq_some_iff.mp hmap.symm
      simp [Keyspace.removeTable]
  | invalid => exact absurd rfl hchange

theorem tells_tableChange (h : v.snapshot.Indexed) (reads : Option (TableReads σ))
    (change : SchemaChange) (keyspace table : String) (nodes : σ) :
    let handled := (v.handle reads (.schema change keyspace (some table))).run nodes
    Tells (.schema change keyspace (some table)) handled.1.1 handled.1.2 := by
  intro handled
  have hindexed : handled.1.1.snapshot.Indexed := indexed_handle h reads _ nodes
  by_cases hchange : change = .invalid
  · subst hchange
    exact ⟨rfl, nofun, h⟩
  · have hnotice : Event.notice? (.schema change keyspace (some table)) =
        some (.tableChanged change keyspace table) := by
      cases change with
      | invalid => exact absurd rfl hchange
      | _ => rfl
    refine ⟨?_, ?_, hindexed⟩
    · rw [hnotice]
      exact if_neg hchange
    · rw [hnotice]
      rintro notice ⟨⟩ known hknown
      exact mem_tables_handleTableChange h hchange hknown

theorem tells_handle (h : v.snapshot.Indexed) (reads : Option (TableReads σ)) (event : Event)
    (nodes : σ) :
    Tells event ((v.handle reads event).run nodes).1.1 ((v.handle reads event).run nodes).1.2 := by
  cases event with
  | topology change node => exact tells_topology h reads change node nodes
  | status change node => exact tells_status h reads change node nodes
  | schema change keyspace table =>
      cases table with
      | none => exact tells_keyspaceChange h reads change keyspace nodes
      | some table => exact tells_tableChange h reads change keyspace table nodes

theorem run_handle_of_notice?_eq_none {event : Event} (hevent : event.notice? = none)
    (v : ClusterView) (reads : Option (TableReads σ)) (nodes : σ) :
    (v.handle reads event).run nodes = ((v, []), nodes) := by
  cases event with
  | topology change node => cases change <;> exact nomatch hevent
  | status change node => cases change <;> exact nomatch hevent
  | schema change keyspace table =>
      cases change with
      | invalid => cases table <;> rfl
      | _ => cases table <;> exact nomatch hevent

end ClusterView

namespace Worker

variable {σ κ : Type} {access : ClusterAccess σ κ} {seeds : List IpAddress} {w : Worker κ}

/-- Whether an event was made known to all listeners as it should be: each of them is called once
and in its turn, with the directory as it is afterwards, which has the news. Of an event that they
are told nothing about nothing comes at all. -/
structure MakesKnown (listeners : List String) (event : Event)
    (before after : (Worker κ × List Announcement) × σ) : Prop where
  calls_eq : ListenerCall.all listeners after.1.2 = ListenerCall.all listeners before.1.2 ++
    event.notice?.toList.flatMap fun notice =>
      listeners.map (⟨·, ⟨notice, after.1.1.view.snapshot⟩⟩)
  reflected : ∀ notice ∈ event.notice?, notice.IsReflectedIn after.1.1.view.snapshot
  eq_before : event.notice? = none → after = before

theorem makesKnown_event (h : w.view.snapshot.Indexed) (access : ClusterAccess σ κ)
    (seeds : List IpAddress) (listeners : List String) (event : Event)
    (told : List Announcement) (nodes : σ) :
    let handled := (w.step access seeds (.event event)).run nodes
    MakesKnown listeners event ((w, told), nodes)
      ((handled.1.1, told ++ handled.1.2), handled.2) := by
  intro handled
  obtain ⟨hannouncements, hreflected, -⟩ :=
    ClusterView.tells_handle h (w.control.map fun control => access.reads control.2) event nodes
  refine ⟨?_, hreflected, fun hnone => ?_⟩
  · rw [ListenerCall.all_append]
    refine congrArg (_ ++ ·) ((congrArg (ListenerCall.all listeners) hannouncements).trans ?_)
    cases event.notice? with
    | none => rfl
    | some notice => rfl
  · have hhandle := ClusterView.run_handle_of_notice?_eq_none hnone w.view
      (w.control.map fun control => access.reads control.2) nodes
    have hhandled : handled = ((w, []), nodes) := run_bind_of_run hhandle
    rw [hhandled, List.append_nil]

/-- Each event that a worker handles is made known to all listeners, in the order of the events
and, of each event, in the order of the listeners, whatever came before and whatever can be read. -/
theorem makesKnown_run {config : ClusterConfig} {firstCounter : String → Nat}
    {met : List Announcement} {start nodes : σ}
    (hfound : (discover access config firstCounter).run start = (.ok (w, met), nodes))
    (listeners : List String) (earlier : List WorkerInput) :
    let after (inputs : List WorkerInput) := (w.run access config.seeds inputs).run nodes
    (∀ event, MakesKnown listeners event (after earlier) (after (earlier ++ [.event event]))) ∧
      ∀ events : List Event, ∃ calls,
        ListenerCall.all listeners (after (earlier ++ events.map .event)).1.2 =
            ListenerCall.all listeners (after earlier).1.2 ++ calls ∧
          calls.map (fun call => (call.listener, call.announcement.notice)) =
            (events.filterMap Event.notice?).flatMap fun notice => listeners.map (·, notice) := by
  intro after
  have hevent : ∀ earlier event,
      MakesKnown listeners event (after earlier) (after (earlier ++ [.event event])) := by
    intro earlier event
    have hindexed := indexed_run (indexed_discover hfound) access config.seeds earlier nodes
    have hafter : after (earlier ++ [.event event]) = _ := run_concat access _ w earlier _ nodes
    rw [hafter]
    exact makesKnown_event hindexed access config.seeds listeners event _ _
  refine ⟨hevent earlier, fun events => ?_⟩
  induction events generalizing earlier with
  | nil => exact ⟨[], by simp, rfl⟩
  | cons event events ih =>
      obtain ⟨calls, hcalls, hnotices⟩ := ih (earlier ++ [.event event])
      rw [List.append_assoc, List.singleton_append, (hevent earlier event).calls_eq,
        List.append_assoc] at hcalls
      refine ⟨_, hcalls, ?_⟩
      rw [List.map_append, hnotices]
      cases hnotice : event.notice? with
      | none => simp [hnotice]
      | some notice => simp [hnotice, Function.comp_def]

/-- Nodes that can all be reached, of which only one can be asked for its peers. -/
def askable : ClusterAccess Unit Unit where
  openControl _ := return .ok ()
  closeControl _ := return
  readAll _ _ := return .ok (ClusterView.twoNodes ["t"])
  reads _ := ClusterView.otherPeers
  unreachable _ := return []

/-- A node goes down, a change of the schema cannot be made out, and a keyspace is dropped. -/
theorem makesKnown_run_askable : ∃ w met,
    (discover askable firstSeed fun _ => 0).run () = (.ok (w, met), ()) ∧
      (ListenerCall.all ["first", "second"] ((w.run askable firstSeed.seeds
          [.event (.status .down ⟨.ofOctets 10 0 0 2, 9042⟩), .event (.schema .invalid "ks" none),
            .event (.schema .dropped "ks" none)]).run ()).1.2).map
          (fun call => (call.listener, call.announcement.notice)) =
        [("first", .wentDown (.ofOctets 10 0 0 2)), ("second", .wentDown (.ofOctets 10 0 0 2)),
          ("first", .keyspaceChanged .dropped "ks"),
          ("second", .keyspaceChanged .dropped "ks")] := by
  obtain ⟨w, met, hfound⟩ : ∃ w met,
    (discover askable firstSeed fun _ => 0).run () = (.ok (w, met), ()) := ⟨_, _, rfl⟩
  refine ⟨w, met, hfound, ?_⟩
  obtain ⟨calls, hcalls, hnotices⟩ := (makesKnown_run hfound ["first", "second"] []).2
    [.status .down ⟨.ofOctets 10 0 0 2, 9042⟩, .schema .invalid "ks" none,
      .schema .dropped "ks" none]
  exact (congrArg (List.map _) hcalls).trans hnotices

end Worker

end CqlClient
