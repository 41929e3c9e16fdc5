import CqlClient.Client.ClusterAccess
import CqlClient.Proofs.Client.Opening

/-!
Which nodes a client contacts. A node is contacted when a connection to it is dialled and when
something is written on a connection. To open a connection is to dial its address once; whatever is
done on a connection after that only writes on it.
-/

namespace CqlClient

/-- A contact of a client with a node. -/
inductive Contact
  | dialled (id : ConnectionId) (address : IpAddress)
  | written (id : ConnectionId)
  deriving DecidableEq

/-- A network that keeps the contacts with its nodes. -/
def Network.contacted {σ : Type} (net : Network σ) : Network (σ × List Contact) where
  dial id address := fun (nodes, log) =>
    let (dial, nodes) := (net.dial id address).run nodes
    (dial, (nodes, log ++ [.dialled id address]))
  write id bytes := fun (nodes, log) =>
    let (reaction, nodes) := (net.write id bytes).run nodes
    (reaction, (nodes, log ++ [.written id]))
  hangUp id := fun (nodes, log) => ((), (((net.hangUp id).run nodes).2, log))

namespace Client

variable {σ α β : Type} {net : Network σ} {id : ConnectionId}

/-- Whether since a moment a client contacted nodes only by writing on a connection. -/
def HasWritten (id : ConnectionId) (before after : Client (σ × List Contact)) : Prop :=
  ∃ count, after.network.2 = before.network.2 ++ List.replicate count (.written id)

theorem HasWritten.of_eq {before after : Client (σ × List Contact)}
    (h : after.network = before.network) : HasWritten id before after :=
  ⟨0, by rw [h, List.replicate_zero, List.append_nil]⟩

theorem HasWritten.refl (c : Client (σ × List Contact)) : HasWritten id c c := .of_eq rfl

theorem HasWritten.trans {first second third : Client (σ × List Contact)}
    (h : HasWritten id first second) (hnext : HasWritten id second third) :
    HasWritten id first third := by
  obtain ⟨count, hcount⟩ := h
  obtain ⟨more, hmore⟩ := hnext
  refine ⟨count + more, ?_⟩
  rw [hmore, hcount, List.append_assoc, List.replicate_append_replicate]

instance : IsPreorder (Client (σ × List Contact)) (HasWritten id) where
  refl := .refl
  trans _ _ _ := .trans

/-- Whether an action contacts nodes only by writing on a connection. -/
abbrev OnlyWrites (id : ConnectionId) (action : StateM (Client (σ × List Contact)) α) : Prop :=
  Keeps (HasWritten id) action

theorem onlyWrites_of_network {action : StateM (Client (σ × List Contact)) α}
    (h : ∀ c, (action.run c).2.network = c.network) : OnlyWrites id action :=
  fun c => .of_eq (h c)

theorem onlyWrites_get_set {change : Client (σ × List Contact) → Client (σ × List Contact)}
    {next : Client (σ × List Contact) → StateM (Client (σ × List Contact)) α}
    (hchange : ∀ c, (change c).network = c.network) (hnext : ∀ c, OnlyWrites id (next c)) :
    OnlyWrites id (do
      let c ← get
      set (change c)
      next c) :=
  fun c => (HasWritten.of_eq (hchange c)).trans (hnext c (change c))

theorem onlyWrites_update (change : Connection → Connection) :
    OnlyWrites id (update id change : StateM (Client (σ × List Contact)) Unit) :=
  onlyWrites_of_network fun _ => rfl

theorem onlyWrites_write (bytes : Bytes) :
    OnlyWrites id (onNetwork (net.contacted.write id bytes)) :=
  fun _ => ⟨1, rfl⟩

theorem onlyWrites_shutDown (other : ConnectionId) (error : ConnectionError) :
    OnlyWrites id (shutDown net.contacted other error) :=
  fun _ => ⟨0, (List.append_nil _).symm⟩

theorem allowsWaiting_hasWritten (net : Network σ) :
    AllowsWaiting net.contacted id (HasWritten id) where
  of_eq hnetwork _ := .of_eq hnetwork
  unread _ := onlyWrites_update _
  shutDown error := onlyWrites_shutDown id error

theorem onlyWrites_submit (request : Request) :
    OnlyWrites id (submit net.contacted id request) := by
  refine (keeps_connection? id).bind fun connection => ?_
  cases connection with
  | none => exact keeps_pure _
  | some connection =>
      dsimp only
      split
      · exact keeps_pure _
      · split
        · exact keeps_pure _
        · refine onlyWrites_get_set (fun _ => rfl) fun c => ?_
          split
          · exact keeps_pure _
          · split
            · exact keeps_pure _
            · exact (onlyWrites_write _).bind fun _ => keeps_pure _

theorem onlyWrites_ask (request : Request) : OnlyWrites id (ask net.contacted id request) := by
  refine (onlyWrites_submit request).bind fun submitted => ?_
  cases submitted with
  | error e => exact keeps_pure _
  | ok ticket =>
      have hwaiting : AllowsWaiting net.contacted id (HasWritten id) := allowsWaiting_hasWritten net
      exact (hwaiting.receive _).bind fun _ => hwaiting.collect ticket

theorem onlyWrites_request (request : Request) :
    OnlyWrites id (Client.request net.contacted id request) :=
  keeps_request (onlyWrites_ask request)

theorem run_within (limit : Duration) (onTimeout : α) (action : StateM (Client σ) α)
    (c : Client σ) :
    (within limit onTimeout action).run c =
      let ended := action.run c
      if limit.isOver c.clock ended.2.clock then
        (onTimeout, { ended.2 with clock := c.clock + limit.nanoseconds })
      else ended := by
  have hrun : (within limit onTimeout action).run c =
      (if limit.isOver c.clock (action.run c).2.clock then do
        modify fun after : Client σ => { after with clock := c.clock + limit.nanoseconds }
        return onTimeout
      else return (action.run c).1 : StateM (Client σ) α).run (action.run c).2 := rfl
  rw [hrun]
  split
  · next hover => exact (if_pos hover).symm
  · next hover => exact (if_neg hover).symm

theorem run_within_eq_iff {limit : Duration} {onTimeout a : α} (h : a ≠ onTimeout)
    {action : StateM (Client σ) α} {c after : Client σ} :
    (within limit onTimeout action).run c = (a, after) ↔
      action.run c = (a, after) ∧ limit.isOver c.clock after.clock = false := by
  rw [run_within]
  dsimp only
  split
  · next hover =>
      refine ⟨fun heq => absurd (congrArg Prod.fst heq).symm h, fun ⟨heq, hinTime⟩ => ?_⟩
      rw [heq, hinTime] at hover
      exact nomatch hover
  · next hinTime =>
      refine ⟨fun heq => ⟨heq, ?_⟩, And.left⟩
      rwa [heq, Bool.not_eq_true] at hinTime

theorem network_run_within (limit : Duration) (onTimeout : α) (action : StateM (Client σ) α)
    (c : Client σ) :
    ((within limit onTimeout action).run c).2.network = (action.run c).2.network := by
  rw [run_within]
  dsimp only
  split <;> rfl

theorem keeps_within {R : Client σ → Client σ → Prop} [IsPreorder (Client σ) R]
    (hnetwork : ∀ {before after : Client σ}, after.network = before.network → R before after)
    {action : StateM (Client σ) α} (h : Keeps R action) (limit : Duration) (onTimeout : α) :
    Keeps R (within limit onTimeout action) :=
  fun c => trans_of R (h c) (hnetwork (network_run_within limit onTimeout action c))

theorem onlyWrites_handshake_finish (config : ConnectionConfig) (rounds : Nat) :
    OnlyWrites id (handshake net.contacted id config rounds .finish) := by
  rw [handshake]
  refine (keeps_phase id).bind fun current => ?_
  split
  · exact keeps_pure _
  · exact (onlyWrites_update _).bind fun _ => keeps_pure _

theorem onlyWrites_handshake (config : ConnectionConfig) (rounds : Nat) (step : Handshake.Step) :
    OnlyWrites id (handshake net.contacted id config rounds step) := by
  induction rounds generalizing step with
  | zero =>
      cases step with
      | fail e => exact keeps_pure _
      | finish => exact onlyWrites_handshake_finish config 0
      | _ => exact keeps_pure _
  | succ rounds ih =>
      cases step with
      | fail e => exact keeps_pure _
      | finish => exact onlyWrites_handshake_finish config _
      | enter phase next =>
          refine (keeps_phase id).bind fun current => ?_
          split
          · exact (onlyWrites_update _).bind fun _ => ih next
          · exact keeps_pure _
      | send request awaited =>
          refine (onlyWrites_ask request).bind fun answer => ?_
          dsimp only
          split
          · exact (onlyWrites_update _).bind fun _ => ih _
          · exact (keeps_pure _).bind fun _ => ih _

/-- Whether since a moment a client dialled a connection, and then contacted nodes only by writing
on it. -/
def HasDialled (id : ConnectionId) (address : IpAddress)
    (before after : Client (σ × List Contact)) : Prop :=
  ∃ count, after.network.2 =
    before.network.2 ++ .dialled id address :: List.replicate count (.written id)

theorem HasDialled.trans {address : IpAddress} {first second third : Client (σ × List Contact)}
    (h : HasDialled id address first second) (hnext : HasWritten id second third) :
    HasDialled id address first third := by
  obtain ⟨count, hcount⟩ := h
  obtain ⟨more, hmore⟩ := hnext
  refine ⟨count + more, ?_⟩
  rw [hmore, hcount, List.append_assoc, List.cons_append, List.replicate_append_replicate]

theorem hasDialled_bind {address : IpAddress} {c before : Client (σ × List Contact)}
    {first : StateM (Client (σ × List Contact)) β}
    {next : β → StateM (Client (σ × List Contact)) α}
    (h : HasDialled id address c (first.run before).2) (hnext : ∀ b, OnlyWrites id (next b)) :
    HasDialled id address c ((first >>= next).run before).2 :=
  h.trans (hnext _ _)

theorem hasDialled_dial (net : Network σ) (id : ConnectionId) (connection : Connection)
    (c : Client (σ × List Contact)) :
    HasDialled id connection.address c ((dial net.contacted id connection).run c).2 := by
  refine ⟨0, ?_⟩
  rw [dial, network_run_within, run_bind]
  split <;> rfl

theorem hasDialled_openConnection (net : Network σ) {connection : Connection}
    {c : Client (σ × List Contact)} (hconnection : c.connections.get? id = some connection)
    (hcreated : connection.phase = .created) :
    HasDialled id connection.address c ((openConnection net.contacted id).run c).2 := by
  have hrun : (connection? id).run c = (some connection, c) := by
    rw [← hconnection]
    rfl
  rw [openConnection, run_bind, hrun]
  dsimp only
  rw [if_neg (not_not.mpr hcreated), run_bind, run_bind]
  have hdialled := hasDialled_dial net id connection
    ((update id fun connection => { connection with phase := .connecting }).run c).2
  refine HasDialled.trans hdialled ?_
  split
  · exact (onlyWrites_shutDown _ _).bind (fun _ => keeps_pure _) _
  · refine (onlyWrites_handshake _ _ _).bind (fun result => ?_) _
    split
    · exact keeps_pure _
    · exact (onlyWrites_shutDown _ _).bind fun _ => keeps_pure _

section Control

variable {config : ClusterConfig}

theorem onlyWrites_register (net : Network σ) (eventTypes : List EventType) :
    OnlyWrites id (register net.contacted id eventTypes) := by
  refine (onlyWrites_request _).bind fun answer => ?_
  split <;> exact keeps_pure _

theorem keeps_asking {R : Client σ → Client σ → Prop} [IsPreorder (Client σ) R] {net : Network σ}
    {contents : String} (h : Keeps R (ask net id (singlePage contents).request)) :
    Keeps R (asking net id contents) := by
  refine Keeps.bind ?_ fun result => keeps_pure _
  refine (keeps_request h).bind fun answer => (keeps_connection? id).bind fun found => ?_
  split <;> exact keeps_pure _

theorem keeps_queryAnd {R : Client σ → Client σ → Prop} [IsPreorder (Client σ) R]
    {ask : SystemTable.Asking (Client σ)} {contents : String} (h : Keeps R (ask contents))
    (table : String) (read : SystemTable.Contents → Except MetadataError α) :
    Keeps R (SystemTable.queryAnd ask table contents read) := by
  refine Keeps.bind ?_ fun result => keeps_pure _
  refine h.bind fun answer => ?_
  split <;> exact keeps_pure _

theorem onlyWrites_exceptT {first : StateM (Client (σ × List Contact)) (Except MetadataError β)}
    {next : β → ExceptT MetadataError (StateM (Client (σ × List Contact))) α}
    (h : OnlyWrites id first) (hnext : ∀ b, OnlyWrites id (next b).run) :
    OnlyWrites id (ExceptT.mk first >>= next).run := by
  have hrun : (ExceptT.mk first >>= next).run = first >>= ExceptT.bindCont next := rfl
  rw [hrun]
  refine h.bind fun result => ?_
  cases result with
  | error e => exact keeps_pure _
  | ok b => exact hnext b

theorem onlyWrites_readAll (net : Network σ) (config : ClusterConfig) (address : IpAddress) :
    OnlyWrites id ((clusterAccess net.contacted config).readAll id address) := by
  have hask : ∀ contents, OnlyWrites id (asking net.contacted id contents) :=
    fun contents => keeps_asking (onlyWrites_ask _)
  refine keeps_within .of_eq ?_ _ _
  refine onlyWrites_exceptT (keeps_queryAnd (hask _) _ _) fun node => ?_
  refine onlyWrites_exceptT (keeps_queryAnd (hask _) _ _) fun peers => ?_
  refine onlyWrites_exceptT (keeps_queryAnd (hask _) _ _) fun keyspaces => ?_
  refine onlyWrites_exceptT (keeps_queryAnd (hask _) _ _) fun tables => ?_
  exact keeps_pure _

/-- Whether a node accepts a control connection: a new connection to it can be opened and registered
for events in the time of a request. -/
inductive Accepts (net : Network σ) (config : ClusterConfig) (address : IpAddress)
    (before : Client σ) : ConnectionId → Client σ → Prop
  | intro {id : ConnectionId} {fresh opened after : Client σ}
      (created : (newConnection address { config.connection with keyspace := none } true).run
        before = (id, fresh))
      (opens : (openConnection net id).run fresh = (.ok (), opened))
      (registers : (register net id config.eventTypes).run opened = (.ok (), after))
      (inTime : config.requestDeadline.isOver fresh.clock after.clock = false) :
      Accepts net config address before id after

theorem run_openControl_eq_ok_iff {net : Network σ} {address : IpAddress}
    {before after : Client σ} :
    (openControl net config address).run before = (.ok id, after) ↔
      Accepts net config address before id after := by
  rcases hcreated : (newConnection address { config.connection with keyspace := none } true).run
    before with ⟨fresh, c⟩
  rw [openControl, run_bind, hcreated]
  dsimp only
  rw [run_bind]
  constructor
  · intro h
    generalize hended : (within _ _ _).run c = ended at h
    obtain ⟨result, last⟩ := ended
    cases result with
    | error e => exact nomatch h
    | ok =>
        obtain ⟨rfl, rfl⟩ : fresh = id ∧ last = after := by
          obtain ⟨⟩ := h
          exact ⟨rfl, rfl⟩
        obtain ⟨hrun, hinTime⟩ := (run_within_eq_iff (by simp)).mp hended
        rw [run_bind] at hrun
        rcases hopens : (openConnection net fresh).run c with ⟨e | ⟨⟩, opened⟩
        · rw [hopens] at hrun
          exact nomatch hrun
        · rw [hopens] at hrun
          dsimp only at hrun
          rw [run_bind] at hrun
          rcases hregisters : (register net fresh config.eventTypes).run opened with
            ⟨e | ⟨⟩, registered⟩
          · rw [hregisters] at hrun
            exact nomatch hrun
          · rw [hregisters] at hrun
            obtain ⟨⟩ := hrun
            exact .intro hcreated hopens hregisters hinTime
  · rintro ⟨created, opens, registers, inTime⟩
    obtain ⟨rfl, rfl⟩ := Prod.mk.inj (hcreated.symm.trans created)
    rw [(run_within_eq_iff (a := .ok ()) (by simp)).mpr ⟨?_, inTime⟩]
    · rfl
    · rw [run_bind, opens]
      dsimp only
      rw [run_bind, registers]
      rfl

theorem get?_run_newConnection (address : IpAddress) (config : ConnectionConfig)
    (listens : Bool) (c : Client σ) :
    let fresh := (newConnection address config listens).run c
    fresh.2.connections.get? fresh.1 =
      some { address, config, listens, createdAt := c.clock } :=
  (Assoc.get?_insert ..).trans (if_pos rfl)

theorem hasDialled_openControl (net : Network σ) (config : ClusterConfig) (address : IpAddress)
    (c : Client (σ × List Contact)) :
    let fresh := (newConnection address { config.connection with keyspace := none } true).run c
    HasDialled fresh.1 address c ((openControl net.contacted config address).run c).2 := by
  intro fresh
  have hfresh := get?_run_newConnection address { config.connection with keyspace := none } true c
  rw [openControl, run_bind]
  refine hasDialled_bind ?_ fun result => ?_
  · rw [HasDialled, network_run_within]
    refine hasDialled_bind (hasDialled_openConnection net hfresh rfl) fun result => ?_
    split
    · exact keeps_pure _
    · exact (onlyWrites_register net _).bind fun _ => keeps_pure _
  · split
    · exact keeps_pure _
    · exact (onlyWrites_shutDown _ _).bind fun _ => keeps_pure _

theorem Accepts.hasDialled {net : Network σ} {address : IpAddress}
    {before after : Client (σ × List Contact)}
    (h : Accepts net.contacted config address before id after) :
    HasDialled id address before after := by
  have hdialled := hasDialled_openControl net config address before
  rw [run_openControl_eq_ok_iff.mpr h] at hdialled
  cases h with
  | intro created opens registers inTime =>
      rwa [created] at hdialled

/-- Whether nodes were tried for a control connection, each once the former had refused it. -/
inductive Refused (net : Network σ) (config : ClusterConfig) :
    List IpAddress → Client σ → Client σ → Prop
  | none (c : Client σ) : Refused net config [] c c
  | tried {address : IpAddress} {rest : List IpAddress} {before last : Client σ}
      (refuses : ∀ id after, ¬ Accepts net config address before id after)
      (others : Refused net config rest ((openControl net config address).run before).2 last) :
      Refused net config (address :: rest) before last

/-- Candidates are tried in their order until one accepts. -/
theorem openAny_openControl (net : Network σ) (config : ClusterConfig)
    (candidates : List IpAddress) (c : Client σ) :
    let ended := (ControlConnection.openAny (openControl net config) candidates).run c
    (∃ tried address rest before id, candidates = tried ++ address :: rest ∧
        Refused net config tried c before ∧ Accepts net config address before id ended.2 ∧
          ended.1 = .ok (address, id)) ∨
      Refused net config candidates c ended.2 ∧ ∃ e, ended.1 = .error e := by
  rw [ControlConnection.openAny]
  generalize ConnectionError.closed = last
  induction candidates generalizing last c with
  | nil => exact .inr ⟨.none c, last, rfl⟩
  | cons address rest ih =>
      rcases htry : (openControl net config address).run c with ⟨e | id, after⟩
      · have hrun : (ControlConnection.openFirst (openControl net config) last
            (address :: rest)).run c =
            (ControlConnection.openFirst (openControl net config) e rest).run after := by
          rw [ControlConnection.openFirst, run_bind, htry]
        have hrefuses : ∀ id other, ¬ Accepts net config address c id other :=
          fun id other haccepts =>
            nomatch htry.symm.trans (run_openControl_eq_ok_iff.mpr haccepts)
        rw [hrun]
        refine (ih after e).imp ?_ ?_
        · rintro ⟨tried, next, later, before, id, rfl, hrefused, haccepts, hended⟩
          exact ⟨address :: tried, next, later, before, id, rfl,
            .tried hrefuses (htry ▸ hrefused), haccepts, hended⟩
        · rintro ⟨hrefused, hended⟩
          exact ⟨.tried hrefuses (htry ▸ hrefused), hended⟩
      · have hrun : (ControlConnection.openFirst (openControl net config) last
            (address :: rest)).run c = (.ok (address, id), after) := by
          rw [ControlConnection.openFirst, run_bind, htry]
          rfl
        rw [hrun]
        exact .inl ⟨[], address, rest, c, id, rfl, .none c, run_openControl_eq_ok_iff.mp htry, rfl⟩

theorem exists_accepts_of_openAny {net : Network σ} {candidates : List IpAddress}
    {address : IpAddress} {c after : Client σ}
    (h : (ControlConnection.openAny (openControl net config) candidates).run c =
      (.ok (address, id), after)) :
    ∃ tried rest before, candidates = tried ++ address :: rest ∧
      Refused net config tried c before ∧ Accepts net config address before id after := by
  have hended := openAny_openControl net config candidates c
  rw [h] at hended
  obtain ⟨tried, first, rest, before, other, heq, hrefused, haccepts, hok⟩ | ⟨-, e, herror⟩ :=
    hended
  · obtain ⟨⟩ := hok
    exact ⟨tried, rest, before, heq, hrefused, haccepts⟩
  · exact nomatch herror

theorem refused_of_openAny {net : Network σ} {candidates : List IpAddress} {e : ConnectionError}
    {c after : Client σ}
    (h : (ControlConnection.openAny (openControl net config) candidates).run c =
      (.error e, after)) :
    Refused net config candidates c after := by
  have hended := openAny_openControl net config candidates c
  rw [h] at hended
  obtain ⟨tried, first, rest, before, other, -, -, -, hok⟩ | ⟨hrefused, -⟩ := hended
  · exact nomatch hok
  · exact hrefused

/-- Whether contacts are with given nodes only, one after another: each was dialled once and then
written to on this connection. -/
inductive ContactsWith : List IpAddress → List Contact → Prop
  | none : ContactsWith [] []
  | node {address : IpAddress} {rest : List IpAddress} {contacts : List Contact}
      (id : ConnectionId) (count : Nat) (others : ContactsWith rest contacts) :
      ContactsWith (address :: rest)
        (.dialled id address :: (List.replicate count (.written id) ++ contacts))

/-- Whether since a moment a client contacted given nodes only. -/
def HasContacted (addresses : List IpAddress) (before after : Client (σ × List Contact)) : Prop :=
  ∃ contacts, after.network.2 = before.network.2 ++ contacts ∧ ContactsWith addresses contacts

theorem HasDialled.cons {address : IpAddress} {rest : List IpAddress}
    {first second third : Client (σ × List Contact)} (h : HasDialled id address first second)
    (hothers : HasContacted rest second third) : HasContacted (address :: rest) first third := by
  obtain ⟨count, hcount⟩ := h
  obtain ⟨contacts, hcontacts, hwith⟩ := hothers
  refine ⟨_, ?_, .node id count hwith⟩
  rw [hcontacts, hcount, List.append_assoc, List.cons_append]

theorem hasContacted_nil (c : Client (σ × List Contact)) : HasContacted [] c c :=
  ⟨[], (List.append_nil _).symm, .none⟩

theorem Refused.hasContacted_append {net : Network σ} {tried others : List IpAddress}
    {before middle after : Client (σ × List Contact)}
    (h : Refused net.contacted config tried before middle)
    (hothers : HasContacted others middle after) : HasContacted (tried ++ others) before after := by
  induction h with
  | none c => exact hothers
  | tried refuses rest ih => exact (hasDialled_openControl net config _ _).cons (ih hothers)

end Control

end Client

end CqlClient
