import CqlClient.Cluster.Worker

namespace CqlClient

theorem run_bind_of_run {σ α β : Type} {first : StateM σ α} {next : α → StateM σ β} {a : α}
    {nodes later : σ} (h : first.run nodes = (a, later)) :
    (first >>= next).run nodes = (next a).run later := by
  rw [StateT.run_bind, h]
  rfl

namespace Worker

variable {σ κ : Type} {access : ClusterAccess σ κ} {seeds : List IpAddress} {w : Worker κ}
  {nodes later : σ}

/-- Whether the control connection is registered with a node, one of some candidates, and everything
can be read through it. -/
inductive Registers (access : ClusterAccess σ κ) (candidates : List IpAddress) (nodes : σ)
    (address : IpAddress) (metadata : ClusterMetadata) : κ → σ → Prop
  | intro {control : κ} {opened read : σ}
      (opens : (ControlConnection.openAny access.openControl candidates).run nodes =
        (.ok (address, control), opened))
      (reads : (access.readAll control address).run opened = (.ok metadata, read)) :
      Registers access candidates nodes address metadata control read

instance (access : ClusterAccess σ κ) (candidates : List IpAddress) (nodes : σ) :
    Decidable (∃ address metadata control read,
      Registers access candidates nodes address metadata control read) :=
  match hopen : (ControlConnection.openAny access.openControl candidates).run nodes with
  | (.error _, _) => isFalse fun ⟨_, _, _, _, ⟨opens, _⟩⟩ => nomatch hopen.symm.trans opens
  | (.ok (address, control), opened) =>
      match hread : (access.readAll control address).run opened with
      | (.error _, _) => isFalse fun ⟨_, _, _, _, ⟨opens, reads⟩⟩ => by
          obtain ⟨⟩ := hopen.symm.trans opens
          exact nomatch hread.symm.trans reads
      | (.ok metadata, read) => isTrue ⟨address, metadata, control, read, .intro hopen hread⟩

/-- A cluster that was found is seen as the tables of a seed tell, but for the nodes that are marked
down since they could not be reached. -/
theorem exists_of_discover {config : ClusterConfig} {firstCounter : String → Nat}
    {met : List Announcement}
    (hfound : (discover access config firstCounter).run nodes = (.ok (w, met), later)) :
    ∃ address control metadata read,
      Registers access config.seeds nodes address metadata control read ∧
        let seen := (({ routing := config.routing, firstCounter } : ClusterView).applyMetadata
          metadata).1
        let others := seen.snapshot.peers.keys.filter (· ≠ address)
        w = { view := (markAllDown seen ((access.unreachable others).run read).1).1,
              control := some (address, control) } := by
  rw [discover] at hfound
  split at hfound
  · exact nomatch hfound
  · rcases hopen : (ControlConnection.openAny access.openControl config.seeds).run nodes with
      ⟨e | ⟨address, control⟩, opened⟩
    · exact nomatch (run_bind_of_run hopen).symm.trans hfound
    · have hopened := (run_bind_of_run hopen).symm.trans hfound
      rcases hread : (access.readAll control address).run opened with ⟨e | metadata, last⟩
      · exact nomatch (run_bind_of_run hread).symm.trans hopened
      · obtain ⟨⟩ := (run_bind_of_run hread).symm.trans hopened
        exact ⟨address, control, metadata, last, .intro hopen hread, rfl⟩

/-- The worker of a cluster that is found, with the nodes as they are then. -/
def found? (access : ClusterAccess σ κ) (config : ClusterConfig) (nodes : σ) :
    Option (Worker κ × σ) :=
  match (discover access config fun _ => 0).run nodes with
  | (.ok (w, _), later) => some (w, later)
  | (.error _, _) => none

theorem exists_of_found? {config : ClusterConfig} (h : (w, later) ∈ found? access config nodes) :
    ∃ met, (discover access config fun _ => 0).run nodes = (.ok (w, met), later) := by
  rw [found?] at h
  split at h
  · next met later hfound =>
      obtain ⟨⟩ := h
      exact ⟨met, hfound⟩
  · exact nomatch h

theorem run_register_of_error {e : ConnectionError}
    (hopen : (ControlConnection.openAny access.openControl
      (ControlConnection.candidates seeds w.view.snapshot)).run nodes = (.error e, later)) :
    (w.register access seeds).run nodes =
      (({ w with control := none, isUnavailable := true }, []), later) := by
  exact run_bind_of_run hopen

theorem Registers.run_register {address : IpAddress} {metadata : ClusterMetadata} {control : κ}
    (h : Registers access (ControlConnection.candidates seeds w.view.snapshot) nodes address
      metadata control later) :
    (w.register access seeds).run nodes =
      (({ w with view := (w.view.applyMetadata metadata).1, control := some (address, control) },
        (w.view.applyMetadata metadata).2), later) := by
  obtain ⟨opens, reads⟩ := h
  exact (run_bind_of_run opens).trans (run_bind_of_run reads)

theorem run_register_of_ok {address : IpAddress} {control : κ}
    (hopen : (ControlConnection.openAny access.openControl
      (ControlConnection.candidates seeds w.view.snapshot)).run nodes =
        (.ok (address, control), later)) :
    ∃ view announcements, (w.register access seeds).run nodes =
        (({ w with view, control := some (address, control) }, announcements),
          ((access.readAll control address).run later).2) ∧
      (view = w.view ∨ ∃ metadata, view = (w.view.applyMetadata metadata).1) := by
  rcases hread : (access.readAll control address).run later with ⟨e | metadata, last⟩
  · exact ⟨w.view, [], (run_bind_of_run hopen).trans (run_bind_of_run hread), .inl rfl⟩
  · exact ⟨_, _, (Registers.intro hopen hread).run_register, .inr ⟨metadata, rfl⟩⟩

theorem control_register (access : ClusterAccess σ κ) (seeds : List IpAddress) (w : Worker κ)
    (nodes : σ) :
    ((w.register access seeds).run nodes).1.1.control =
      ((ControlConnection.openAny access.openControl
        (ControlConnection.candidates seeds w.view.snapshot)).run nodes).1.toOption := by
  rcases hopen : (ControlConnection.openAny access.openControl
    (ControlConnection.candidates seeds w.view.snapshot)).run nodes with ⟨e | ⟨address, id⟩, later⟩
  · rw [run_register_of_error hopen]
    rfl
  · obtain ⟨view, announcements, hrun, -⟩ := run_register_of_ok hopen
    rw [hrun]
    rfl

theorem view_register {P : ClusterView → Prop} (h : P w.view)
    (happly : ∀ metadata, P (w.view.applyMetadata metadata).1) (access : ClusterAccess σ κ)
    (seeds : List IpAddress) (nodes : σ) : P ((w.register access seeds).run nodes).1.1.view := by
  rcases hopen : (ControlConnection.openAny access.openControl
    (ControlConnection.candidates seeds w.view.snapshot)).run nodes with ⟨e | found, later⟩
  · rw [run_register_of_error hopen]
    exact h
  · obtain ⟨view, announcements, hrun, hview⟩ := run_register_of_ok hopen
    rw [hrun]
    obtain rfl | ⟨metadata, rfl⟩ := hview
    · exact h
    · exact happly metadata

theorem run_append (access : ClusterAccess σ κ) (seeds : List IpAddress) (w : Worker κ)
    (inputs others : List WorkerInput) (nodes : σ) :
    let first := (w.run access seeds inputs).run nodes
    let second := (first.1.1.run access seeds others).run first.2
    (w.run access seeds (inputs ++ others)).run nodes =
      ((second.1.1, first.1.2 ++ second.1.2), second.2) := by
  induction inputs generalizing w nodes with
  | nil => rfl
  | cons input inputs ih =>
      refine (run_bind_of_run rfl).trans ((run_bind_of_run (ih _ _)).trans ?_)
      exact congrArg (fun announcements => ((_, announcements), _)) (List.append_assoc ..).symm

theorem run_concat (access : ClusterAccess σ κ) (seeds : List IpAddress) (w : Worker κ)
    (inputs : List WorkerInput) (input : WorkerInput) (nodes : σ) :
    let before := (w.run access seeds inputs).run nodes
    let last := (before.1.1.step access seeds input).run before.2
    (w.run access seeds (inputs ++ [input])).run nodes =
      ((last.1.1, before.1.2 ++ last.1.2), last.2) := by
  intro before last
  refine (run_append access seeds w inputs [input] nodes).trans ?_
  exact congrArg (fun told => ((last.1.1, before.1.2 ++ told), last.2)) (List.append_nil _)

/-- A cluster that is found by a single seed. -/
def firstSeed : ClusterConfig where
  seeds := [.ofOctets 10 0 0 1]
  routing := .roundRobin 0

end Worker

end CqlClient
