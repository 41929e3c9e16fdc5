import CqlClient.Session.Sharing
import CqlClient.Proofs.Connection.Completion
import CqlClient.Proofs.Assoc

/-!
What calls that share the connections of a session can rely on. A connection is replaced only if it
is closed or too slow, and is closed then; so no endpoint has two connections that live, and a call
returns only a connection whose handshake was completed.
-/

namespace CqlClient

/-- What a call knows of its connection. A call that returned one knows that its handshake was
completed. -/
def CallStage.Suits (connections : List SharedConnection) (endpoint : IpAddress) :
    CallStage → Prop
  | .given number | .performing number | .waiting number =>
      ∃ connection, connections[number]? = some connection ∧ connection.endpoint = endpoint
  | .returned (.ok number) => ∃ connection, connections[number]? = some connection ∧
      connection.endpoint = endpoint ∧ connection.state.opener.isSuccess = true
  | .returned (.error _) => True

namespace Sharing

open Lifecycle (State)

variable {s : Sharing} {endpoint : IpAddress} {now : Moment} {config : ConnectionConfig}
  {number : Nat} {connection : SharedConnection} {before after : List SharedConnection}

/-- Whether every connection went on as connections do. -/
def Advances (before after : List SharedConnection) : Prop :=
  ∀ (number : Nat) connection, before[number]? = some connection → ∃ later,
    after[number]? = some later ∧ later.endpoint = connection.endpoint ∧
      ∃ events, later.state = connection.state.after events

theorem advances_refl (connections : List SharedConnection) : Advances connections connections :=
  fun _ connection hget => ⟨connection, hget, rfl, [], rfl⟩

theorem Advances.trans {last : List SharedConnection} (h : Advances before after)
    (h' : Advances after last) : Advances before last := by
  intro number connection hget
  obtain ⟨later, hlater, hendpoint, events, hevents⟩ := h number connection hget
  obtain ⟨final, hfinal, hendpoint', more, hmore⟩ := h' number later hlater
  refine ⟨final, hfinal, hendpoint'.trans hendpoint, events ++ more, ?_⟩
  rw [hmore, hevents, State.after, State.after, State.after, List.foldl_append]

theorem advances_append (connections more : List SharedConnection) :
    Advances connections (connections ++ more) := by
  intro number connection hget
  have hinside := (List.getElem?_eq_some_iff.mp hget).1
  exact ⟨connection, (List.getElem?_append_left hinside).trans hget, rfl, [], rfl⟩

theorem getElem?_onConnection (s : Sharing) (number other : Nat) (change : State → State) :
    (s.onConnection number change).connections[other]? = s.connections[other]?.map fun connection =>
      if number = other then { connection with state := change connection.state }
      else connection :=
  List.getElem?_modify _ _ _ _

theorem advances_onConnection (s : Sharing) (number : Nat) {change : State → State}
    (hchange : ∀ state : State, ∃ events, change state = state.after events) :
    Advances s.connections (s.onConnection number change).connections := by
  intro other connection hget
  rw [getElem?_onConnection, hget]
  split
  · obtain ⟨events, hevents⟩ := hchange connection.state
    exact ⟨_, rfl, rfl, events, hevents⟩
  · exact ⟨connection, rfl, rfl, [], rfl⟩

/-- How a lookup can go. -/
inductive LookUp (s : Sharing) (endpoint : IpAddress) (now : Moment) (config : ConnectionConfig) :
    Sharing → Prop
  | reuses {number : Nat} {connection : SharedConnection}
      (cached : s.cached.get? endpoint = some number)
      (made : s.connections[number]? = some connection)
      (opened : connection.state.phase = .opened) :
      LookUp s endpoint now config (s.addCall endpoint (.returned (.ok number)))
  | joins {number : Nat} {connection : SharedConnection}
      (cached : s.cached.get? endpoint = some number)
      (made : s.connections[number]? = some connection) :
      LookUp s endpoint now config (s.addCall endpoint (.given number))
  | replaces (spent : ∀ number connection, s.cached.get? endpoint = some number →
        s.connections[number]? = some connection → connection.state.phase ≠ .opened ∧
          (connection.state.phase = .closed ∨ s.patience.nanoseconds ≤
            (Duration.between connection.createdAt now).nanoseconds)) :
      LookUp s endpoint now config
        ((s.replace endpoint now config).addCall endpoint (.given s.connections.length))

theorem find?_cache (s : Sharing) (endpoint : IpAddress) :
    s.cache.find? endpoint = (s.cached.get? endpoint).bind fun number =>
      s.connections[number]?.map fun connection => (number, connection.summary) := by
  rw [ConnectionCache.find?]
  simp only [cache, List.getElem?_map, Option.bind_eq_bind, Option.map_eq_bind, Option.bind_assoc]
  rfl

theorem lookUp_cases (s : Sharing) (endpoint : IpAddress) (now : Moment)
    (config : ConnectionConfig) :
    LookUp s endpoint now config (s.lookUp endpoint now config) := by
  have hreplace : (s.cache.replace endpoint now).1 = .fresh s.connections.length := by
    simp [ConnectionCache.replace, cache]
  have hfind := find?_cache s endpoint
  rw [lookUp, ConnectionCache.lookup]
  cases hcached : s.cached.get? endpoint with
  | none =>
      rw [hcached, Option.bind_none] at hfind
      simp only [hfind, hreplace]
      refine .replaces fun number connection hget => ?_
      cases hcached.symm.trans hget
  | some number =>
      cases hmade : s.connections[number]? with
      | none =>
          simp only [hcached, Option.bind_some, hmade, Option.map_none] at hfind
          simp only [hfind, hreplace]
          refine .replaces fun other connection hget hother => ?_
          obtain rfl := Option.some.inj (hcached.symm.trans hget)
          cases hmade.symm.trans hother
      | some connection =>
          simp only [hcached, Option.bind_some, hmade, Option.map_some] at hfind
          simp only [hfind]
          by_cases hopened : connection.summary.phase = .opened
          · rw [if_pos hopened]
            exact .reuses hcached hmade hopened
          · rw [if_neg hopened]
            by_cases hlive : connection.summary.phase ≠ .closed ∧
              (!s.cache.isStale now connection.summary) = true
            · rw [if_pos hlive]
              exact .joins hcached hmade
            · rw [if_neg hlive, hreplace]
              refine .replaces fun other known hget hother => ?_
              obtain rfl := Option.some.inj (hcached.symm.trans hget)
              obtain rfl := Option.some.inj (hmade.symm.trans hother)
              rw [not_and_or, not_not, Bool.not_eq_true, Bool.not_eq_false'] at hlive
              exact ⟨hopened, hlive.imp_right of_decide_eq_true⟩

@[simp]
theorem length_onConnection (s : Sharing) (number : Nat) (change : State → State) :
    (s.onConnection number change).connections.length = s.connections.length :=
  List.length_modify _ _ _

@[simp]
theorem length_evict (s : Sharing) (endpoint : IpAddress) :
    (s.evict endpoint).connections.length = s.connections.length := by
  rw [evict]
  split
  · exact s.length_onConnection _ _
  · rfl

@[simp]
theorem cached_evict (s : Sharing) (endpoint : IpAddress) :
    (s.evict endpoint).cached = s.cached := by
  rw [evict]
  split <;> rfl

@[simp]
theorem calls_evict (s : Sharing) (endpoint : IpAddress) :
    (s.evict endpoint).calls = s.calls := by
  rw [evict]
  split <;> rfl

theorem getElem?_evict (s : Sharing) (endpoint : IpAddress) (number : Nat) :
    (s.evict endpoint).connections[number]? = s.connections[number]?.map fun connection =>
      if s.cached.get? endpoint = some number
        then { connection with state := connection.state.closeAtOnce } else connection := by
  rw [evict]
  split
  · next evicted hcached => simp only [getElem?_onConnection, hcached, Option.some.injEq]
  · next hcached => simp [hcached]

theorem patience_evict (s : Sharing) (endpoint : IpAddress) :
    (s.evict endpoint).patience = s.patience := by
  rw [evict]
  split <;> rfl

theorem advances_evict (s : Sharing) (endpoint : IpAddress) :
    Advances s.connections (s.evict endpoint).connections := by
  rw [evict]
  split
  · exact s.advances_onConnection _ fun state => ⟨_, rfl⟩
  · exact advances_refl _

theorem advances_replace (s : Sharing) (endpoint : IpAddress) (now : Moment)
    (config : ConnectionConfig) :
    Advances s.connections (s.replace endpoint now config).connections :=
  (s.advances_evict endpoint).trans (advances_append _ _)

/-- How a call can go on. -/
inductive Proceed (s : Sharing) (call : Nat) : CallStage → Sharing → Prop
  | idle (stage : CallStage) : Proceed s call stage s
  | opens {number : Nat} {connection : SharedConnection}
      (made : s.connections[number]? = some connection) {next : CallStage}
      (goesOn : next = .performing number ∨ next = .waiting number) :
      Proceed s call (.given number)
        ((s.onConnection number (·.apply (.openCall call))).setStage call next)
  | performed {number : Nat} {connection : SharedConnection}
      (made : s.connections[number]? = some connection) {result : Except ConnectionError Unit}
      (ended : connection.state.opener = .ended result) :
      Proceed s call (.performing number)
        (s.setStage call (.returned (result.map fun _ => number)))
  | told {number : Nat} {connection : SharedConnection}
      (made : s.connections[number]? = some connection) {result : Except ConnectionError Unit}
      (answered : (call, result) ∈ connection.state.returned) :
      Proceed s call (.waiting number) (s.setStage call (.returned (result.map fun _ => number)))

theorem proceed_cases (s : Sharing) (call : Nat) (stage : CallStage) :
    Proceed s call stage (s.proceed call stage) := by
  cases stage with
  | given number =>
      rw [proceed]
      split
      · next connection made =>
          refine .opens made ?_
          split
          · exact .inl rfl
          · exact .inr rfl
      · exact .idle _
  | performing number =>
      rw [proceed]
      split
      · next connection made =>
          split
          · next ended => exact .performed made ended
          · exact .idle _
      · exact .idle _
  | waiting number =>
      rw [proceed]
      split
      · next connection made =>
          split
          · next caller result answered =>
              obtain rfl : caller = call := by simpa using List.find?_some answered
              exact .told made (List.mem_of_find?_eq_some answered)
          · exact .idle _
      · exact .idle _
  | returned result => exact .idle _

theorem Proceed.advances {call : Nat} {stage : CallStage} {s' : Sharing}
    (h : Proceed s call stage s') : Advances s.connections s'.connections := by
  cases h with
  | opens made goesOn => exact s.advances_onConnection _ fun state => ⟨[.openCall call], rfl⟩
  | _ => exact advances_refl _

theorem Proceed.cached_eq {call : Nat} {stage : CallStage} {s' : Sharing}
    (h : Proceed s call stage s') : s'.cached = s.cached ∧ s'.patience = s.patience := by
  cases h with
  | _ => exact ⟨rfl, rfl⟩

theorem LookUp.advances {s' : Sharing} (h : LookUp s endpoint now config s') :
    Advances s.connections s'.connections := by
  cases h with
  | reuses cached made opened => exact advances_refl _
  | joins cached made => exact advances_refl _
  | replaces spent => exact s.advances_replace endpoint now config

theorem advances_apply (s : Sharing) (event : Event) :
    Advances s.connections (s.apply event).connections := by
  cases event with
  | call endpoint now config => exact (s.lookUp_cases endpoint now config).advances
  | proceed call =>
      rw [apply]
      split
      · exact (s.proceed_cases call _).advances
      · exact advances_refl _
  | happen number event => exact s.advances_onConnection number fun state => ⟨[event], rfl⟩

theorem advances_after (s : Sharing) (events : List Event) :
    Advances s.connections (s.after events).connections := by
  induction events generalizing s with
  | nil => exact advances_refl _
  | cons event rest ih => exact (s.advances_apply event).trans (ih _)

theorem summary_closeAtOnce (connection : SharedConnection) :
    SharedConnection.summary { connection with state := connection.state.closeAtOnce } =
      { connection.summary with phase := .closed } := by
  simp only [SharedConnection.summary, Lifecycle.phase_closeAtOnce]

theorem cache_onConnection_closeAtOnce (s : Sharing) (number : Nat) :
    (s.onConnection number State.closeAtOnce).cache = s.cache.close number := by
  have hcreated : (s.onConnection number State.closeAtOnce).connections.map
      SharedConnection.summary = (s.connections.map SharedConnection.summary).modify number
        fun known => { known with phase := .closed } := by
    refine List.ext_getElem? fun other => ?_
    rw [List.getElem?_map, getElem?_onConnection, List.getElem?_modify, List.getElem?_map,
      Option.map_map, Option.map_eq_map, Option.map_map]
    refine congrArg (Option.map · _) (funext fun connection => ?_)
    simp only [Function.comp_apply]
    split
    · exact summary_closeAtOnce connection
    · rfl
  rw [cache, hcreated]
  rfl

theorem cache_replace (s : Sharing) (endpoint : IpAddress) (now : Moment)
    (config : ConnectionConfig) :
    (s.replace endpoint now config).cache = (s.cache.replace endpoint now).2 := by
  have hadd : ∀ t : Sharing, (t.add endpoint now config).cache =
      { t.cache with
        created := t.cache.created ++ [{ endpoint, createdAt := now }]
        cached := t.cache.cached.insert endpoint t.connections.length } := by
    intro t
    simp [cache, add, SharedConnection.summary]
  rw [replace, hadd, length_evict, evict, ConnectionCache.replace]
  cases hcached : s.cached.get? endpoint with
  | none => simp [cache, hcached]
  | some evicted =>
      have hsame : s.cache.cached.get? endpoint = some evicted := hcached
      simp only [hsame, cache_onConnection_closeAtOnce]
      simp [cache]

theorem lookup_snd (cache : ConnectionCache) (endpoint : IpAddress) (now : Moment) :
    (cache.lookup endpoint now).2 = match (cache.lookup endpoint now).1 with
      | .fresh _ => (cache.replace endpoint now).2
      | _ => cache := by
  rw [ConnectionCache.lookup]
  split
  · split
    · rfl
    · split
      · rfl
      · rfl
  · rfl

/-- The session sees a lookup do what it does to the connections that it knows of. -/
theorem cache_lookUp (s : Sharing) (endpoint : IpAddress) (now : Moment)
    (config : ConnectionConfig) :
    (s.lookUp endpoint now config).cache = (s.cache.lookup endpoint now).2 := by
  rw [lookup_snd, lookUp]
  cases (s.cache.lookup endpoint now).1 with
  | usable number => rfl
  | opening number => rfl
  | fresh number => exact s.cache_replace endpoint now config

/-- What holds of the connections of a session and the calls that share them. -/
structure Held (s : Sharing) : Prop where
  reached : ∀ (number : Nat) connection, s.connections[number]? = some connection →
    connection.state.IsReached
  cached : ∀ endpoint number, s.cached.get? endpoint = some number →
    ∃ connection, s.connections[number]? = some connection ∧ connection.endpoint = endpoint
  in_use : ∀ (number : Nat) connection, s.connections[number]? = some connection →
    connection.state.phase ≠ .closed → s.cached.get? connection.endpoint = some number
  calls : ∀ (index : Nat) call, s.calls[index]? = some call →
    call.stage.Suits s.connections call.endpoint

theorem Advances.suits (h : Advances before after)
    (hreached : ∀ (number : Nat) connection, before[number]? = some connection →
      connection.state.IsReached) {stage : CallStage} (hsuits : stage.Suits before endpoint) :
    stage.Suits after endpoint := by
  have hkeep : ∀ number : Nat, (∃ connection, before[number]? = some connection ∧
      connection.endpoint = endpoint) → ∃ connection, after[number]? = some connection ∧
        connection.endpoint = endpoint := by
    rintro number ⟨connection, hget, hendpoint⟩
    obtain ⟨later, hlater, hsame, -⟩ := h number connection hget
    exact ⟨later, hlater, hsame.trans hendpoint⟩
  match stage with
  | .given number | .performing number | .waiting number => exact hkeep number hsuits
  | .returned (.error error) => trivial
  | .returned (.ok number) =>
      obtain ⟨connection, hget, hendpoint, hsuccess⟩ := hsuits
      obtain ⟨later, hlater, hsame, events, hevents⟩ := h number connection hget
      refine ⟨later, hlater, hsame.trans hendpoint, ?_⟩
      rw [hevents]
      exact (hreached number connection hget).isSuccess_after hsuccess events

theorem Held.advance {s' : Sharing} (hs : s.Held) (h : Advances s.connections s'.connections)
    (hlength : s'.connections.length = s.connections.length) (hcached : s'.cached = s.cached)
    (hcalls : s'.calls = s.calls) : s'.Held := by
  have hformer : ∀ (number : Nat) later, s'.connections[number]? = some later → ∃ connection,
      s.connections[number]? = some connection ∧ later.endpoint = connection.endpoint ∧
        ∃ events, later.state = connection.state.after events := by
    intro number later hget
    have hinside : number < s.connections.length :=
      hlength ▸ (List.getElem?_eq_some_iff.mp hget).1
    obtain ⟨same, hsame, hrest⟩ := h number _ (List.getElem?_eq_getElem hinside)
    obtain rfl := Option.some.inj (hget.symm.trans hsame)
    exact ⟨_, List.getElem?_eq_getElem hinside, hrest⟩
  refine ⟨fun number later hget => ?_, fun endpoint number hget => ?_,
    fun number later hget hlive => ?_, fun index call hget => ?_⟩
  · obtain ⟨connection, hbefore, -, events, hevents⟩ := hformer number later hget
    rw [hevents]
    exact (hs.reached number connection hbefore).after events
  · rw [hcached] at hget
    obtain ⟨connection, hbefore, hendpoint⟩ := hs.cached endpoint number hget
    obtain ⟨later, hlater, hsame, -⟩ := h number connection hbefore
    exact ⟨later, hlater, hsame.trans hendpoint⟩
  · obtain ⟨connection, hbefore, hsame, events, hevents⟩ := hformer number later hget
    rw [hcached, hsame]
    refine hs.in_use number connection hbefore fun hclosed => hlive ?_
    rw [hevents]
    exact Lifecycle.closed_after hclosed events
  · rw [hcalls] at hget
    exact h.suits hs.reached (hs.calls index call hget)

theorem Held.addCall (hs : s.Held) {stage : CallStage}
    (hstage : stage.Suits s.connections endpoint) : (s.addCall endpoint stage).Held := by
  refine ⟨hs.reached, hs.cached, hs.in_use, fun index call hget => ?_⟩
  rcases List.mem_append.mp (List.mem_of_getElem? hget) with hold | hlast
  · obtain ⟨former, hformer⟩ := List.mem_iff_getElem?.mp hold
    exact hs.calls former call hformer
  · obtain rfl := List.mem_singleton.mp hlast
    exact hstage

theorem Held.setStage (hs : s.Held) {index : Nat} {call : ConnectionCall}
    (hcall : s.calls[index]? = some call) {stage : CallStage}
    (hstage : stage.Suits s.connections call.endpoint) : (s.setStage index stage).Held := by
  refine ⟨hs.reached, hs.cached, hs.in_use, fun other later hget => ?_⟩
  obtain ⟨former, hformer, heq⟩ := Option.map_eq_some_iff.mp
    ((List.getElem?_modify _ _ _ _).symm.trans hget)
  split at heq
  · next hsame =>
      obtain rfl := Option.some.inj (hcall.symm.trans (hsame ▸ hformer))
      exact heq ▸ hstage
  · exact heq ▸ hs.calls other former hformer

theorem suits_returned (made : s.connections[number]? = some connection)
    (hsuits : ∃ known, s.connections[number]? = some known ∧ known.endpoint = endpoint)
    {result : Except ConnectionError Unit}
    (hsuccess : result = .ok () → connection.state.opener.isSuccess = true) :
    CallStage.Suits s.connections endpoint (.returned (result.map fun _ => number)) := by
  match result with
  | .error error => trivial
  | .ok () =>
      obtain ⟨known, hget, hendpoint⟩ := hsuits
      obtain rfl := Option.some.inj (made.symm.trans hget)
      exact ⟨connection, made, hendpoint, hsuccess rfl⟩

theorem Held.proceed (hs : s.Held) {index : Nat} {call : ConnectionCall}
    (hcall : s.calls[index]? = some call) {s' : Sharing} (h : Proceed s index call.stage s') :
    s'.Held := by
  have hsuits := hs.calls index call hcall
  generalize call.stage = stage at h hsuits
  cases h with
  | idle => exact hs
  | @opens number connection made next goesOn =>
      have hadvances : Advances s.connections
          (s.onConnection number (·.apply (.openCall index))).connections :=
        s.advances_onConnection number fun state => ⟨[.openCall index], rfl⟩
      have hheld := hs.advance hadvances (s.length_onConnection _ _) rfl rfl
      have hlater := hadvances.suits hs.reached hsuits
      refine hheld.setStage hcall ?_
      rcases goesOn with rfl | rfl
      · exact hlater
      · exact hlater
  | performed made ended =>
      refine hs.setStage hcall (suits_returned made hsuits fun hresult => ?_)
      rw [ended, hresult]
      rfl
  | told made answered =>
      refine hs.setStage hcall (suits_returned made hsuits fun hresult => ?_)
      rw [(hs.reached _ _ made).tended.candid.returned_ok _ (hresult ▸ answered)]
      rfl

theorem getElem?_concat_cases {connections : List SharedConnection} {last : SharedConnection}
    (h : (connections ++ [last])[number]? = some connection) :
    connections[number]? = some connection ∨
      number = connections.length ∧ connection = last := by
  rcases Nat.lt_trichotomy number connections.length with hinside | hlast | houtside
  · exact .inl ((List.getElem?_append_left hinside).symm.trans h)
  · rw [hlast, List.getElem?_concat_length] at h
    exact .inr ⟨hlast, (Option.some.inj h).symm⟩
  · rw [List.getElem?_eq_none (by simpa using Nat.succ_le_of_lt houtside)] at h
    exact nomatch h

theorem Held.add (hs : s.Held)
    (hnone : ∀ (number : Nat) connection, s.connections[number]? = some connection →
      connection.state.phase ≠ .closed → connection.endpoint ≠ endpoint)
    (now : Moment) (config : ConnectionConfig) : (s.add endpoint now config).Held := by
  refine ⟨fun number connection hget => ?_, fun other number hget => ?_,
    fun number connection hget hlive => ?_, fun index call hget => ?_⟩
  · rcases getElem?_concat_cases hget with hold | ⟨-, rfl⟩
    · exact hs.reached number connection hold
    · exact ⟨config, [], rfl⟩
  · rw [Sharing.add, Assoc.get?_insert] at hget
    split at hget
    · next hsame =>
        obtain rfl := Option.some.inj hget
        exact ⟨_, List.getElem?_concat_length, hsame.symm⟩
    · obtain ⟨connection, hbefore, hendpoint⟩ := hs.cached other number hget
      obtain ⟨later, hlater, hsame, -⟩ := advances_append s.connections _ number connection hbefore
      exact ⟨later, hlater, hsame.trans hendpoint⟩
  · rw [Sharing.add, Assoc.get?_insert]
    rcases getElem?_concat_cases hget with hold | ⟨rfl, rfl⟩
    · rw [if_neg (hnone number connection hold hlive)]
      exact hs.in_use number connection hold hlive
    · exact if_pos rfl
  · exact (advances_append _ _).suits hs.reached (hs.calls index call hget)

theorem Held.replace (hs : s.Held) (endpoint : IpAddress) (now : Moment)
    (config : ConnectionConfig) : (s.replace endpoint now config).Held := by
  have hevicted : (s.evict endpoint).Held := hs.advance (s.advances_evict endpoint)
    (s.length_evict endpoint) (s.cached_evict endpoint) (s.calls_evict endpoint)
  refine hevicted.add (fun number connection hget hlive hendpoint => hlive ?_) now config
  -- What lives is in use, and what was in use for this endpoint was closed.
  have hused := hevicted.in_use number connection hget hlive
  rw [cached_evict, hendpoint] at hused
  rw [getElem?_evict, Option.map_eq_some_iff] at hget
  obtain ⟨former, -, rfl⟩ := hget
  rw [if_pos hused]
  exact Lifecycle.phase_closeAtOnce former.state

theorem LookUp.held {s' : Sharing} (hs : s.Held) (h : LookUp s endpoint now config s') :
    s'.Held := by
  cases h with
  | @reuses number connection cached made opened =>
      obtain ⟨known, hget, hendpoint⟩ := hs.cached endpoint number cached
      obtain rfl := Option.some.inj (made.symm.trans hget)
      exact hs.addCall
        ⟨connection, made, hendpoint, (hs.reached number connection made).earned.opened opened⟩
  | joins cached made => exact hs.addCall (hs.cached endpoint _ cached)
  | replaces spent =>
      refine (hs.replace endpoint now config).addCall
        ((hs.replace endpoint now config).cached endpoint _ ?_)
      rw [Sharing.replace, add, Assoc.get?_insert, if_pos rfl, length_evict]

theorem Held.apply (hs : s.Held) (event : Event) : (s.apply event).Held := by
  cases event with
  | call endpoint now config => exact (s.lookUp_cases endpoint now config).held hs
  | proceed call =>
      rw [Sharing.apply]
      split
      · next known hcall => exact hs.proceed hcall (s.proceed_cases call known.stage)
      · exact hs
  | happen number event =>
      exact hs.advance (s.advances_onConnection number fun state => ⟨[event], rfl⟩)
        (s.length_onConnection _ _) rfl rfl

theorem held_run (patience : Duration) (events : List Event) : (run patience events).Held := by
  have hnew : ({ patience } : Sharing).Held := ⟨by simp, by simp, by simp, by simp⟩
  rw [run, Sharing.after]
  generalize ({ patience } : Sharing) = s at hnew
  induction events generalizing s with
  | nil => exact hnew
  | cons event rest ih => exact ih _ (hnew.apply event)

theorem LookUp.patience_eq {s' : Sharing} (h : LookUp s endpoint now config s') :
    s'.patience = s.patience := by
  cases h with
  | replaces spent => exact s.patience_evict endpoint
  | _ => rfl

theorem patience_apply (s : Sharing) (event : Event) :
    (s.apply event).patience = s.patience := by
  cases event with
  | call endpoint now config => exact (s.lookUp_cases endpoint now config).patience_eq
  | proceed call =>
      rw [apply]
      split
      · exact (s.proceed_cases call _).cached_eq.2
      · rfl
  | happen number event => rfl

theorem patience_run (patience : Duration) (events : List Event) :
    (run patience events).patience = patience := by
  rw [run, Sharing.after]
  generalize hnew : ({ patience } : Sharing) = s
  have hs : s.patience = patience := hnew ▸ rfl
  clear hnew
  induction events generalizing s with
  | nil => exact hs
  | cons event rest ih => exact ih _ ((s.patience_apply event).trans hs)

theorem getElem?_replace (hmade : s.connections[number]? = some connection)
    (hcached : s.cached.get? endpoint = some number) (now : Moment) (config : ConnectionConfig) :
    (s.replace endpoint now config).connections[number]? =
      some { connection with state := connection.state.closeAtOnce } := by
  have hinside := (List.getElem?_eq_some_iff.mp hmade).1
  rw [replace, add, List.getElem?_append_left ((s.length_evict endpoint).symm ▸ hinside),
    getElem?_evict, hmade, Option.map_some, if_pos hcached]

/-- Only a call that finds the connection in use closed, or too slow, puts another in its place. -/
theorem Held.evicted (hs : s.Held) {event : Event} (hcached : s.cached.get? endpoint = some number)
    (hother : (s.apply event).cached.get? endpoint ≠ some number) :
    ∃ now config connection, event = .call endpoint now config ∧
      s.connections[number]? = some connection ∧ connection.state.phase ≠ .opened ∧
      (connection.state.phase = .closed ∨ s.patience.nanoseconds ≤
        (Duration.between connection.createdAt now).nanoseconds) ∧
      (s.apply event).connections[number]? =
        some { connection with state := connection.state.closeAtOnce } := by
  cases event with
  | call asked now config =>
      have hlookUp := s.lookUp_cases asked now config
      rw [Sharing.apply] at hother ⊢
      generalize s.lookUp asked now config = s' at hlookUp hother ⊢
      cases hlookUp with
      | reuses cached made opened => exact absurd hcached hother
      | joins cached made => exact absurd hcached hother
      | replaces spent =>
          have hsame : endpoint = asked := by
            by_contra hne
            refine hother ?_
            change (s.replace asked now config).cached.get? endpoint = some number
            rw [Sharing.replace, Sharing.add, Assoc.get?_insert, if_neg hne, cached_evict, hcached]
          subst hsame
          obtain ⟨connection, hmade, -⟩ := hs.cached endpoint number hcached
          obtain ⟨hunopened, hspent⟩ := spent number connection hcached hmade
          exact ⟨now, config, connection, rfl, hmade, hunopened, hspent,
            getElem?_replace hmade hcached now config⟩
  | proceed call =>
      refine absurd ?_ hother
      rw [Sharing.apply]
      split
      · rw [(s.proceed_cases call _).cached_eq.1, hcached]
      · exact hcached
  | happen number event => exact absurd hcached hother

/-- What calls can rely on, whatever happened so far. -/
structure Safe (patience : Duration) (s : Sharing) : Prop where
  /-- The session sees a call do what a lookup does to the connections that it knows of. -/
  looks_up : ∀ endpoint now config,
    (s.apply (.call endpoint now config)).cache = (s.cache.lookup endpoint now).2
  /-- Every connection that is not closed is in use. -/
  in_use : ∀ (number : Nat) connection, s.connections[number]? = some connection →
    connection.state.phase ≠ .closed → s.cached.get? connection.endpoint = some number
  /-- So no endpoint has two of them. -/
  unique : ∀ (first second : Nat) one other, s.connections[first]? = some one →
    s.connections[second]? = some other → one.state.phase ≠ .closed →
      other.state.phase ≠ .closed → one.endpoint = other.endpoint → first = second
  /-- A connection that is replaced is not open, and is either closed or too old; it is closed ever
  after, and those who wait for it are told. -/
  evicts : ∀ event endpoint number, s.cached.get? endpoint = some number →
    (s.apply event).cached.get? endpoint ≠ some number →
      ∃ now config connection, event = .call endpoint now config ∧
        s.connections[number]? = some connection ∧ connection.state.phase ≠ .opened ∧
        (connection.state.phase = .closed ∨
          patience.nanoseconds ≤ (Duration.between connection.createdAt now).nanoseconds) ∧
        ∀ more, ∃ later, ((s.apply event).after more).connections[number]? = some later ∧
          later.state.phase = .closed ∧ later.state.announced.isSome = true
  /-- A call returns a connection to its endpoint, whose handshake was completed. -/
  returns : ∀ call ∈ s.calls, ∀ number, call.stage = .returned (.ok number) →
    ∃ connection, s.connections[number]? = some connection ∧
      connection.endpoint = call.endpoint ∧
      ∃ sent, Handshake.run connection.state.config connection.state.heard = (sent, .opened) ∧
        connection.state.handshakeRequests = sent.map Handshake.Sent.request

/-- However calls overlap, and whatever happens to the connections that they share. -/
theorem safe_run (patience : Duration) (events : List Event) :
    Safe patience (run patience events) := by
  have hheld := held_run patience events
  have hpatience := patience_run patience events
  generalize run patience events = s at hheld hpatience
  refine ⟨s.cache_lookUp, hheld.in_use, ?_, ?_, ?_⟩
  · intro first second one other hone hother hfirst hsecond hsame
    have hused := hheld.in_use first one hone hfirst
    rw [hsame, hheld.in_use second other hother hsecond] at hused
    exact (Option.some.inj hused).symm
  · intro event endpoint number hcached hother
    obtain ⟨now, config, connection, hevent, hmade, hunopened, hspent, hclosed⟩ :=
      hheld.evicted hcached hother
    rw [hpatience] at hspent
    refine ⟨now, config, connection, hevent, hmade, hunopened, hspent, fun more => ?_⟩
    obtain ⟨later, hlater, -, events, hevents⟩ :=
      (s.apply event).advances_after more number _ hclosed
    refine ⟨later, hlater, ?_, ?_⟩
    · rw [hevents]
      exact Lifecycle.closed_after (Lifecycle.phase_closeAtOnce _) events
    · rw [hevents]
      exact Lifecycle.isSome_announced_after (Lifecycle.isSome_announced_closeAtOnce _) events
  · intro call hcall number hreturned
    obtain ⟨index, hget⟩ := List.mem_iff_getElem?.mp hcall
    have hsuits := hheld.calls index call hget
    rw [hreturned] at hsuits
    obtain ⟨connection, hmade, hendpoint, hsuccess⟩ := hsuits
    exact ⟨connection, hmade, hendpoint,
      (hheld.reached number connection hmade).handshake hsuccess⟩

/-- The second call comes when the connection that the first one waits for is too slow. -/
example :
    let node := IpAddress.ofOctets 10 0 0 1
    (run (.ofSeconds 1) [.call node 0 {}, .proceed 0, .call node 1000000000 {},
      .proceed 1]).connections.map (·.state.phase) = [.closed, .connecting] := by
  decide +kernel

end Sharing

end CqlClient
