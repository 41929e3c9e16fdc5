import CqlClient.Connection.Exchange
import CqlClient.Proofs.Connection.Pending
import Mathlib.Data.List.Induction
import Mathlib.Data.List.Nodup

/-!
Which requests are handed the answers of a node. A request gets its own answer unless its stream was
taken over from a request that timed out and is answered all the same.
-/

namespace CqlClient

namespace Exchange

/-- The request that waits on a stream. -/
def waiting? (x : Exchange) (stream : Int8) : Option WaitingRequest :=
  x.pending.entries.get? (x.connection, stream)

/-- Whether a request was given up because of its age. -/
def HasTimedOut (x : Exchange) (request : Nat) : Prop :=
  ∃ delivery ∈ x.deliveries,
    delivery.request = request ∧ delivery.outcome = .error (.timeout x.pending.deadline)

/-- Whether the node would answer a frame whose request was given up, while another request waits on
its stream. -/
def AnswersTooLate (x : Exchange) (index : Nat) : Prop :=
  ∃ inquiry, x.unanswered[index]? = some inquiry ∧ x.HasTimedOut inquiry.request ∧
    (x.waiting? inquiry.stream).isSome

/-- What is known of an exchange at any time: a waiting request has its frame with the node and no
delivery, a request that does not wait any more has one, and what was delivered is an answer that
the node has given or the news that the request is too old. -/
structure Tracked (x : Exchange) : Prop where
  key_connection : ∀ key waiting, x.pending.entries.get? key = some waiting → key.1 = x.connection
  waiting_unanswered : ∀ stream waiting, x.waiting? stream = some waiting →
    ⟨stream, waiting.request⟩ ∈ x.unanswered
  unanswered_registered : ∀ inquiry ∈ x.unanswered, inquiry.request < x.pending.registered
  unanswered_nodup : (x.unanswered.map Inquiry.request).Nodup
  waiting_undelivered : ∀ stream waiting, x.waiting? stream = some waiting →
    ∀ delivery ∈ x.deliveries, delivery.request ≠ waiting.request
  delivered_registered : ∀ delivery ∈ x.deliveries, delivery.request < x.pending.registered
  waiting_or_delivered : ∀ request < x.pending.registered,
    (∃ stream waiting, x.waiting? stream = some waiting ∧ waiting.request = request) ∨
      ∃ delivery ∈ x.deliveries, delivery.request = request
  outcome_cases : ∀ delivery ∈ x.deliveries,
    delivery.outcome = .error (.timeout x.pending.deadline) ∨
      ∃ answered < x.pending.registered, delivery.outcome = .ok answered ∧
        ∀ inquiry ∈ x.unanswered, inquiry.request ≠ answered

theorem tracked_start (connection : ConnectionId) (deadline : Duration) :
    (start connection deadline).Tracked where
  key_connection := by simp [start]
  waiting_unanswered := by simp [start, waiting?]
  unanswered_registered := by simp [start]
  unanswered_nodup := by simp [start]
  waiting_undelivered := by simp [start]
  delivered_registered := by simp [start]
  waiting_or_delivered := by simp [start]
  outcome_cases := by simp [start]

theorem Tracked.waiting_registered {x : Exchange} (h : x.Tracked) {stream : Int8}
    {waiting : WaitingRequest} (hwaiting : x.waiting? stream = some waiting) :
    waiting.request < x.pending.registered :=
  h.unanswered_registered _ (h.waiting_unanswered stream waiting hwaiting)

theorem Tracked.stream_eq {x : Exchange} (h : x.Tracked) {stream other : Int8}
    {waiting found : WaitingRequest} (hwaiting : x.waiting? stream = some waiting)
    (hfound : x.waiting? other = some found) (hrequest : waiting.request = found.request) :
    stream = other :=
  congrArg Inquiry.stream <| List.inj_on_of_nodup_map h.unanswered_nodup
    (h.waiting_unanswered stream waiting hwaiting)
    (h.waiting_unanswered other found hfound) hrequest

theorem get?_insert_stream (x : Exchange) (stream other : Int8) (waiting : WaitingRequest) :
    (x.pending.entries.insert (x.connection, stream) waiting).get? (x.connection, other) =
      if other = stream then some waiting else x.waiting? other := by
  rw [Assoc.get?_insert, waiting?]
  simp

theorem get?_erase_stream (x : Exchange) (stream other : Int8) :
    (x.pending.entries.erase (x.connection, stream)).get? (x.connection, other) =
      if other = stream then none else x.waiting? other := by
  rw [Assoc.get?_erase, waiting?]
  simp

theorem Tracked.send {x : Exchange} (h : x.Tracked) (now : Moment) :
    (x.apply (.send now)).Tracked := by
  rcases x.pending.allocate_cases x.connection now with hfull | ⟨stream, hidle, hsent⟩
  · simp only [apply, hfull]
    exact ⟨h.key_connection, h.waiting_unanswered, h.unanswered_registered, h.unanswered_nodup,
      h.waiting_undelivered, h.delivered_registered, h.waiting_or_delivered, h.outcome_cases⟩
  · simp only [apply, hsent]
    refine ⟨?_, ?_, ?_, ?_, ?_, ?_, ?_, ?_⟩
    · intro key waiting hget
      rw [Assoc.get?_insert] at hget
      split at hget
      · next heq => rw [heq]
      · exact h.key_connection key waiting hget
    · intro other waiting hwaiting
      rw [waiting?, get?_insert_stream] at hwaiting
      split at hwaiting
      · next heq =>
          obtain rfl := Option.some.inj hwaiting
          simp [heq]
      · exact List.mem_append_left _ (h.waiting_unanswered other waiting hwaiting)
    · intro inquiry hmem
      rcases List.mem_append.mp hmem with hmem | hmem
      · exact Nat.lt_succ_of_lt (h.unanswered_registered inquiry hmem)
      · rw [List.mem_singleton.mp hmem]
        exact Nat.lt_succ_self _
    · rw [List.map_append, List.nodup_append]
      refine ⟨h.unanswered_nodup, by simp, ?_⟩
      intro request hrequest other hother
      obtain ⟨inquiry, hinquiry, rfl⟩ := List.mem_map.mp hrequest
      obtain rfl : other = x.pending.registered := by simpa using hother
      exact Nat.ne_of_lt (h.unanswered_registered inquiry hinquiry)
    · intro other waiting hwaiting delivery hdelivery
      rw [waiting?, get?_insert_stream] at hwaiting
      split at hwaiting
      · obtain rfl := Option.some.inj hwaiting
        exact Nat.ne_of_lt (h.delivered_registered delivery hdelivery)
      · exact h.waiting_undelivered other waiting hwaiting delivery hdelivery
    · intro delivery hdelivery
      exact Nat.lt_succ_of_lt (h.delivered_registered delivery hdelivery)
    · intro request hrequest
      rcases Nat.lt_succ_iff_lt_or_eq.mp hrequest with hrequest | rfl
      · rcases h.waiting_or_delivered request hrequest with
          ⟨other, waiting, hwaiting, hsame⟩ | hdone
        · refine .inl ⟨other, waiting, ?_, hsame⟩
          rw [waiting?, get?_insert_stream, if_neg, hwaiting]
          rintro rfl
          rw [waiting?, hidle] at hwaiting
          exact absurd hwaiting (by simp)
        · exact .inr hdone
      · refine .inl ⟨stream, ⟨x.pending.registered, now⟩, ?_, rfl⟩
        rw [waiting?, get?_insert_stream, if_pos rfl]
    · intro delivery hdelivery
      rcases h.outcome_cases delivery hdelivery with htimeout | ⟨answered, hlt, houtcome, hgone⟩
      · exact .inl htimeout
      · refine .inr ⟨answered, Nat.lt_succ_of_lt hlt, houtcome, fun inquiry hmem => ?_⟩
        rcases List.mem_append.mp hmem with hmem | hmem
        · exact hgone inquiry hmem
        · rw [List.mem_singleton.mp hmem]
          exact Nat.ne_of_gt hlt

theorem perm_cons_eraseIdx {x : Exchange} {index : Nat} {inquiry : Inquiry}
    (hinquiry : x.unanswered[index]? = some inquiry) :
    (inquiry :: x.unanswered.eraseIdx index).Perm x.unanswered := by
  obtain ⟨hlt, rfl⟩ := List.getElem?_eq_some_iff.mp hinquiry
  exact List.getElem_cons_eraseIdx_perm hlt

theorem Tracked.request_ne {x : Exchange} (h : x.Tracked) {index : Nat} {inquiry other : Inquiry}
    (hinquiry : x.unanswered[index]? = some inquiry)
    (hother : other ∈ x.unanswered.eraseIdx index) : other.request ≠ inquiry.request := by
  have hperm := (perm_cons_eraseIdx hinquiry).map Inquiry.request
  have hnodup := hperm.nodup_iff.mpr h.unanswered_nodup
  rw [List.map_cons, List.nodup_cons] at hnodup
  intro heq
  exact hnodup.1 (List.mem_map.mpr ⟨other, hother, heq⟩)

theorem Tracked.waiting_left {x : Exchange} (h : x.Tracked) {index : Nat} {inquiry : Inquiry}
    (hinquiry : x.unanswered[index]? = some inquiry) {stream : Int8} {waiting : WaitingRequest}
    (hne : stream ≠ inquiry.stream) (hwaiting : x.waiting? stream = some waiting) :
    ⟨stream, waiting.request⟩ ∈ x.unanswered.eraseIdx index := by
  have hmem := h.waiting_unanswered stream waiting hwaiting
  rw [← (perm_cons_eraseIdx hinquiry).mem_iff, List.mem_cons] at hmem
  rcases hmem with heq | hleft
  · exact absurd (congrArg Inquiry.stream heq) hne
  · exact hleft

theorem Tracked.outcome_left {x : Exchange} (h : x.Tracked) (index : Nat) {delivery : Delivery Nat}
    (hdelivery : delivery ∈ x.deliveries) :
    delivery.outcome = .error (.timeout x.pending.deadline) ∨
      ∃ answered < x.pending.registered, delivery.outcome = .ok answered ∧
        ∀ other ∈ x.unanswered.eraseIdx index, other.request ≠ answered := by
  rcases h.outcome_cases delivery hdelivery with htimeout | ⟨answered, hlt, houtcome, hold⟩
  · exact .inl htimeout
  · refine .inr ⟨answered, hlt, houtcome, fun other hother => ?_⟩
    exact hold other (List.mem_of_mem_eraseIdx hother)

theorem Tracked.answer_unheard {x : Exchange} (h : x.Tracked) {index : Nat} {inquiry : Inquiry}
    (hinquiry : x.unanswered[index]? = some inquiry) (hidle : x.waiting? inquiry.stream = none) :
    (x.apply (.answer index)).Tracked := by
  have hentry := hidle
  rw [waiting?] at hentry
  simp only [apply, hinquiry, PendingRequests.complete, hentry, Option.toList_none, List.append_nil]
  refine ⟨h.key_connection, ?_, ?_, ?_, h.waiting_undelivered, h.delivered_registered,
    h.waiting_or_delivered, fun _ => h.outcome_left index⟩
  · intro stream waiting hwaiting
    refine h.waiting_left hinquiry ?_ hwaiting
    rintro rfl
    exact absurd (hidle.symm.trans hwaiting) (by simp)
  · intro other hother
    exact h.unanswered_registered other (List.mem_of_mem_eraseIdx hother)
  · exact h.unanswered_nodup.sublist ((List.eraseIdx_sublist _ _).map _)

theorem Tracked.answer_heard {x : Exchange} (h : x.Tracked) {index : Nat} {inquiry : Inquiry}
    {waiting : WaitingRequest} (hinquiry : x.unanswered[index]? = some inquiry)
    (hwaiting : x.waiting? inquiry.stream = some waiting) : (x.apply (.answer index)).Tracked := by
  have hentry := hwaiting
  rw [waiting?] at hentry
  simp only [apply, hinquiry, PendingRequests.complete, PendingRequests.release, hentry,
    Option.toList_some]
  refine ⟨?_, ?_, ?_, ?_, ?_, ?_, ?_, ?_⟩
  · intro key other hget
    rw [Assoc.get?_erase] at hget
    split at hget
    · exact absurd hget (by simp)
    · exact h.key_connection key other hget
  · intro stream other hother
    rw [waiting?, get?_erase_stream] at hother
    split at hother
    · exact absurd hother (by simp)
    · next hne => exact h.waiting_left hinquiry hne hother
  · intro other hother
    exact h.unanswered_registered other (List.mem_of_mem_eraseIdx hother)
  · exact h.unanswered_nodup.sublist ((List.eraseIdx_sublist _ _).map _)
  · intro stream other hother delivery hdelivery
    rw [waiting?, get?_erase_stream] at hother
    split at hother
    · exact absurd hother (by simp)
    · next hne =>
        rcases List.mem_append.mp hdelivery with hdelivery | hdelivery
        · exact h.waiting_undelivered stream other hother delivery hdelivery
        · rw [List.mem_singleton.mp hdelivery]
          intro hsame
          exact hne (h.stream_eq hother hwaiting hsame.symm)
  · intro delivery hdelivery
    rcases List.mem_append.mp hdelivery with hdelivery | hdelivery
    · exact h.delivered_registered delivery hdelivery
    · rw [List.mem_singleton.mp hdelivery]
      exact h.waiting_registered hwaiting
  · intro request hrequest
    rcases h.waiting_or_delivered request hrequest with
      ⟨stream, other, hother, rfl⟩ | ⟨delivery, hdelivery, hsame⟩
    · by_cases heq : stream = inquiry.stream
      · rw [heq, hwaiting, Option.some.injEq] at hother
        exact .inr ⟨_, List.mem_append_right _ (List.mem_singleton_self _), by rw [hother]⟩
      · refine .inl ⟨stream, other, ?_, rfl⟩
        rw [waiting?, get?_erase_stream, if_neg heq, hother]
    · exact .inr ⟨delivery, List.mem_append_left _ hdelivery, hsame⟩
  · intro delivery hdelivery
    rcases List.mem_append.mp hdelivery with hdelivery | hdelivery
    · exact h.outcome_left index hdelivery
    · rw [List.mem_singleton.mp hdelivery]
      exact .inr ⟨inquiry.request, h.unanswered_registered inquiry (List.mem_of_getElem? hinquiry),
        rfl, fun other hother => h.request_ne hinquiry hother⟩

theorem Tracked.answer {x : Exchange} (h : x.Tracked) (index : Nat) :
    (x.apply (.answer index)).Tracked := by
  cases hinquiry : x.unanswered[index]? with
  | none => simpa only [apply, hinquiry] using h
  | some inquiry =>
      cases hwaiting : x.waiting? inquiry.stream with
      | none => exact h.answer_unheard hinquiry hwaiting
      | some waiting => exact h.answer_heard hinquiry hwaiting

theorem Tracked.sweep {x : Exchange} (h : x.Tracked) (now : Moment) :
    (x.apply (.sweep now)).Tracked := by
  have hfilter : ∀ stream waiting,
      (x.apply (.sweep now)).waiting? stream = some waiting ↔
        x.waiting? stream = some waiting ∧ x.pending.isExpired now waiting = false := by
    intro stream waiting
    simp only [apply, PendingRequests.sweep, PendingRequests.fail, waiting?, Assoc.get?_filter,
      Option.filter_eq_some_iff, Bool.not_eq_true']
  have hswept : ∀ delivery ∈ (x.apply (.sweep now)).deliveries, delivery ∈ x.deliveries ∨
      ∃ stream waiting, x.waiting? stream = some waiting ∧ x.pending.isExpired now waiting ∧
        delivery = ⟨waiting.request, .error (.timeout x.pending.deadline)⟩ := by
    intro delivery hdelivery
    rcases List.mem_append.mp hdelivery with hdelivery | hdelivery
    · exact .inl hdelivery
    · obtain ⟨⟨key, waiting⟩, hentry, rfl⟩ := List.mem_map.mp hdelivery
      obtain ⟨hentry, hexpired⟩ := List.mem_filter.mp hentry
      have hget := Assoc.get?_eq_some_iff.mpr hentry
      refine .inr ⟨key.2, waiting, ?_, hexpired, rfl⟩
      rw [waiting?, ← h.key_connection key waiting hget]
      exact hget
  refine ⟨?_, ?_, h.unanswered_registered, h.unanswered_nodup, ?_, ?_, ?_, ?_⟩
  · intro key waiting hget
    simp only [apply, PendingRequests.sweep, PendingRequests.fail, Assoc.get?_filter,
      Option.filter_eq_some_iff] at hget
    exact h.key_connection key waiting hget.1
  · intro stream waiting hwaiting
    exact h.waiting_unanswered stream waiting ((hfilter stream waiting).mp hwaiting).1
  · intro stream waiting hwaiting delivery hdelivery
    obtain ⟨hwaiting, hyoung⟩ := (hfilter stream waiting).mp hwaiting
    rcases hswept delivery hdelivery with hdelivery | ⟨other, old, hold, hexpired, rfl⟩
    · exact h.waiting_undelivered stream waiting hwaiting delivery hdelivery
    · intro hsame
      obtain rfl : other = stream := h.stream_eq hold hwaiting hsame
      rw [hwaiting, Option.some.injEq] at hold
      rw [← hold, hyoung] at hexpired
      exact absurd hexpired (by simp)
  · intro delivery hdelivery
    rcases hswept delivery hdelivery with hdelivery | ⟨stream, waiting, hwaiting, -, rfl⟩
    · exact h.delivered_registered delivery hdelivery
    · exact h.waiting_registered hwaiting
  · intro request hrequest
    rcases h.waiting_or_delivered request hrequest with
      ⟨stream, waiting, hwaiting, rfl⟩ | ⟨delivery, hdelivery, hsame⟩
    · cases hexpired : x.pending.isExpired now waiting with
      | false =>
          exact .inl ⟨stream, waiting, (hfilter stream waiting).mpr ⟨hwaiting, hexpired⟩, rfl⟩
      | true =>
          refine .inr ⟨⟨waiting.request, .error (.timeout x.pending.deadline)⟩,
            List.mem_append_right _ (List.mem_map.mpr ⟨((x.connection, stream), waiting), ?_, rfl⟩),
            rfl⟩
          exact List.mem_filter.mpr ⟨Assoc.get?_eq_some_iff.mp hwaiting, hexpired⟩
    · exact .inr ⟨delivery, List.mem_append_left _ hdelivery, hsame⟩
  · intro delivery hdelivery
    rcases hswept delivery hdelivery with hdelivery | ⟨stream, waiting, -, -, rfl⟩
    · exact h.outcome_cases delivery hdelivery
    · exact .inl rfl

theorem Tracked.apply {x : Exchange} (h : x.Tracked) (event : Event) : (x.apply event).Tracked := by
  cases event with
  | send now => exact h.send now
  | answer index => exact h.answer index
  | sweep now => exact h.sweep now

theorem run_append_singleton (connection : ConnectionId) (deadline : Duration)
    (events : List Event) (event : Event) :
    run connection deadline (events ++ [event]) = (run connection deadline events).apply event := by
  rw [run, List.foldl_append]
  rfl

theorem tracked_run (connection : ConnectionId) (deadline : Duration) (events : List Event) :
    (run connection deadline events).Tracked := by
  induction events using List.reverseRecOn with
  | nil => exact tracked_start connection deadline
  | append_singleton events event ih =>
      rw [run_append_singleton]
      exact ih.apply event

theorem deliveries_subset_apply (x : Exchange) (event : Event) :
    x.deliveries ⊆ (x.apply event).deliveries := by
  intro delivery hdelivery
  cases event with
  | send now =>
      rw [apply]
      split <;> exact hdelivery
  | answer index =>
      rw [apply]
      split
      · exact List.mem_append_left _ hdelivery
      · exact hdelivery
  | sweep now => exact List.mem_append_left _ hdelivery

theorem deliveries_answer {x : Exchange} {index : Nat} {inquiry : Inquiry}
    (hinquiry : x.unanswered[index]? = some inquiry) :
    (x.apply (.answer index)).deliveries =
      x.deliveries ++ ((x.waiting? inquiry.stream).map fun waiting =>
        (⟨waiting.request, .ok inquiry.request⟩ : Delivery Nat)).toList := by
  simp only [apply, hinquiry, PendingRequests.complete, waiting?]
  cases x.pending.entries.get? (x.connection, inquiry.stream) <;> rfl

/-- While every answer went to its own request, a frame whose request does not wait any more is one
of a request that timed out. -/
theorem Tracked.hasTimedOut {x : Exchange} (h : x.Tracked) (hown : x.AnswersOwnRequests)
    {inquiry : Inquiry} (hmem : inquiry ∈ x.unanswered)
    (hgone : ∀ waiting, x.waiting? inquiry.stream = some waiting →
      waiting.request ≠ inquiry.request) : x.HasTimedOut inquiry.request := by
  rcases h.waiting_or_delivered inquiry.request (h.unanswered_registered inquiry hmem) with
    ⟨stream, waiting, hwaiting, hsame⟩ | ⟨delivery, hdelivery, hsame⟩
  · have heq : (⟨stream, waiting.request⟩ : Inquiry) = inquiry :=
      List.inj_on_of_nodup_map h.unanswered_nodup (h.waiting_unanswered stream waiting hwaiting)
        hmem hsame
    rw [← heq] at hgone
    exact absurd rfl (hgone waiting hwaiting)
  · rcases h.outcome_cases delivery hdelivery with htimeout | ⟨answered, -, houtcome, hanswered⟩
    · exact ⟨delivery, hdelivery, hsame, htimeout⟩
    · rw [hown delivery hdelivery answered houtcome, hsame] at hanswered
      exact absurd rfl (hanswered inquiry hmem)

/-- One event after which all answers are still in the right hands. -/
theorem Tracked.answersOwnRequests_apply_iff {x : Exchange} (h : x.Tracked) (event : Event) :
    (x.apply event).AnswersOwnRequests ↔
      x.AnswersOwnRequests ∧ ∀ index, event = .answer index → ¬ x.AnswersTooLate index := by
  constructor
  · intro hown
    refine ⟨fun delivery hdelivery => hown delivery (deliveries_subset_apply x event hdelivery), ?_⟩
    rintro index rfl ⟨inquiry, hinquiry, ⟨past, hpast, hsame, -⟩, hbusy⟩
    obtain ⟨waiting, hwaiting⟩ := Option.isSome_iff_exists.mp hbusy
    have hanswer : inquiry.request = waiting.request := by
      refine hown ⟨waiting.request, .ok inquiry.request⟩ ?_ inquiry.request rfl
      rw [deliveries_answer hinquiry, hwaiting]
      exact List.mem_append_right _ (List.mem_singleton_self _)
    exact h.waiting_undelivered _ waiting hwaiting past hpast (hsame.trans hanswer)
  · rintro ⟨hown, htime⟩ delivery hdelivery answered houtcome
    cases event with
    | send now =>
        rw [Exchange.apply] at hdelivery
        split at hdelivery <;> exact hown delivery hdelivery answered houtcome
    | sweep now =>
        rcases List.mem_append.mp hdelivery with hdelivery | hdelivery
        · exact hown delivery hdelivery answered houtcome
        · obtain ⟨entry, -, rfl⟩ := List.mem_map.mp hdelivery
          exact absurd houtcome (by simp)
    | answer index =>
        cases hinquiry : x.unanswered[index]? with
        | none =>
            simp only [Exchange.apply, hinquiry] at hdelivery
            exact hown delivery hdelivery answered houtcome
        | some inquiry =>
            rw [deliveries_answer hinquiry] at hdelivery
            rcases List.mem_append.mp hdelivery with hdelivery | hdelivery
            · exact hown delivery hdelivery answered houtcome
            · rw [Option.mem_toList, Option.map_eq_some_iff] at hdelivery
              obtain ⟨waiting, hwaiting, rfl⟩ := hdelivery
              obtain rfl := Except.ok.inj houtcome
              by_contra hother
              refine htime index rfl ⟨inquiry, hinquiry, h.hasTimedOut hown ?_ ?_, ?_⟩
              · exact List.mem_of_getElem? hinquiry
              · intro found hfound hsame
                rw [hwaiting, Option.some.injEq] at hfound
                rw [← hfound] at hsame
                exact hother hsame.symm
              · rw [hwaiting]
                rfl

/-- The requests of a connection are handed their own answers exactly if the node never answers a
frame whose request has timed out while another request waits on the same stream. -/
theorem answersOwnRequests_run_iff (connection : ConnectionId) (deadline : Duration)
    (events : List Event) :
    (run connection deadline events).AnswersOwnRequests ↔
      ∀ before index after, events = before ++ .answer index :: after →
        ¬ (run connection deadline before).AnswersTooLate index := by
  -- By the last event: whether an answer comes too late depends on what happened before it.
  induction events using List.reverseRecOn with
  | nil =>
      constructor
      · intro _ before index after hevents
        exact absurd hevents (by simp)
      · intro _ delivery hdelivery
        exact absurd hdelivery (by simp [run, start])
  | append_singleton events event ih =>
      rw [run_append_singleton,
        (tracked_run connection deadline events).answersOwnRequests_apply_iff, ih]
      constructor
      · rintro ⟨hbefore, hlast⟩ before index after hevents
        rcases List.eq_nil_or_concat after with rfl | ⟨rest, last, rfl⟩
        · obtain ⟨rfl, hevent⟩ := List.append_inj' hevents rfl
          exact hlast index (List.head_eq_of_cons_eq hevent)
        · rw [List.concat_eq_append, ← List.cons_append, ← List.append_assoc] at hevents
          obtain ⟨rfl, -⟩ := List.append_inj' hevents rfl
          exact hbefore before index rest rfl
      · intro hall
        refine ⟨fun before index after hevents => ?_, ?_⟩
        · exact hall before index (after ++ [event]) (by rw [hevents]; simp)
        · rintro index rfl
          exact hall events index [] rfl

/-- Requests sent and given up until the first stream comes up again, one more request, and then the
answer to the first. -/
def reuse : List Event :=
  ((List.range 128).flatMap fun n => [.send (10 * n), .sweep (10 * (n + 1))]) ++
    [.send 1280, .answer 0]

/-- The answer to the first request is handed to the last one. -/
theorem not_answersOwnRequests_run : ¬ ∀ (connection : ConnectionId) (deadline : Duration)
    (events : List Event), (run connection deadline events).AnswersOwnRequests := by
  intro hall
  have hlast : ((run 0 ⟨10⟩ reuse).deliveries.getLast?.map fun delivery =>
      (delivery.request, delivery.outcome.toOption)) = some (128, some 0) := by
    decide +kernel
  obtain ⟨⟨request, outcome⟩, hdelivery, hvalue⟩ := Option.map_eq_some_iff.mp hlast
  cases outcome with
  | error e => exact absurd hvalue (by simp [Except.toOption])
  | ok answered =>
      have hown : answered = request :=
        hall 0 ⟨10⟩ reuse _ (List.mem_of_getLast? hdelivery) answered rfl
      simp only [Except.toOption, Prod.mk.injEq, Option.some.injEq] at hvalue
      omega

end Exchange

end CqlClient
