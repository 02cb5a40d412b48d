import PipeForge.EndToEnd.Flow

/-!
# End-to-end agreement

The composed system keeps the flow between client and server, so every execution
belongs to one admitted call, executions follow the order of the identifiers, and
a future that holds a response holds the outcome of the one execution of its call.
The reader never closes a session for a payload of this server.
-/

namespace PipeForge.EndToEnd
open Contracts Library Protocol Domain Server Client

/-! ## The client accepts whatever the store returns -/

@[simp] theorem matchesOutcome_error (operation : Operation) (error : RemoteError) :
    matchesOutcome operation (.error error) = true := by
  cases operation <;> rfl

section
variable {registry : ClassRegistry} {ids : IdentifierSource} {store : SessionStore}

/-- `get_object` returns the snapshot asked for or an error. -/
theorem getObject_cases (store : SessionStore) (id : UInt64) :
    (∃ snapshot, store.applyGetObject id = .object snapshot ∧ snapshot.id = id) ∨
      ∃ error, store.applyGetObject id = .error error := by
  unfold SessionStore.applyGetObject
  split
  · exact Or.inr ⟨_, rfl⟩
  · split
    · exact Or.inr ⟨_, rfl⟩
    · split
      · exact Or.inr ⟨_, rfl⟩
      · exact Or.inl ⟨_, rfl, rfl⟩

/-- An operation that reads is answered with its own kind of outcome. -/
theorem reads_match {operation : Operation} (reads : Operation.reads operation = true) :
    matchesOutcome operation (store.execute registry ids operation).outcome = true := by
  unfold SessionStore.execute
  split
  · exact matchesOutcome_error _ _
  · cases operation with
    | listClasses after limit =>
      simp only [SessionStore.answer, SessionStore.applyListClasses]
      split
      · rfl
      · exact matchesOutcome_error _ _
    | describeClass name =>
      simp only [SessionStore.answer, SessionStore.applyDescribeClass]
      split
      · exact matchesOutcome_error _ _
      · split
        · exact matchesOutcome_error _ _
        · rename_i definition found
          exact decide_eq_true (ClassRegistry.find_mem found).2
    | getValue id =>
      simp only [SessionStore.answer, SessionStore.applyGetValue]
      split
      · exact matchesOutcome_error _ _
      · split
        · exact matchesOutcome_error _ _
        · exact decide_eq_true rfl
    | listValues after limit =>
      simp only [SessionStore.answer, SessionStore.applyListValues]
      split
      · exact matchesOutcome_error _ _
      · rfl
    | getObject id =>
      rcases getObject_cases store id with ⟨snapshot, returned, same⟩ | ⟨error, returned⟩
      · simp only [SessionStore.answer, returned]
        exact decide_eq_true same
      · simp only [SessionStore.answer, returned, matchesOutcome_error]
    | getAttribute id name =>
      simp only [SessionStore.answer, SessionStore.applyGetAttribute]
      split
      · exact matchesOutcome_error _ _
      · rcases getObject_cases store id with ⟨snapshot, returned, -⟩ | ⟨error, returned⟩
        · simp only [returned]
          split
          · exact matchesOutcome_error _ _
          · rfl
        · simp only [returned, matchesOutcome_error]
    | _ => cases reads

/-- Every outcome of the store is one its operation can have. -/
theorem execute_matches (operation : Operation) :
    matchesOutcome operation (store.execute registry ids operation).outcome = true := by
  by_cases reads : Operation.reads operation = true
  · exact reads_match reads
  · have effect := execute_effect registry store ids operation
    generalize store.execute registry ids operation = done at effect
    cases effect with
    | failed _ code => exact matchesOutcome_error _ _
    | answered _ _ _ reading => exact absurd reading reads
    | put data id ids' opened valid room fits drawn =>
      exact Value.sameAs_self data (validValue_finite valid)
    | created => exact decide_eq_true rfl
    | released => rfl
    | invoked => rfl

end

/-! ## The invariant of the system -/

namespace System

/-- The request the server has received and not yet run. -/
def inHand (s : System) : List Bytes :=
  match s.session.point with
  | .dispatching payload => [payload]
  | _ => []

/-- The requests that may still be executed, oldest first. -/
def requests (s : System) : List Bytes := s.inHand ++ s.toServer.payloads

end System

structure Coherent (protobuf : Protobuf) (registry : ClassRegistry) (s : System)
    (log : List Execution) : Prop where
  client : Invariant s.client
  flow : ∃ executed answering waiting, Flow protobuf s.client.book log s.toClient.payloads s.requests
    executed answering waiting
  store : Sound registry s.server.ids s.session.store
  others : World.AllSound registry ⟨s.server.ids, s.others⟩

section
variable {protobuf : Protobuf} {registry : ClassRegistry} {s : System} {log : List Execution}

theorem start_coherent (opener : Bool) (limits : SessionLimits) (first : UInt64) :
    Coherent protobuf registry (System.start opener limits first) [] where
  client := ConnectionState.initial_invariant opener
  flow := ⟨[], [], [],
    { encoded := fun i call found => by cases found
      logged := .nil
      unread := .slnil
      replied := .nil
      requested := .nil
      line := .nil
      begun := nofun
      unresolved := nofun
      genuine := fun i call response found => by cases found
      matched := nofun }⟩
  store := create_sound registry _ limits
  others := fun session store found => by cases found

namespace Coherent

/-- A step that only moves or loses payloads and leaves store and client alone. -/
theorem move (coherent : Coherent protobuf registry s log) {t : System}
    (client : t.client = s.client) (ids : t.server.ids = s.server.ids)
    (store : t.session.store = s.session.store) (others : t.others = s.others)
    (replies : t.toClient.payloads.Sublist s.toClient.payloads)
    (requests : t.requests.Sublist s.requests) : Coherent protobuf registry t log := by
  obtain ⟨executed, answering, waiting, flow⟩ := coherent.flow
  obtain ⟨answering', waiting', fewer⟩ := flow.lose replies requests
  refine ⟨client ▸ coherent.client, ⟨executed, answering', waiting', client ▸ fewer⟩, ?_, ?_⟩
  · rw [ids, store]
    exact coherent.store
  · rw [ids, others]
    exact coherent.others

/-- What the client sends is added to the requests on their way; nothing else is. -/
theorem requestChannel_payloads (action : Client.Action) (handed : List Handed) :
    (s.requestChannel action handed).payloads.Sublist
      (s.toServer.payloads ++ handed.map (·.payload)) := by
  unfold System.requestChannel
  split
  · exact s.toServer.returned_payloads.trans (List.sublist_append_left _ _)
  · rename_i one rest _
    refine (s.toServer.send_payloads one.payload).trans (List.Sublist.append_left ?_ _)
    exact (List.nil_sublist _).cons_cons _
  · exact List.sublist_append_left _ _

/-- What the client receives is the oldest reply on its way. -/
theorem replyChannel_payloads {action : Client.Action} (permitted : s.permits action = true) :
    (s.replyChannel action).payloads.Sublist s.toClient.payloads ∧
      ∀ bytes, action = .received (.ok bytes) →
        s.toClient.payloads = bytes :: (s.replyChannel action).payloads := by
  unfold System.replyChannel
  split
  · rename_i payload
    simp only [System.permits, Bool.and_eq_true, decide_eq_true_eq] at permitted
    have whole := s.toClient.take_payloads permitted.2
    refine ⟨?_, ?_⟩
    · rw [whole]
      exact List.sublist_cons_self _ _
    · intro bytes same
      cases same
      exact whole
  · rename_i other
    exact ⟨List.Sublist.refl _, fun bytes same => absurd same (other bytes)⟩

/-- A step of the client keeps requests and replies in line with the book. -/
theorem clientStep (coherent : Coherent protobuf registry s log) (action : Client.Action) :
    Coherent protobuf registry (s.stepClient protobuf action) log := by
  unfold System.stepClient
  split
  · rename_i permitted
    have since := ConnectionState.step_since protobuf coherent.client action
    obtain ⟨reply, turned, source⟩ :=
      ConnectionState.step_turn protobuf coherent.client.ledger coherent.client.busy action
    obtain ⟨executed, answering, waiting, flow⟩ := coherent.flow
    obtain ⟨fewer, oldest⟩ := replyChannel_payloads permitted
    have sent : (s.inHand ++
        (s.requestChannel action (s.client.step protobuf action).2).payloads).Sublist
        (s.requests ++ (s.client.step protobuf action).2.map (·.payload)) := by
      rw [System.requests, List.append_assoc]
      exact (requestChannel_payloads action _).append_left _
    obtain ⟨answering', waiting', after⟩ := flow.turn coherent.client.ledger turned
      (fun _ => fewer)
      (fun response equal => by
        obtain ⟨bytes, same, decoded⟩ := source response equal
        exact ⟨bytes, oldest bytes same, decoded⟩) sent
    exact ⟨since.invariant, ⟨executed, answering', waiting', after⟩, coherent.store,
      coherent.others⟩
  · exact coherent

theorem receiveStep (coherent : Coherent protobuf registry s log)
    (failure : Option Transport.Failure) :
    Coherent protobuf registry (s.stepReceive failure) log := by
  unfold System.stepReceive
  split
  · rename_i receiving
    simp only [Session.received, receiving]
    refine coherent.move rfl rfl rfl rfl (List.Sublist.refl _) ?_
    simp [System.requests, System.inHand, receiving]
  · rename_i payload rest receiving inFlight
    simp only [Session.received, receiving]
    refine coherent.move rfl rfl rfl rfl (List.Sublist.refl _) ?_
    have oldest : s.toServer.inFlight.head? = some payload := by rw [inFlight]; rfl
    have whole := s.toServer.take_payloads oldest
    simp [System.requests, System.inHand, receiving, whole]
  · exact coherent

theorem sentStep (coherent : Coherent protobuf registry s log) (result : Transport.Result Nat) :
    Coherent protobuf registry (s.stepSent result) log := by
  unfold System.stepSent
  split
  · rename_i encoded replying
    split
    · exact coherent
    · simp only [Session.sent, replying]
      split <;>
        refine coherent.move rfl rfl rfl rfl s.toClient.returned_payloads ?_ <;>
        simp [System.requests, System.inHand, replying]
  · exact coherent

theorem loopStep (coherent : Coherent protobuf registry s log) :
    Coherent protobuf registry { s with session := s.session.loop s.server } log := by
  unfold Session.loop
  split
  · rename_i looping
    split <;>
      refine coherent.move rfl rfl rfl rfl (List.Sublist.refl _) ?_ <;>
      simp [System.requests, System.inHand, looping]
  · exact coherent

theorem refuseStep (coherent : Coherent protobuf registry s log) (failure : Transport.Failure) :
    Coherent protobuf registry
      { s with
        server := (s.session.refused s.server failure).1
        session := (s.session.refused s.server failure).2 } log := by
  unfold Session.refused
  split
  · refine coherent.move rfl rfl rfl rfl (List.Sublist.refl _) ?_
    exact List.sublist_append_right _ _
  · exact coherent

theorem finishStep (coherent : Coherent protobuf registry s log) :
    Coherent protobuf registry { s with session := s.session.finish } log := by
  unfold Session.finish
  split
  · rename_i closing
    obtain ⟨executed, answering, waiting, flow⟩ := coherent.flow
    refine ⟨coherent.client, ⟨executed, answering, waiting, ?_⟩, coherent.store.close,
      coherent.others⟩
    simpa [System.requests, System.inHand, closing] using flow
  · exact coherent

theorem otherStep (coherent : Coherent protobuf registry s log) (action : Domain.Action) :
    Coherent protobuf registry
      { s with
        server := { s.server with
          ids := (World.step registry ⟨s.server.ids, s.others⟩ action).1.ids }
        others := (World.step registry ⟨s.server.ids, s.others⟩ action).1.sessions } log := by
  have taken := World.step_spec registry ⟨s.server.ids, s.others⟩ action
  have advances := World.step_advances coherent.others taken
  exact ⟨coherent.client, coherent.flow, coherent.store.advance advances,
    World.step_sound coherent.others taken⟩

/-- The request in hand is executed, its outcome encodes, and the client will accept
it. -/
theorem handleStep (coherent : Coherent protobuf registry s log) (conforms : protobuf.Conforms) :
    Coherent protobuf registry (s.stepHandle protobuf registry)
      (log ++ s.executions protobuf registry) := by
  cases point : s.session.point with
  | dispatching payload =>
    obtain ⟨executed, answering, waiting, flow⟩ := coherent.flow
    have whole : s.requests = payload :: s.toServer.payloads := by
      simp only [System.requests, System.inHand, point, List.singleton_append]
    rw [whole] at flow
    obtain ⟨request, decoded⟩ := flow.decodes conforms
    have nonzero := (decodeRequest_supported decoded).1
    have sound := execute_soundOutcome coherent.store request.body
    obtain ⟨reply, encoded⟩ := encodeResponse_sound conforms sound nonzero
    have handled := handled_executed decoded registry s.server s.session point encoded
    have executions : s.executions protobuf registry =
        [⟨request, (s.session.store.execute registry s.server.ids request.body).outcome⟩] := by
      simp only [System.executions, point, executes_decoded decoded]
    obtain ⟨entry, waiting', after⟩ := flow.execute ⟨request, _⟩ conforms decoded encoded
      (execute_matches request.body)
    obtain ⟨kept, advances⟩ := effect_sound coherent.store
      (execute_effect registry s.session.store s.server.ids request.body)
    rw [executions]
    simp only [System.stepHandle, handled, point]
    obtain ⟨answering', waiting', final⟩ := after.lose (s.toClient.send_payloads reply)
      (List.Sublist.refl _)
    exact ⟨coherent.client, ⟨_, answering', waiting', final⟩, kept,
      fun session store found => (coherent.others session store found).advance advances⟩
  | _ =>
    simp only [System.stepHandle, System.executions, Session.handled, point, List.append_nil]
    exact coherent

/-- Every step keeps the invariant, with the executions it adds to the log. -/
theorem step (coherent : Coherent protobuf registry s log) (conforms : protobuf.Conforms)
    (action : Action) : Coherent protobuf registry (s.step protobuf registry action).1
      (log ++ (s.step protobuf registry action).2) := by
  cases action with
  | serverHandle => exact coherent.handleStep conforms
  | client action => simpa [System.step] using coherent.clientStep action
  | deliverRequest =>
    have whole := s.toServer.deliver_payloads
    simp only [System.step, List.append_nil]
    refine coherent.move rfl rfl rfl rfl (List.Sublist.refl _) ?_
    simp only [System.requests, System.inHand, whole]
    exact List.Sublist.refl _
  | deliverReply =>
    have whole := s.toClient.deliver_payloads
    simp only [System.step, List.append_nil]
    exact coherent.move rfl rfl rfl rfl (whole ▸ List.Sublist.refl _) (List.Sublist.refl _)
  | serverLoop => simpa [System.step] using coherent.loopStep
  | serverReceive failure => simpa [System.step] using coherent.receiveStep failure
  | serverRefuse failure => simpa [System.step] using coherent.refuseStep failure
  | serverSent result => simpa [System.step] using coherent.sentStep result
  | serverFinish => simpa [System.step] using coherent.finishStep
  | serverStop =>
    simp only [System.step, List.append_nil]
    exact coherent.move rfl rfl rfl rfl (List.Sublist.refl _) (List.Sublist.refl _)
  | other action => simpa [System.step] using coherent.otherStep action

end Coherent

/-- The invariant holds of every run, from the start of both sides. -/
theorem run_coherent (conforms : protobuf.Conforms) (opener : Bool) (limits : SessionLimits)
    (first : UInt64) (actions : List Action) :
    Coherent protobuf registry (System.run protobuf registry opener limits first actions).1
      (System.run protobuf registry opener limits first actions).2 :=
  Transition.run_invariant (System.step protobuf registry)
    (fun s log => Coherent protobuf registry s log) _ []
    (start_coherent opener limits first)
    (fun _ _ action coherent => coherent.step conforms action) actions

end

/-! ## The result -/

/-- The executions of one call. -/
def executionsOf (log : List Execution) (call : PendingCall) : List Execution :=
  log.filter fun execution => decide (execution.request.id = call.request.id)

/-- What client and server agree on after a run that executed `log`. -/
structure Agreement (protobuf : Protobuf) (s : System) (log : List Execution) : Prop where
  /-- Only what a call asked for is executed. -/
  requested : ∀ execution ∈ log, ∃ call ∈ s.client.calls, call.request = execution.request
  once : ∀ call ∈ s.client.calls, (executionsOf log call).length ≤ 1
  ordered : log.Pairwise fun a b => a.request.id < b.request.id
  /-- A future with a response belongs to one execution and holds its outcome. -/
  answered : ∀ call ∈ s.client.calls, ∀ response, .ok response ∈ call.promise →
    ∃ execution, executionsOf log call = [execution] ∧ execution.request = call.request ∧
      response.id = call.request.id ∧ response.body = execution.outcome
  /-- The next payload is the reply to a pending call that has been handed over. -/
  expected : s.client.closed = false → ∀ payload, s.toClient.inFlight.head? = some payload →
    ∃ response entry call, decodeResponse protobuf payload = .ok response ∧
      s.client.pending.find response.id = some entry ∧ s.client.calls[entry]? = some call ∧
      call.progress ≠ .queued ∧ matchesOutcome call.request.body response.body = true
  /-- No result of the channel makes the reader report a protocol violation. -/
  trusted : ∀ result, s.permits (.received result) = true →
    ∀ (entry : Address) (later : PendingCall) (failure : Client.Failure),
      (s.client.received protobuf result).calls[entry]? = some later →
      .error failure ∈ later.promise → failure.kind = .protocolViolation →
      ∃ call, s.client.calls[entry]? = some call ∧ .error failure ∈ call.promise

theorem translate_kind {error : Transport.Failure} (framed : error.kind ≠ .protocolViolation) :
    (Client.translate error).kind ≠ .protocolViolation := by
  unfold Client.translate
  split <;> simp_all

/-- Failing the session gives pending calls one of two failures. -/
theorem failLocked_promise {s : ConnectionState} {common specific failure : Client.Failure}
    {specificId : UInt64} {entry : Address} {later : PendingCall}
    (found : (s.failLocked common specificId specific).calls[entry]? = some later)
    (member : .error failure ∈ later.promise) :
    (∃ call, s.calls[entry]? = some call ∧ .error failure ∈ call.promise) ∨
      failure = common ∨ failure = specific := by
  unfold ConnectionState.failLocked at found
  split at found
  · exact Or.inl ⟨later, found, member⟩
  · obtain ⟨call, before, rfl⟩ := (lookup_settle
      (fun id => .error (if id = specificId then specific else common)) s.pending.entries).mp found
    rcases List.mem_append.mp member with old | new
    · exact Or.inl ⟨call, before, old⟩
    · obtain ⟨pair, -, value⟩ := List.mem_map.mp new
      have value := Except.error.inj value
      split at value
      · exact Or.inr (Or.inr value.symm)
      · exact Or.inr (Or.inl value.symm)

/-- A reader that meets no framing failure and only expected payloads never reports
a protocol violation. -/
theorem received_trusted {protobuf : Protobuf} {s : ConnectionState}
    {result : Transport.Result Bytes}
    (framed : ∀ error, result = .error error → error.kind ≠ .protocolViolation)
    (expected : ∀ payload, result = .ok payload → s.reader = .receiving → s.closed = false →
      ∃ response entry call, decodeResponse protobuf payload = .ok response ∧
        s.pending.find response.id = some entry ∧ s.calls[entry]? = some call ∧
        call.progress ≠ .queued ∧ matchesOutcome call.request.body response.body = true)
    {entry : Address} {later : PendingCall} {failure : Client.Failure}
    (found : (s.received protobuf result).calls[entry]? = some later)
    (member : .error failure ∈ later.promise) (violation : failure.kind = .protocolViolation) :
    ∃ call, s.calls[entry]? = some call ∧ .error failure ∈ call.promise := by
  have spared : ∀ {common specific : Client.Failure} {specificId : UInt64},
      common.kind ≠ .protocolViolation → specific.kind ≠ .protocolViolation →
      (s.failLocked common specificId specific).calls[entry]? = some later →
      ∃ call, s.calls[entry]? = some call ∧ .error failure ∈ call.promise := by
    intro common specific specificId harmless also present
    rcases failLocked_promise present member with before | rfl | rfl
    · exact before
    · exact absurd violation harmless
    · exact absurd violation also
  have expiry : ∀ stop, (s.expiry stop).kind ≠ .protocolViolation := by
    intro stop
    unfold ConnectionState.expiry
    split <;> simp
  unfold ConnectionState.received at found
  split at found
  · rename_i receiving
    split at found
    · exact ⟨later, found, member⟩
    · rename_i alive
      split at found
      · rename_i error
        exact spared (translate_kind (framed error rfl)) (by decide) found
      · rename_i payload
        obtain ⟨response, own, call, decoded, held, present, begun, matched⟩ :=
          expected payload rfl receiving (Bool.eq_false_iff.mpr alive)
        simp only [decoded, held, present, begun, matched, false_or, Bool.true_eq_false,
          if_false] at found
        split at found
        · exact spared (by decide) (expiry _) found
        · obtain ⟨old, before, rfl⟩ := lookup_modify.mp found
          refine ⟨old, before, ?_⟩
          split at member
          · simpa using member
          · exact member
  · exact ⟨later, found, member⟩

/-- Agreement is what the invariant says of finished calls. -/
theorem Coherent.agreement {protobuf : Protobuf} {registry : ClassRegistry} {s : System}
    {log : List Execution} (coherent : Coherent protobuf registry s log) :
    Agreement protobuf s log := by
  obtain ⟨executed, answering, waiting, flow⟩ := coherent.flow
  have ledger := coherent.client.ledger
  have ordered := flow.increasing ledger
  have single : ∀ {call : PendingCall} {execution : Execution}, execution ∈ log →
      execution.request.id = call.request.id → executionsOf log call = [execution] := by
    intro call execution listed same
    rw [executionsOf, ← same]
    exact OrderedMap.filter_unique (fun e : Execution => e.request.id) ordered listed
  have expected : s.client.closed = false → ∀ payload, s.toClient.inFlight.head? = some payload →
      ∃ response entry call, decodeResponse protobuf payload = .ok response ∧
        s.client.pending.find response.id = some entry ∧ s.client.calls[entry]? = some call ∧
        call.progress ≠ .queued ∧ matchesOutcome call.request.body response.body = true := by
    intro alive payload oldest
    rw [s.toClient.take_payloads oldest] at flow
    exact flow.accepts ledger alive
  refine ⟨?_, ?_, ordered, ?_, expected, ?_⟩
  · intro execution listed
    obtain ⟨entry, -, call, found, same⟩ := forall₂_right flow.logged listed
    exact ⟨call, List.mem_of_getElem? found, same⟩
  · intro call member
    rcases List.eq_nil_or_concat (executionsOf log call) with none | ⟨front, last, some⟩
    · simp [none]
    · have listed : last ∈ executionsOf log call := by simp [some]
      obtain ⟨executed, same⟩ := List.mem_filter.mp listed
      rw [single executed (of_decide_eq_true same)]
      exact Nat.le_refl 1
  · intro call member response held
    obtain ⟨i, found⟩ := List.mem_iff_getElem?.mp member
    obtain ⟨execution, listed, same, rfl⟩ := flow.genuine i call response found held
    exact ⟨execution, single listed (by rw [same]), same, rfl, rfl⟩
  · intro result permitted entry later failure
    apply received_trusted
    · rintro error rfl
      simpa [System.permits] using permitted
    · rintro payload rfl _ alive
      simp only [System.permits, Bool.and_eq_true, decide_eq_true_eq] at permitted
      exact expected alive payload permitted.2

/-- For every interleaving of client sections, server sections, deliveries, clock,
stops, failures and other sessions, client and server agree. -/
theorem client_and_server_agree (protobuf : Protobuf) (conforms : protobuf.Conforms)
    (registry : ClassRegistry) (opener : Bool) (limits : SessionLimits) (first : UInt64)
    (actions : List Action) :
    Agreement protobuf (System.run protobuf registry opener limits first actions).1
      (System.run protobuf registry opener limits first actions).2 :=
  (run_coherent conforms opener limits first actions).agreement

/-- Connect, submit one page request and serve it to the end. -/
def servedCall : List Action :=
  [.client (.connect (Transport.pipeRoot ++ [0x61]) 100 0 (.ok ())), .client .beginOpening,
    .client (.openReturned (.ok true)), .client .publishOpened, .client .readerConnected,
    .client .readerLoop, .client (.call (.listValues 0 2) 100 1), .client .takeQueued,
    .deliverRequest, .serverLoop, .serverReceive none, .serverHandle, .deliverReply,
    .client (.received (.ok [8, 1, 16, 1, 106, 0]))]

/-- The call is executed once and its future holds the outcome. -/
theorem client_and_server_agree_served :
    (System.run referenceProtobuf builtinRegistry true ⟨4, 4, 4096⟩ 1 servedCall).2 =
        [⟨⟨1, .listValues 0 2, 1⟩, .values ⟨[], 0⟩⟩] ∧
      (System.run referenceProtobuf builtinRegistry true ⟨4, 4, 4096⟩ 1 servedCall).1.client.calls.map
        (·.promise) = [[.ok ⟨1, .values ⟨[], 0⟩, 1⟩]] ∧
      Agreement referenceProtobuf
        (System.run referenceProtobuf builtinRegistry true ⟨4, 4, 4096⟩ 1 servedCall).1
        (System.run referenceProtobuf builtinRegistry true ⟨4, 4, 4096⟩ 1 servedCall).2 :=
  ⟨by decide +kernel, by decide +kernel,
    client_and_server_agree referenceProtobuf referenceProtobuf_conforms builtinRegistry true
      ⟨4, 4, 4096⟩ 1 servedCall⟩

end PipeForge.EndToEnd
