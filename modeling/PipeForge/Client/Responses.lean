import PipeForge.Client.Withdrawal

/-!
# Responses against an arbitrary peer

A received payload is acceptable for a call when it decodes to a response with the
call's identifier and an outcome its operation can have, and the call is still open
and was handed to the channel. `received_effect` is everything the reader's section
does with a payload: it answers the one call the payload is acceptable for, or ends
the session. Nothing else ever sets a promise to a response.
-/

namespace PipeForge.Client
open Contracts Library Transport

/-- The decode, id, phase and `matches` conditions for one call. -/
structure Acceptable (protobuf : Protocol.Protobuf) (s : ConnectionState) (bytes : Bytes)
    (response : Response) (entry : Address) (call : PendingCall) : Prop where
  decoded : Protocol.decodeResponse protobuf bytes = .ok response
  found : s.calls[entry]? = some call
  numbered : call.request.id = response.id
  unset : call.promise = []
  begun : call.progress = .writing ∨ call.progress = .sent
  matched : matchesOutcome call.request.body response.body = true

theorem Phase.begun_iff (phase : Phase) : phase ≠ .queued ↔ phase = .writing ∨ phase = .sent := by
  cases phase <;> decide

/-! ## Sections without a response -/

/-- A turn that answers no call gives no response. -/
def NoResponse (b b' : Book) : Prop :=
  ∀ (i : Address) (later : PendingCall) (response : Response), b'.calls[i]? = some later →
    .ok response ∈ later.promise → ∃ call, b.calls[i]? = some call ∧ .ok response ∈ call.promise

section
variable {protobuf : Protocol.Protobuf} {b b' : Book}

theorem NoResponse.refl (b : Book) : NoResponse b b :=
  fun _ call _ found member => ⟨call, found, member⟩

theorem NoResponse.trans {first middle last : Book} (earlier : NoResponse first middle)
    (later : NoResponse middle last) : NoResponse first last := by
  intro i final response found member
  obtain ⟨call, here, before⟩ := later i final response found member
  exact earlier i call response here before

/-- Changing the phase, or appending failures to promises. -/
theorem NoResponse.appended (g : Address → PendingCall → List Failure)
    (lookup : ∀ (i : Address) (later : PendingCall), b'.calls[i]? = some later →
      ∃ call, b.calls[i]? = some call ∧
        later.promise = call.promise ++ (g i call).map .error) : NoResponse b b' := by
  intro i later response found member
  obtain ⟨call, here, promise⟩ := lookup i later found
  rw [promise, List.mem_append] at member
  rcases member with before | failed
  · exact ⟨call, here, before⟩
  · obtain ⟨failure, -, impossible⟩ := List.mem_map.mp failed
    cases impossible

theorem NoResponse.advance (entry : Address) (progress : Phase) :
    NoResponse b (b.advance entry progress) := by
  refine .appended (fun _ _ => []) ?_
  intro i later found
  obtain ⟨call, here, rfl⟩ := lookup_modify.mp found
  refine ⟨call, here, ?_⟩
  split <;> simp

/-- No move of the book but an answer puts a response into a promise. -/
theorem Move.noResponse (moved : Move protobuf b b') : NoResponse b b' := by
  cases moved with
  | accept call alive numbered unset fresh room remaining encoded =>
    intro i later response found member
    rcases lookup_append.mp found with old | ⟨-, rfl⟩
    · exact ⟨later, old, member⟩
    · rw [unset] at member
      cases member
  | expire entry call cause alive found held waiting =>
    refine .appended (fun i _ => if i = entry then [cause] else []) ?_
    intro i later present
    obtain ⟨old, here, rfl⟩ := lookup_modify.mp present
    refine ⟨old, here, ?_⟩
    split <;> simp
  | sent entry call alive found begun => exact .advance entry .sent
  | fail cause alive =>
    refine .appended (fun i _ => (b.pending.entries.filter fun e => decide (e.2 = i)).map
      fun e => cause e.1) ?_
    intro i later present
    obtain ⟨old, here, rfl⟩ :=
      (lookup_settle (fun id => .error (cause id)) b.pending.entries).mp present
    exact ⟨old, here, by rw [List.map_map]; rfl⟩

theorem moves_noResponse (moved : Relation.ReflTransGen (Move protobuf) b b') :
    NoResponse b b' := by
  induction moved with
  | refl => exact .refl b
  | tail _ last ih => exact ih.trans last.noResponse

theorem Turn.noResponse {handed : List Handed} (turned : Turn protobuf b handed none b') :
    NoResponse b b' := by
  cases turned with
  | silent _ moved => exact moves_noResponse moved
  | hand entry rest call alive front found => exact .advance entry .writing

end

/-! ## The reader -/

namespace ConnectionState
variable {protobuf : Protocol.Protobuf} {s : ConnectionState}

/-- Ending the session completes every open call and touches no other. -/
theorem failLocked_calls (ledger : Ledger s.book) (alive : s.closed = false) (common : Failure)
    (specificId : UInt64) (specific : Failure) {i : Address} {call : PendingCall}
    (found : s.calls[i]? = some call) (unset : call.promise = []) :
    (s.failLocked common specificId specific).calls[i]? =
      some { call with
        promise := [.error (if call.request.id = specificId then specific else common)] } := by
  have entries := ledger.entries_at found
  rw [if_pos unset] at entries
  have settled := (lookup_settle
    (fun id => .error (if id = specificId then specific else common)) s.pending.entries).mpr
    ⟨call, found, rfl⟩
  change List.filter _ s.pending.entries = _ at entries
  rw [entries, unset] at settled
  simpa [failLocked, alive] using settled

/-- What the reader's section does with a payload while the session is open. -/
inductive ReceiveEffect (protobuf : Protocol.Protobuf) (s : ConnectionState) (bytes : Bytes) :
    ConnectionState → Prop
  | answered (response : Response) (entry : Address) (call : PendingCall)
      (acceptable : Acceptable protobuf s bytes response entry call)
      (current : s.expired call = false) :
      ReceiveEffect protobuf s bytes { s with
        calls := setValue s.calls entry (.ok response)
        pending := s.pending.erase response.id
        reader := .looping }
  | expired (response : Response) (entry : Address) (call : PendingCall)
      (acceptable : Acceptable protobuf s bytes response entry call)
      (overdue : s.expired call = true) :
      ReceiveEffect protobuf s bytes
        { s.failLocked { kind := .disconnected } response.id (s.expiry call.stop) with
          reader := .done }
  | violated (rejected : ∀ response entry call, ¬ Acceptable protobuf s bytes response entry call) :
      ReceiveEffect protobuf s bytes { s.failAll { kind := .protocolViolation } with reader := .done }

/-- The reader's section has three outcomes, and only the one where every check passes answers a
call. -/
theorem received_effect (protobuf : Protocol.Protobuf) (ledger : Ledger s.book) (alive : s.closed = false)
    (receiving : s.reader = .receiving) (bytes : Bytes) :
    ReceiveEffect protobuf s bytes (s.received protobuf (.ok bytes)) := by
  unfold received
  simp only [receiving]
  rw [if_neg (by simp [alive])]
  split
  · rename_i malformed
    refine .violated fun response entry call acceptable => ?_
    rw [acceptable.decoded] at malformed
    cases malformed
  · rename_i response decoded
    have same : ∀ {other : Response} {entry : Address} {call : PendingCall},
        Acceptable protobuf s bytes other entry call → other = response ∧
          s.pending.find response.id = some entry := by
      intro other entry call acceptable
      have equal : other = response := Except.ok.inj (acceptable.decoded.symm.trans decoded)
      refine ⟨equal, ?_⟩
      rw [← equal, ← acceptable.numbered]
      exact (ledger.unset entry call acceptable.found).mp acceptable.unset
    split
    · rename_i unknown
      refine .violated fun other entry call acceptable => ?_
      rw [(same acceptable).2] at unknown
      cases unknown
    · rename_i entry held
      obtain ⟨call, found, numbered⟩ := ledger.keyed response.id entry held
      change s.calls[entry]? = some call at found
      simp only [found]
      split
      · rename_i unacceptable
        refine .violated fun other entry' call' acceptable => ?_
        obtain ⟨equal, held'⟩ := same acceptable
        cases Option.some.inj (held.symm.trans held')
        cases Option.some.inj (found.symm.trans acceptable.found)
        rcases unacceptable with waiting | mismatched
        · exact (Phase.begun_iff _).mpr acceptable.begun waiting
        · rw [← equal, acceptable.matched] at mismatched
          cases mismatched
      · rename_i checks
        obtain ⟨begun, matched⟩ := not_or.mp checks
        have unset : call.promise = [] := by
          apply (ledger.unset entry call found).mpr
          rw [numbered]
          exact held
        have acceptable : Acceptable protobuf s bytes response entry call :=
          ⟨decoded, found, numbered, unset, (Phase.begun_iff _).mp begun, by simpa using matched⟩
        split
        · rename_i overdue
          exact .expired response entry call acceptable overdue
        · rename_i current
          exact .answered response entry call acceptable (by simpa using current)

/-- The payload is only read at the reader's own point. -/
theorem received_elsewhere (elsewhere : s.reader ≠ .receiving ∨ s.closed = true)
    (payload : Transport.Result Bytes) : (s.received protobuf payload).calls = s.calls := by
  unfold received
  split
  · rename_i receiving
    rcases elsewhere with apart | closed
    · exact absurd receiving apart
    · rw [if_pos closed]
  · rfl

end ConnectionState

/-! ## The result -/

/-- The call at `i` was completed with a response. -/
def Answered (s t : ConnectionState) (i : Address) : Prop :=
  ∃ call later response, s.calls[i]? = some call ∧ t.calls[i]? = some later ∧
    .ok response ∉ call.promise ∧ .ok response ∈ later.promise

/-- What a step from `s` to `t` can do with responses. -/
structure ResponseSound (protobuf : Protocol.Protobuf) (s : ConnectionState) (action : Action)
    (t : ConnectionState) : Prop where
  source : ∀ (i : Address) (later : PendingCall) (response : Response), t.calls[i]? = some later →
    .ok response ∈ later.promise →
    (∃ call, s.calls[i]? = some call ∧ .ok response ∈ call.promise) ∨
      ∃ bytes call, action = .received (.ok bytes) ∧ s.reader = .receiving ∧ s.closed = false ∧
        Acceptable protobuf s bytes response i call ∧ s.stopRequested call.stop = false ∧
        s.now < call.deadline
  single : ∀ i j, Answered s t i → Answered s t j → i = j
  answered : ∀ bytes response entry call, action = .received (.ok bytes) → s.reader = .receiving →
    s.closed = false → Acceptable protobuf s bytes response entry call → s.expired call = false →
    t.closed = false ∧ t.calls[entry]? = some { call with promise := [.ok response] }
  rejected : ∀ bytes, action = .received (.ok bytes) → s.reader = .receiving → s.closed = false →
    (∀ response entry call, ¬ Acceptable protobuf s bytes response entry call) →
    t.closed = true ∧ ∀ (i : Address) (call : PendingCall), s.calls[i]? = some call →
      call.promise = [] →
      t.calls[i]? = some { call with promise := [.error { kind := .protocolViolation }] }
  expired : ∀ bytes response entry call, action = .received (.ok bytes) → s.reader = .receiving →
    s.closed = false → Acceptable protobuf s bytes response entry call → s.expired call = true →
    t.closed = true ∧ t.calls[entry]? = some { call with promise := [.error (s.expiry call.stop)] } ∧
      ∀ (i : Address) (other : PendingCall), i ≠ entry → s.calls[i]? = some other →
        other.promise = [] →
        t.calls[i]? = some { other with promise := [.error { kind := .disconnected }] }

section
variable {protobuf : Protocol.Protobuf} {s : ConnectionState}

/-- At most one call is acceptable for a payload. -/
theorem Acceptable.unique (ledger : Ledger s.book) {bytes : Bytes} {response other : Response}
    {i j : Address} {call later : PendingCall} (first : Acceptable protobuf s bytes response i call)
    (second : Acceptable protobuf s bytes other j later) :
    response = other ∧ i = j ∧ call = later := by
  have same : response = other := Except.ok.inj (first.decoded.symm.trans second.decoded)
  have entry : i = j := by
    apply ledger.unique first.found second.found
    rw [first.numbered, second.numbered, same]
  subst entry
  exact ⟨same, rfl, Option.some.inj (first.found.symm.trans second.found)⟩

theorem not_expired {call : PendingCall} (current : s.expired call = false) :
    s.stopRequested call.stop = false ∧ s.now < call.deadline := by
  simp only [ConnectionState.expired, Bool.or_eq_false_iff, decide_eq_false_iff_not] at current
  exact ⟨current.1, Nat.lt_of_not_le current.2⟩

/-- A response in a promise was there before, or the reader has just accepted it for a call that
had not expired. -/
theorem source_of_step (invariant : Invariant s) (action : Action) (i : Address)
    (later : PendingCall) (response : Response)
    (found : (ConnectionState.step protobuf s action).1.calls[i]? = some later)
    (member : .ok response ∈ later.promise) :
    (∃ call, s.calls[i]? = some call ∧ .ok response ∈ call.promise) ∨
      ∃ bytes call, action = .received (.ok bytes) ∧ s.reader = .receiving ∧ s.closed = false ∧
        Acceptable protobuf s bytes response i call ∧ s.stopRequested call.stop = false ∧
        s.now < call.deadline := by
  obtain ⟨reply, turned, reason⟩ :=
    ConnectionState.step_turn protobuf invariant.ledger invariant.busy action
  cases reply with
  | none => exact Or.inl (turned.noResponse i later response found member)
  | some answer =>
    obtain ⟨bytes, rfl, -⟩ := reason answer rfl
    change (s.received protobuf (.ok bytes)).calls[i]? = some later at found
    by_cases listening : s.reader = .receiving ∧ s.closed = false
    · obtain ⟨receiving, alive⟩ := listening
      have effect := ConnectionState.received_effect protobuf invariant.ledger alive
        receiving bytes
      have silent : ∀ {t : ConnectionState}, Relation.ReflTransGen (Move protobuf) s.book t.book →
          t.calls[i]? = some later → ∃ call, s.calls[i]? = some call ∧ .ok response ∈ call.promise :=
        fun moves present => moves_noResponse moves i later response present member
      generalize s.received protobuf (.ok bytes) = t at effect found
      cases effect with
      | answered given entry call acceptable current =>
        obtain ⟨old, here, rfl⟩ := lookup_modify.mp found
        split at member
        · rename_i same
          subst same
          rcases List.mem_append.mp member with before | new
          · exact Or.inl ⟨old, here, before⟩
          · cases List.mem_singleton.mp new
            obtain ⟨unstopped, timely⟩ := not_expired current
            exact Or.inr ⟨bytes, call, rfl, receiving, alive, acceptable, unstopped, timely⟩
        · exact Or.inl ⟨old, here, member⟩
      | expired => exact Or.inl (silent (ConnectionState.failLocked_moves _ _ _) found)
      | violated => exact Or.inl (silent (ConnectionState.failLocked_moves _ _ _) found)
    · have elsewhere : s.reader ≠ .receiving ∨ s.closed = true := by
        by_contra neither
        obtain ⟨reading, unclosed⟩ := not_or.mp neither
        exact listening ⟨not_not.mp reading, by simpa using unclosed⟩
      rw [ConnectionState.received_elsewhere elsewhere] at found
      exact Or.inl ⟨later, found, member⟩

/-- Two calls answered by one step are the same call. -/
theorem single_of_step (invariant : Invariant s) (action : Action) (i j : Address)
    (first : Answered s (ConnectionState.step protobuf s action).1 i)
    (second : Answered s (ConnectionState.step protobuf s action).1 j) : i = j := by
  obtain ⟨call, later, response, here, there, unanswered, answered⟩ := first
  obtain ⟨call', later', response', here', there', unanswered', answered'⟩ := second
  rcases source_of_step invariant action i later response there answered with
    ⟨old, present, member⟩ | ⟨bytes, old, received, -, -, acceptable, -⟩
  · cases Option.some.inj (here.symm.trans present)
    exact absurd member unanswered
  · rcases source_of_step invariant action j later' response' there' answered' with
      ⟨old', present, member⟩ | ⟨bytes', old', received', -, -, acceptable', -⟩
    · cases Option.some.inj (here'.symm.trans present)
      exact absurd member unanswered'
    · cases received.symm.trans received'
      exact (acceptable.unique invariant.ledger acceptable').2.1

section Received
variable {bytes : Bytes} (invariant : Invariant s) (receiving : s.reader = .receiving)
  (alive : s.closed = false)
include invariant receiving alive

/-- An acceptable payload in time answers its call and nothing else happens. -/
theorem received_answers {response : Response} {entry : Address} {call : PendingCall}
    (acceptable : Acceptable protobuf s bytes response entry call)
    (current : s.expired call = false) :
    (s.received protobuf (.ok bytes)).closed = false ∧
      (s.received protobuf (.ok bytes)).calls[entry]? =
        some { call with promise := [.ok response] } := by
  have effect := ConnectionState.received_effect protobuf invariant.ledger alive receiving bytes
  generalize s.received protobuf (.ok bytes) = t at effect
  cases effect with
  | answered given other old acceptable' current' =>
    obtain ⟨rfl, rfl, rfl⟩ := acceptable.unique invariant.ledger acceptable'
    refine ⟨alive, ?_⟩
    simp [setValue, acceptable.found, acceptable.unset]
  | expired given other old acceptable' overdue =>
    obtain ⟨rfl, rfl, rfl⟩ := acceptable.unique invariant.ledger acceptable'
    rw [current] at overdue
    cases overdue
  | violated rejected => exact absurd acceptable (rejected _ _ _)

/-- A payload that is acceptable for no call fails all open ones. -/
theorem received_rejects
    (none : ∀ response entry call, ¬ Acceptable protobuf s bytes response entry call) :
    (s.received protobuf (.ok bytes)).closed = true ∧
      ∀ (i : Address) (call : PendingCall), s.calls[i]? = some call → call.promise = [] →
        (s.received protobuf (.ok bytes)).calls[i]? =
          some { call with promise := [.error { kind := .protocolViolation }] } := by
  have effect := ConnectionState.received_effect protobuf invariant.ledger alive receiving bytes
  generalize s.received protobuf (.ok bytes) = t at effect
  cases effect with
  | answered given other old acceptable => exact absurd acceptable (none _ _ _)
  | expired given other old acceptable => exact absurd acceptable (none _ _ _)
  | violated rejected =>
    refine ⟨ConnectionState.failLocked_closed _ _ _, fun i call found unset => ?_⟩
    have settled := ConnectionState.failLocked_calls invariant.ledger alive
      { kind := .protocolViolation } 0 {} found unset
    rw [if_neg (invariant.ledger.nonzero i call found)] at settled
    exact settled

/-- An acceptable payload that is late fails its call by its expiry and ends the session. -/
theorem received_expires {response : Response} {entry : Address} {call : PendingCall}
    (acceptable : Acceptable protobuf s bytes response entry call)
    (overdue : s.expired call = true) :
    (s.received protobuf (.ok bytes)).closed = true ∧
      (s.received protobuf (.ok bytes)).calls[entry]? =
        some { call with promise := [.error (s.expiry call.stop)] } ∧
      ∀ (i : Address) (other : PendingCall), i ≠ entry → s.calls[i]? = some other →
        other.promise = [] → (s.received protobuf (.ok bytes)).calls[i]? =
          some { other with promise := [.error { kind := .disconnected }] } := by
  have effect := ConnectionState.received_effect protobuf invariant.ledger alive receiving bytes
  generalize s.received protobuf (.ok bytes) = t at effect
  cases effect with
  | answered given other old acceptable' current =>
    obtain ⟨rfl, rfl, rfl⟩ := acceptable.unique invariant.ledger acceptable'
    rw [overdue] at current
    cases current
  | expired given other old acceptable' overdue' =>
    obtain ⟨rfl, rfl, rfl⟩ := acceptable.unique invariant.ledger acceptable'
    have settled {i : Address} {one : PendingCall} (found : s.calls[i]? = some one)
        (unset : one.promise = []) :=
      ConnectionState.failLocked_calls invariant.ledger alive { kind := .disconnected } response.id
        (s.expiry call.stop) found unset
    refine ⟨ConnectionState.failLocked_closed _ _ _, ?_, fun i other apart found unset => ?_⟩
    · have own := settled acceptable.found acceptable.unset
      rw [if_pos acceptable.numbered] at own
      exact own
    · have others := settled found unset
      rw [if_neg fun same => apart (invariant.ledger.unique found acceptable.found
        (same.trans acceptable.numbered.symm))] at others
      exact others
  | violated rejected => exact absurd acceptable (rejected _ _ _)

end Received

/-- Responses are sound in every step from a state with the invariant. -/
theorem step_responses (protobuf : Protocol.Protobuf) (invariant : Invariant s) (action : Action) :
    ResponseSound protobuf s action (ConnectionState.step protobuf s action).1 where
  source := source_of_step invariant action
  single := single_of_step invariant action
  answered bytes response entry call received receiving alive acceptable current := by
    subst received
    exact received_answers invariant receiving alive acceptable current
  rejected bytes received receiving alive none := by
    subst received
    exact received_rejects invariant receiving alive none
  expired bytes response entry call received receiving alive acceptable overdue := by
    subst received
    exact received_expires invariant receiving alive acceptable overdue

end

/-- Whatever the peer sends and whenever it sends it, a call is answered only by a
response that is its own, and any other payload ends the session. -/
theorem responses_sound (protobuf : Protocol.Protobuf) (opener : Bool) (actions : List Action)
    (action : Action) :
    ResponseSound protobuf (ConnectionState.run protobuf opener actions).1 action
      (ConnectionState.run protobuf opener (actions ++ [action])).1 := by
  have invariant := ConnectionState.run_invariant protobuf opener actions
  have sound := step_responses protobuf invariant action
  simpa only [ConnectionState.run, Transition.run_append, Transition.run] using sound

end PipeForge.Client
