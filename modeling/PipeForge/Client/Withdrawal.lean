import PipeForge.Client.Sending

/-!
# Cancelling an unsent call is local

A queued call that is cancelled or out of time is completed and taken off the
queue by the writer or by the monitor's pass. As long as the session stays open
this touches no other call: what is not itself queued and expired keeps its
promise, its phase and its place, and the withdrawn payload is never handed to the
channel.
-/

namespace PipeForge.Client
open Contracts Library Transport

/-! ## Withdrawing -/

/-- From `s` to `t` some queued calls that had expired were completed, and nothing
else happened to the calls and the queue. -/
structure Withdraws (s t : ConnectionState) : Prop where
  length : t.calls.length = s.calls.length
  calls : ∀ (i : Address) (call : PendingCall), s.calls[i]? = some call →
    t.calls[i]? = some call ∨
      (call.promise = [] ∧ call.progress = .queued ∧ s.expired call = true ∧
        t.calls[i]? = some { call with promise := [.error (s.expiry call.stop)] })
  queued : t.queued = s.queued.filter fun i => decide (t.calls[i]? = s.calls[i]?)

/-- The clock and the stop requests, which decide what has expired. -/
def ConnectionState.SameClock (s t : ConnectionState) : Prop := t.now = s.now ∧ t.stops = s.stops

theorem Withdraws.refl (s : ConnectionState) : Withdraws s s where
  length := rfl
  calls _ _ found := Or.inl found
  queued := by simp

/-- Withdrawals compose as long as the clock they are judged by stands still. -/
theorem Withdraws.trans {s t u : ConnectionState} (clock : s.SameClock t) (first : Withdraws s t)
    (second : Withdraws t u) : Withdraws s u := by
  obtain ⟨now, stops⟩ := clock
  have expired : ∀ call, t.expired call = s.expired call := by
    intro call
    simp [ConnectionState.expired, ConnectionState.stopRequested, now, stops]
  have expiry : ∀ stop, t.expiry stop = s.expiry stop := by
    intro stop
    simp [ConnectionState.expiry, ConnectionState.stopRequested, stops]
  -- A call completed first is not touched again.
  have kept : ∀ (i : Address) (call : PendingCall), t.calls[i]? = some call → call.promise ≠ [] →
      u.calls[i]? = some call := by
    intro i call found set
    rcases second.calls i call found with same | ⟨unset, -⟩
    · exact same
    · exact absurd unset set
  refine ⟨second.length.trans first.length, fun i call found => ?_, ?_⟩
  · rcases first.calls i call found with same | ⟨unset, waiting, overdue, done⟩
    · rcases second.calls i call same with again | ⟨unset, waiting, overdue, done⟩
      · exact Or.inl again
      · rw [expired] at overdue
        rw [expiry] at done
        exact Or.inr ⟨unset, waiting, overdue, done⟩
    · exact Or.inr ⟨unset, waiting, overdue, kept i _ done (by simp)⟩
  · rw [second.queued, first.queued, List.filter_filter]
    apply List.filter_congr
    intro i _
    rw [← Bool.decide_and]
    apply decide_eq_decide.mpr
    constructor
    · intro both
      exact both.1.trans both.2
    · intro same
      cases found : s.calls[i]? with
      | none =>
        have beyond := List.getElem?_eq_none_iff.mp found
        have gone : t.calls[i]? = none :=
          List.getElem?_eq_none_iff.mpr (by rw [first.length]; exact beyond)
        rw [same, found, gone]
        exact ⟨rfl, rfl⟩
      | some call =>
        rcases first.calls i call found with middle | ⟨unset, -, -, done⟩
        · rw [same, found, middle]
          exact ⟨rfl, rfl⟩
        · have last := kept i _ done (by simp)
          rw [same, found] at last
          have promise := congrArg PendingCall.promise (Option.some.inj last)
          rw [unset] at promise
          cases promise

/-- Completing one queued call and taking it off the queue. -/
theorem Withdraws.single {s t : ConnectionState} {entry : Address} {call : PendingCall}
    (found : s.calls[entry]? = some call) (unset : call.promise = [])
    (waiting : call.progress = .queued) (overdue : s.expired call = true)
    (calls : t.calls = setValue s.calls entry (.error (s.expiry call.stop)))
    (queued : t.queued = s.queued.filter fun other => decide (other ≠ entry)) : Withdraws s t := by
  have lookup : ∀ i, t.calls[i]? =
      if i = entry then some { call with promise := [.error (s.expiry call.stop)] }
      else s.calls[i]? := by
    intro i
    rw [calls, setValue, List.getElem?_modify]
    by_cases same : entry = i
    · subst same
      simp [found, unset]
    · simp [same, Ne.symm same]
  refine ⟨?_, fun i other here => ?_, ?_⟩
  · rw [calls, setValue, List.length_modify]
  · rw [lookup]
    by_cases same : i = entry
    · subst same
      cases Option.some.inj (here.symm.trans found)
      exact Or.inr ⟨unset, waiting, overdue, if_pos rfl⟩
    · exact Or.inl (by rw [if_neg same, here])
  · rw [queued]
    apply List.filter_congr
    intro i _
    apply decide_eq_decide.mpr
    rw [lookup]
    by_cases same : i = entry
    · subst same
      refine iff_of_false (fun apart => apart rfl) ?_
      rw [if_pos rfl, found]
      intro equal
      have promise := congrArg PendingCall.promise (Option.some.inj equal)
      rw [unset] at promise
      cases promise
    · simp [same]

/-! ## Sections that leave the session open -/

/-- No call has gained a failure. -/
def Steady (s t : ConnectionState) : Prop :=
  ∀ (i : Address) (call later : PendingCall), s.calls[i]? = some call → t.calls[i]? = some later →
    later.promise = call.promise ∨ ∃ response, later.promise = call.promise ++ [.ok response]

namespace ConnectionState
variable {protobuf : Protocol.Protobuf} {s t : ConnectionState}

/-- Where the calls are as they were, none has failed. -/
theorem steady_of_calls (same : t.calls = s.calls) : Steady s t := by
  intro i call later here there
  rw [same, here] at there
  cases there
  exact Or.inl rfl

/-- After `fail_locked` the session is closed, whoever closed it. -/
theorem failLocked_closed (common : Failure) (specificId : UInt64) (specific : Failure) :
    (s.failLocked common specificId specific).closed = true := by
  unfold failLocked
  split
  · assumption
  · rfl

/-- What `fail_locked` leaves behind is closed, whatever thread point follows. -/
theorem failed_closed {u : ConnectionState} {common specific : Failure} {specificId : UInt64}
    (alive : (u.failLocked common specificId specific).closed = false) : Steady s t := by
  rw [failLocked_closed] at alive
  cases alive

/-- A `connect_async` that leaves the session open fails no call. -/
theorem connectAsync_steady (endpoint : WString) (deadline : Time) (stop : StopToken)
    (workers : Except CreationFailure Unit)
    (alive : (s.connectAsync endpoint deadline stop workers).2.closed = false) :
    Steady s (s.connectAsync endpoint deadline stop workers).2 := by
  rcases s.connectAsync_eq endpoint deadline stop workers with
    same | ⟨-, -, same | ⟨_, _, _, -, -, same⟩⟩
  · exact steady_of_calls (congrArg calls same :)
  · exact steady_of_calls (congrArg calls same :)
  · rw [same] at alive
    exact failed_closed alive

theorem callAsync_steady (operation : Operation) (deadline : Time) (stop : StopToken) :
    Steady s (s.callAsync protobuf operation deadline stop).2 := by
  have appended : ∀ call : PendingCall, ∀ u : ConnectionState, u.calls = s.calls ++ [call] →
      Steady s u := by
    intro call u calls i old later here there
    rw [calls, List.getElem?_append_left (lookup_lt here), here] at there
    cases there
    exact Or.inl rfl
  unfold callAsync
  dsimp only
  split
  · exact steady_of_calls rfl
  · split
    · exact steady_of_calls rfl
    · split
      · exact steady_of_calls rfl
      · split
        · exact steady_of_calls rfl
        · split
          · exact steady_of_calls rfl
          · exact appended _ _ rfl

theorem publishOpened_steady (alive : s.publishOpened.closed = false) : Steady s s.publishOpened := by
  unfold publishOpened at alive ⊢
  split
  · rename_i deadline result opened
    simp only [opened] at alive
    cases result with
    | error error => exact failed_closed alive
    | ok present =>
      dsimp only at alive ⊢
      repeat' split
      all_goals first
        | exact steady_of_calls rfl
        | simp_all [failAll, failLocked_closed]
  · exact steady_of_calls rfl

theorem steady_progress (entry : Address) (progress : Phase)
    (calls : t.calls = setProgress s.calls entry progress) : Steady s t := by
  intro i call later here there
  rw [calls] at there
  obtain ⟨old, present, rfl⟩ := lookup_modify.mp there
  cases Option.some.inj (here.symm.trans present)
  refine Or.inl ?_
  split <;> rfl

/-- A send that fails closes the session; any other leaves the calls without a failure. -/
theorem sendReturned_steady (result : Transport.Result Nat)
    (alive : (s.sendReturned result).closed = false) : Steady s (s.sendReturned result) := by
  unfold sendReturned at alive ⊢
  split
  · rename_i entry sending
    simp only [sending] at alive
    split
    · exact steady_of_calls rfl
    · rename_i opened
      rw [if_neg opened] at alive
      split
      · exact steady_of_calls rfl
      · rename_i call found
        simp only [found] at alive
        cases result with
        | error error => exact failed_closed alive
        | ok sent =>
          dsimp only
          split
          · exact steady_progress entry .sent rfl
          · exact steady_of_calls rfl
  · exact steady_of_calls rfl

/-- Whatever the reader rejects closes the session, so in an open one no call was failed. -/
theorem received_steady (payload : Transport.Result Bytes)
    (alive : (s.received protobuf payload).closed = false) :
    Steady s (s.received protobuf payload) := by
  unfold received at alive ⊢
  split
  · rename_i receiving
    simp only [receiving] at alive
    split
    · exact steady_of_calls rfl
    · rename_i opened
      rw [if_neg opened] at alive
      cases payload with
      | error error => exact failed_closed alive
      | ok bytes =>
        dsimp only at alive ⊢
        split
        · rename_i malformed
          simp only [malformed] at alive
          exact failed_closed alive
        · rename_i response decoded
          simp only [decoded] at alive
          split
          · rename_i unknown
            simp only [unknown] at alive
            exact failed_closed alive
          · rename_i entry held
            simp only [held] at alive
            split
            · exact steady_of_calls rfl
            · rename_i call found
              simp only [found] at alive
              split
              · rename_i unacceptable
                rw [if_pos unacceptable] at alive
                exact failed_closed alive
              · rename_i acceptable
                rw [if_neg acceptable] at alive
                split
                · rename_i overdue
                  rw [if_pos overdue] at alive
                  exact failed_closed alive
                · intro i old later here there
                  obtain ⟨same, present, rfl⟩ := lookup_modify.mp there
                  cases Option.some.inj (here.symm.trans present)
                  split
                  · exact Or.inr ⟨response, rfl⟩
                  · exact Or.inl rfl
  · exact steady_of_calls rfl

/-- The writer withdraws the front of the queue if it has expired, and takes it otherwise. -/
theorem takeQueued_withdraws (ledger : Ledger s.book) :
    Withdraws s s.takeQueued.1 ∨ Steady s s.takeQueued.1 := by
  unfold takeQueued
  split
  · split
    · exact Or.inr (steady_of_calls rfl)
    · split
      · exact Or.inr (steady_of_calls rfl)
      · rename_i entry rest front
        split
        · exact Or.inr (steady_of_calls rfl)
        · rename_i call found
          obtain ⟨same, here, held, waiting⟩ := (ledger.queue entry).mp (by simp [book, front])
          cases Option.some.inj (here.symm.trans found)
          split
          · rename_i overdue
            have unset := (ledger.unset entry call found).mpr held
            exact Or.inl (.single found unset waiting overdue rfl (rest_eq front ledger.nodup))
          · exact Or.inr (steady_progress entry .writing rfl)
  · exact Or.inr (steady_of_calls rfl)

/-- The pass withdraws the expired entries it meets. -/
theorem scan_withdraws (entries : List (UInt64 × Address)) (ledger : Ledger s.book)
    (opened : s.closed = false) (held : ∀ e ∈ entries, s.pending.find e.1 = some e.2)
    (distinct : entries.Pairwise fun a b => a.1 < b.1)
    (alive : (s.scan entries).closed = false) : Withdraws s (s.scan entries) := by
  induction entries generalizing s with
  | nil => exact .refl s
  | cons head rest ih =>
    obtain ⟨id, entry⟩ := head
    obtain ⟨above, tail⟩ := List.pairwise_cons.mp distinct
    have here := held (id, entry) List.mem_cons_self
    unfold scan at alive ⊢
    split
    · exact .refl s
    · rename_i call found
      simp only [found] at alive
      obtain ⟨same, present, numbered⟩ := ledger.keyed id entry here
      cases Option.some.inj (present.symm.trans found)
      subst numbered
      split
      · rename_i overdue
        rw [if_pos overdue] at alive
        split
        · rename_i begun
          rw [if_pos begun] at alive
          change (s.failLocked _ _ _).closed = false at alive
          rw [failLocked_closed] at alive
          cases alive
        · rename_i waiting
          rw [if_neg waiting] at alive
          have unset := (ledger.unset entry call found).mpr here
          have first : Withdraws s (s.withdraw call.request.id entry (s.expiry call.stop)) :=
            .single found unset (not_not.mp waiting) overdue rfl rfl
          have clock : s.SameClock (s.withdraw call.request.id entry (s.expiry call.stop)) :=
            ⟨rfl, rfl⟩
          refine .trans clock first (ih (s := s.withdraw call.request.id entry _)
            (ledger.resolve _ opened found here) opened ?_ tail alive)
          intro e member
          have less := above e member
          change (s.pending.erase call.request.id).find e.1 = some e.2
          rw [OrderedMap.find_erase, if_neg fun equal => UInt64.lt_irrefl _ (equal ▸ less)]
          exact held e (List.mem_cons_of_mem _ member)
      · rename_i current
        rw [if_neg current] at alive
        exact ih ledger opened (fun e member => held e (List.mem_cons_of_mem _ member)) tail alive

/-- A scan that leaves the session open has withdrawn queued calls only. -/
theorem monitorScan_withdraws (ledger : Ledger s.book) (alive : s.monitorScan.closed = false) :
    Withdraws s s.monitorScan ∨ Steady s s.monitorScan := by
  unfold monitorScan at alive ⊢
  split
  · rename_i scanning
    simp only [scanning] at alive
    split
    · exact Or.inr (steady_of_calls rfl)
    · rename_i opened
      rw [if_neg opened] at alive
      exact Or.inl (scan_withdraws s.pending.entries ledger (Bool.eq_false_iff.mpr opened)
        (fun e member => (OrderedMap.find_eq_some_iff _ _ _).mpr member) s.pending.sorted alive)
  · exact Or.inr (steady_of_calls rfl)

/-- A section that leaves the session open gives failures only to expired calls
that still wait in the queue. -/
theorem step_withdraws (ledger : Ledger s.book) (action : Action)
    (alive : (step protobuf s action).1.closed = false) :
    Withdraws s (step protobuf s action).1 ∨ Steady s (step protobuf s action).1 := by
  have carried : ∀ {t u : ConnectionState}, t = u → u.calls = s.calls →
      Withdraws s t ∨ Steady s t :=
    fun equal same => Or.inr (steady_of_calls (equal ▸ same))
  cases action with
  | connect endpoint deadline stop workers => exact Or.inr (connectAsync_steady _ _ _ _ alive)
  | call operation deadline stop => exact Or.inr (callAsync_steady _ _ _)
  | close => exact Or.inr (failed_closed alive)
  | tick elapsed => exact carried rfl rfl
  | requestStop stop => exact carried rfl rfl
  | beginOpening =>
    rcases s.beginOpening_eq with kept | ⟨_, _, _, _, _, _, kept, _⟩
    · exact carried kept rfl
    · exact carried kept rfl
  | openReturned result =>
    rcases s.openReturned_eq result with kept | ⟨_, _, _, kept⟩
    · exact carried kept rfl
    · exact carried kept rfl
  | publishOpened => exact Or.inr (publishOpened_steady alive)
  | takeQueued => exact takeQueued_withdraws ledger
  | sendReturned result => exact Or.inr (sendReturned_steady result alive)
  | readerConnected =>
    obtain ⟨_, kept⟩ := s.readerConnected_eq
    exact carried kept rfl
  | readerLoop =>
    obtain ⟨_, kept⟩ := s.readerLoop_eq
    exact carried kept rfl
  | received payload => exact Or.inr (received_steady payload alive)
  | monitorConnected =>
    obtain ⟨_, kept⟩ := s.monitorConnected_eq
    exact carried kept rfl
  | monitorScan => exact monitorScan_withdraws ledger alive

end ConnectionState

/-! ## The result -/

/-- Phases of the pending calls in the order of their identifiers. -/
def ConnectionState.phases (s : ConnectionState) : List Phase :=
  s.pending.entries.filterMap fun e => (s.calls[e.2]?).map (·.progress)

/-- Phases in the order in which calls pass through them. -/
def phaseOrder (sent writing queued : Nat) : List Phase :=
  List.replicate sent Phase.sent ++
    (List.replicate writing Phase.writing ++ List.replicate queued Phase.queued)

/-- Of two phases the second is queued or the first is sent: sent ones, at most one
being written, queued ones. -/
theorem phases_shape (phases : List Phase)
    (ordered : phases.Pairwise fun a b => b = .queued ∨ a = .sent) :
    ∃ sent writing queued, writing ≤ 1 ∧ phases = phaseOrder sent writing queued := by
  induction phases with
  | nil => exact ⟨0, 0, 0, Nat.zero_le _, rfl⟩
  | cons first rest ih =>
    obtain ⟨ahead, tail⟩ := List.pairwise_cons.mp ordered
    -- Unless the first is sent, all the others are queued.
    have queue : first ≠ .sent → rest = List.replicate rest.length .queued := by
      intro apart
      apply List.eq_replicate_of_mem
      intro phase member
      exact (ahead phase member).resolve_right apart
    cases first with
    | sent =>
      obtain ⟨sent, writing, queued, single, same⟩ := ih tail
      refine ⟨sent + 1, writing, queued, single, ?_⟩
      rw [same, phaseOrder, phaseOrder, List.replicate_succ, List.cons_append]
    | writing =>
      exact ⟨0, 1, rest.length, Nat.le_refl _, congrArg _ (queue (by simp))⟩
    | queued =>
      refine ⟨0, 0, rest.length + 1, Nat.zero_le _, ?_⟩
      exact congrArg _ (queue (by simp))

/-- What the payloads handed over by a run and the state it ends in look like. -/
structure Disciplined (s : ConnectionState) (events : List Handed) : Prop where
  once : (events.map (·.entry)).Nodup
  payload : ∀ handed ∈ events, ∃ call, s.calls[handed.entry]? = some call ∧
    handed.payload = call.encoded
  increasing : ∀ first second before between after,
    events = before ++ first :: between ++ second :: after →
    ∀ (call later : PendingCall), s.calls[first.entry]? = some call →
      s.calls[second.entry]? = some later → call.request.id < later.request.id
  phases : s.phases.length = s.pending.size ∧
    ∃ sent writing queued, writing ≤ 1 ∧ s.phases = phaseOrder sent writing queued

/-- A call completed with a failure while the session stays open was withdrawn: the
step from `s` to `t` did nothing else, and its payload is in no history. -/
def WithdrawnUnsent (s t : ConnectionState) (events : List Handed) : Prop :=
  t.closed = false → ∀ (i : Address) (call later : PendingCall) (failure : Failure),
    s.calls[i]? = some call → t.calls[i]? = some later → call.promise = [] →
    later.promise = [.error failure] →
    (failure.kind = .timeout ∨ failure.kind = .cancelled) ∧ (∀ handed ∈ events, handed.entry ≠ i) ∧
      Withdraws s t

/-- The invariant of the run in the words of the result. -/
theorem Sends.disciplined {s : ConnectionState} {events : List Handed} (sends : Sends s events) :
    Disciplined s events := by
  have ledger := sends.invariant.ledger
  -- The order of the identifiers in the map is the order of the entries.
  have addresses : s.pending.entries.Pairwise fun a b => a.2 < b.2 := by
    refine List.Pairwise.imp_of_mem ?_ s.pending.sorted
    intro a b first second less
    obtain ⟨call, here, same⟩ :=
      ledger.keyed a.1 a.2 ((OrderedMap.find_eq_some_iff _ _ _).mpr first)
    obtain ⟨other, there, same'⟩ :=
      ledger.keyed b.1 b.2 ((OrderedMap.find_eq_some_iff _ _ _).mpr second)
    rcases Nat.lt_trichotomy a.2 b.2 with before | equal | after
    · exact before
    · rw [equal, there] at here
      cases here
      rw [← same, ← same'] at less
      exact absurd less (UInt64.lt_irrefl _)
    · have order := ledger.order b.2 a.2 other call there here after
      rw [same, same'] at order
      exact absurd less (UInt64.lt_asymm order)
  have pending : ∀ e ∈ s.pending.entries, ∃ call, s.calls[e.2]? = some call ∧ call.promise = [] := by
    intro e member
    have held := (OrderedMap.find_eq_some_iff s.pending e.1 e.2).mpr member
    obtain ⟨call, here, same⟩ := ledger.keyed e.1 e.2 held
    refine ⟨call, here, (ledger.unset e.2 call here).mpr ?_⟩
    change s.pending.find call.request.id = some e.2
    rw [same]
    exact held
  refine ⟨?_, ?_, ?_, ?_, phases_shape _ ?_⟩
  · rw [List.nodup_iff_pairwise_ne, List.pairwise_map]
    exact sends.increasing.imp fun less => Nat.ne_of_lt less
  · intro handed member
    obtain ⟨call, found, -, payload⟩ := sends.known handed member
    exact ⟨call, found, payload⟩
  · intro first second before between after split call later here there
    have order := sends.increasing
    rw [split, List.append_assoc] at order
    have tail := (List.pairwise_append.mp order).2.1
    have less := (List.pairwise_cons.mp tail).1 second (by simp)
    exact ledger.order first.entry second.entry call later here there less
  · apply List.filterMap_length_eq_length.mpr
    intro e member
    obtain ⟨call, found, -⟩ := pending e member
    rw [found]
    rfl
  · refine List.pairwise_filterMap.mpr (List.Pairwise.imp_of_mem ?_ addresses)
    intro a b first second less phase here phase' there
    obtain ⟨call, found, unset⟩ := pending a first
    obtain ⟨other, found', unset'⟩ := pending b second
    simp only [found, Option.map_some, Option.some.injEq] at here
    simp only [found', Option.map_some, Option.some.injEq] at there
    rw [← here, ← there]
    exact sends.phased a.2 b.2 call other found found' less unset unset'

/-- A payload handed over later belongs to a call that was not completed before. -/
theorem handed_unset (protobuf : Protocol.Protobuf) {t : ConnectionState} (invariant : Invariant t)
    (actions : List Action) :
    ∀ handed ∈ (Transition.run (ConnectionState.step protobuf) t actions).2, ∀ call,
      t.calls[handed.entry]? = some call → call.promise = [] := by
  have whole := Transition.run_invariant (ConnectionState.step protobuf)
    (fun u events => Since t u ∧ ∀ handed ∈ events, ∀ call,
      t.calls[handed.entry]? = some call → call.promise = []) t []
    ⟨⟨invariant, .refl _, .refl _⟩, nofun⟩ ?_ actions
  · simpa using whole.2
  intro u events action before
  obtain ⟨since, unset⟩ := before
  have next := ConnectionState.step_since protobuf since.invariant action
  refine ⟨⟨next.invariant, since.keeps.trans next.keeps, since.later.trans next.later⟩, ?_⟩
  intro handed member call found
  rcases List.mem_append.mp member with old | new
  · exact unset handed old call found
  · obtain ⟨reply, turned, -⟩ := ConnectionState.step_turn protobuf since.invariant.ledger
      since.invariant.busy action
    obtain ⟨later, present, relation⟩ := since.keeps.calls handed.entry call found
    have empty : later.promise = [] := by
      rcases turned_cases turned with none | ⟨entry, rest, front, one, queue, here, -⟩
      · rw [none] at new
        cases new
      · rw [one] at new
        cases List.mem_singleton.mp new
        obtain ⟨same, there, held, -⟩ := (since.invariant.ledger.queue entry).mp (by simp [queue])
        cases Option.some.inj (there.symm.trans present)
        exact (since.invariant.ledger.unset entry later there).mpr held
    have prior := relation.promise
    rw [empty] at prior
    exact List.prefix_nil.mp prior

/-- An expired call is reported as cancelled or as timed out. -/
theorem expiry_kind (s : ConnectionState) (stop : StopToken) :
    (s.expiry stop).kind = .timeout ∨ (s.expiry stop).kind = .cancelled := by
  unfold ConnectionState.expiry
  dsimp only
  split
  · exact Or.inr rfl
  · exact Or.inl rfl

theorem Sends.withdrawn (protobuf : Protocol.Protobuf) {s : ConnectionState} {events : List Handed}
    (sends : Sends s events) (action : Action) (later : List Action) :
    WithdrawnUnsent s (ConnectionState.step protobuf s action).1
      (events ++ ((ConnectionState.step protobuf s action).2 ++
        (Transition.run (ConnectionState.step protobuf)
          (ConnectionState.step protobuf s action).1 later).2)) := by
  intro alive i call after failure here there unset failed
  have since := ConnectionState.step_since protobuf sends.invariant action
  rcases ConnectionState.step_withdraws sends.invariant.ledger action alive with withdrawn | steady
  · rcases withdrawn.calls i call here with same | ⟨-, waiting, -, done⟩
    · rw [same] at there
      cases there
      rw [unset] at failed
      cases failed
    · rw [done] at there
      cases there
      cases failed
      refine ⟨expiry_kind s _, ?_, withdrawn⟩
      intro handed member equal
      subst equal
      rcases List.mem_append.mp member with before | after
      · obtain ⟨same, found, begun, -⟩ := sends.known handed before
        cases Option.some.inj (found.symm.trans here)
        exact begun waiting
      · rcases List.mem_append.mp after with now | next
        · obtain ⟨same, found, begun, -⟩ := (sends.step protobuf action).known handed
            (List.mem_append_right _ now)
          cases Option.some.inj (found.symm.trans done)
          exact begun waiting
        · cases handed_unset protobuf since.invariant later handed next _ done
  · rcases steady i call after here there with same | ⟨response, same⟩
    · rw [same, unset] at failed
      cases failed
    · rw [same, unset] at failed
      cases failed

/-- However the sections interleave, every payload is handed over at most once and in
the order of the identifiers, the pending calls are sent, being written or queued in
that order, and cancelling an unsent call is local. -/
theorem send_discipline (protobuf : Protocol.Protobuf) (opener : Bool) (actions : List Action)
    (action : Action) (later : List Action) :
    Disciplined (ConnectionState.run protobuf opener actions).1
        (ConnectionState.run protobuf opener actions).2 ∧
      WithdrawnUnsent (ConnectionState.run protobuf opener actions).1
        (ConnectionState.run protobuf opener (actions ++ [action])).1
        (ConnectionState.run protobuf opener (actions ++ action :: later)).2 := by
  have sends := Sends.run protobuf opener actions
  refine ⟨sends.disciplined, ?_⟩
  have withdrawn := sends.withdrawn protobuf action later
  simpa only [ConnectionState.run, Transition.run_append, Transition.run] using withdrawn

end PipeForge.Client
