import PipeForge.Client.Completion

/-!
# Payloads are handed over once and in order

The writer takes the front of the queue, so what it has handed to the channel lies
before everything that still waits. The calls that are not completed yet show the
same order in their phases: those sent, at most one being written, those queued.
Completion may take a call out at any of these points, which is why the invariant
speaks of unset promises only.
-/

namespace PipeForge.Client
open Contracts Library Transport

/-! ## Phases on the ledger -/

/-- How a section other than a handover leaves an entry. -/
structure PendingCall.Onward (call later : PendingCall) : Prop where
  unset : later.promise = [] → call.promise = []
  progress : later.progress = call.progress ∨ later.progress = .sent ∧ call.progress ≠ .queued

theorem PendingCall.Onward.refl (call : PendingCall) : call.Onward call := ⟨id, Or.inl rfl⟩

theorem PendingCall.Onward.trans {first middle last : PendingCall} (earlier : first.Onward middle)
    (later : middle.Onward last) : first.Onward last := by
  refine ⟨fun unset => earlier.unset (later.unset unset), ?_⟩
  rcases later.progress with same | ⟨sent, begun⟩
  · rw [same]
    exact earlier.progress
  · refine Or.inr ⟨sent, fun waiting => begun ?_⟩
    rcases earlier.progress with kept | ⟨-, begun⟩
    · rw [kept, waiting]
    · exact absurd waiting begun

/-- Every entry comes from an earlier one, or was admitted and still waits. -/
def Book.Onward (b b' : Book) : Prop :=
  ∀ (i : Address) (later : PendingCall), b'.calls[i]? = some later →
    (∃ call, b.calls[i]? = some call ∧ call.Onward later) ∨
      (b.calls.length ≤ i ∧ later.progress = .queued)

theorem Book.Onward.refl (b : Book) : b.Onward b :=
  fun _ call found => Or.inl ⟨call, found, .refl call⟩

theorem Book.Onward.trans {first middle last : Book} (grown : first.calls.length ≤ middle.calls.length)
    (earlier : first.Onward middle) (later : middle.Onward last) : first.Onward last := by
  intro i final found
  rcases later i final found with ⟨between, here, onward⟩ | ⟨beyond, waiting⟩
  · rcases earlier i between here with ⟨call, there, before⟩ | ⟨beyond, waiting⟩
    · exact Or.inl ⟨call, there, before.trans onward⟩
    · refine Or.inr ⟨beyond, ?_⟩
      rcases onward.progress with same | ⟨-, begun⟩
      · rw [same, waiting]
      · exact absurd waiting begun
  · exact Or.inr ⟨Nat.le_trans grown beyond, waiting⟩

section
variable {protobuf : Protocol.Protobuf} {b b' : Book}

/-- A change of one call moves the book onward if it moves the call onward. -/
theorem Book.Onward.modify (entry : Address) (f : PendingCall → PendingCall)
    (calls : b'.calls = b.calls.modify entry f)
    (onward : ∀ call, b.calls[entry]? = some call → call.Onward (f call)) : b.Onward b' := by
  intro i later found
  rw [calls] at found
  obtain ⟨call, here, rfl⟩ := lookup_modify.mp found
  refine Or.inl ⟨call, here, ?_⟩
  split
  · rename_i same
    exact onward call (same ▸ here)
  · exact .refl call

theorem Book.Onward.resolve (entry : Address) (id : UInt64) (value : CallResult) :
    b.Onward (b.resolve entry id value) := by
  refine .modify entry (fun call => { call with promise := call.promise ++ [value] }) rfl ?_
  intro call _
  exact ⟨fun unset => by simp at unset, Or.inl rfl⟩

/-- A move takes no call back to an earlier phase and drops none. -/
theorem Move.onward (moved : Move protobuf b b') :
    b.Onward b' ∧ b.calls.length ≤ b'.calls.length := by
  cases moved with
  | accept call alive numbered unset fresh room remaining encoded =>
    refine ⟨fun i later found => ?_, by simp [Book.accept]⟩
    rcases lookup_append.mp found with old | ⟨rfl, rfl⟩
    · exact Or.inl ⟨later, old, .refl later⟩
    · exact Or.inr ⟨Nat.le_refl _, fresh⟩
  | expire entry call cause alive found held waiting =>
    exact ⟨.resolve entry _ _, by simp [Book.resolve, setValue]⟩
  | sent entry call alive found begun =>
    refine ⟨.modify entry (fun call => { call with progress := .sent }) rfl ?_,
      by simp [Book.advance, setProgress]⟩
    intro same here
    cases Option.some.inj (here.symm.trans found)
    exact ⟨id, Or.inr ⟨rfl, begun⟩⟩
  | fail cause alive =>
    refine ⟨fun i later found => ?_, ?_⟩
    · obtain ⟨call, here, rfl⟩ :=
        (lookup_settle (fun id => .error (cause id)) b.pending.entries).mp found
      exact Or.inl ⟨call, here, fun unset => (List.append_eq_nil_iff.mp unset).1, Or.inl rfl⟩
    · exact Nat.le_of_eq
        (length_settle (fun id => .error (cause id)) b.pending.entries).symm

theorem moves_onward (moved : Relation.ReflTransGen (Move protobuf) b b') :
    b.Onward b' ∧ b.calls.length ≤ b'.calls.length := by
  induction moved with
  | refl => exact ⟨.refl b, Nat.le_refl _⟩
  | tail _ last ih =>
    obtain ⟨onward, grown⟩ := last.onward
    exact ⟨ih.1.trans ih.2 onward, Nat.le_trans ih.2 grown⟩

/-- A turn that hands nothing over. -/
theorem Turn.onward {reply : Option Response} (turned : Turn protobuf b [] reply b') :
    b.Onward b' := by
  cases turned with
  | silent _ moved => exact (moves_onward moved).1
  | answer entry call response alive found held begun same matched => exact .resolve entry _ _

end

/-- Of two calls that wait for completion the later one is queued or the earlier
one is sent. -/
def Book.Phased (b : Book) : Prop :=
  ∀ (i j : Address) (first second : PendingCall), b.calls[i]? = some first →
    b.calls[j]? = some second → i < j → first.promise = [] → second.promise = [] →
    second.progress = .queued ∨ first.progress = .sent

namespace Book.Phased
variable {b b' : Book}

/-- Calls pass through the phases in the order of their admission, and onward moves respect that.
-/
theorem onward (phased : b.Phased) (onward : b.Onward b') : b'.Phased := by
  intro i j first second here there less unset unset'
  rcases onward j second there with ⟨old, present, forward⟩ | ⟨-, waiting⟩
  · rcases onward i first here with ⟨older, earlier, ahead⟩ | ⟨beyond, -⟩
    · rcases phased i j older old earlier present less (ahead.unset unset) (forward.unset unset')
        with waiting | sent
      · rcases forward.progress with same | ⟨-, begun⟩
        · exact Or.inl (same.trans waiting)
        · exact absurd waiting begun
      · rcases ahead.progress with same | ⟨done, -⟩
        · exact Or.inr (same.trans sent)
        · exact Or.inr done
    · exact absurd (lookup_lt present) (Nat.not_lt.mpr (Nat.le_trans beyond (Nat.le_of_lt less)))
  · exact Or.inl waiting

/-- Handing over the front of the queue while nothing else is being written. -/
theorem hand (phased : b.Phased) (ledger : Ledger b) {entry : Address} {rest : List Address}
    {call : PendingCall} (front : b.queued = entry :: rest) (found : b.calls[entry]? = some call)
    (quiet : ∀ (i : Address) (other : PendingCall), b.calls[i]? = some other →
      other.promise = [] → other.progress ≠ .writing) :
    (b.advance entry .writing).Phased := by
  have queued : call.progress = .queued := by
    obtain ⟨same, here, -, waiting⟩ := (ledger.queue entry).mp (by simp [front])
    cases Option.some.inj (here.symm.trans found)
    exact waiting
  -- An unset call before the front has left the queue and is not being written.
  have before : ∀ i other, b.calls[i]? = some other → i < entry → other.promise = [] →
      other.progress = .sent := by
    intro i other here less unset
    cases phase : other.progress with
    | sent => rfl
    | writing => exact absurd phase (quiet i other here unset)
    | queued =>
      have member := (ledger.queue i).mpr ⟨other, here, (ledger.unset i other here).mp unset, phase⟩
      have sorted := ledger.sorted
      rw [front] at member sorted
      rcases List.mem_cons.mp member with rfl | later
      · exact absurd less (Nat.lt_irrefl _)
      · exact absurd less (Nat.lt_asymm ((List.pairwise_cons.mp sorted).1 i later))
  intro i j first second here there less unset unset'
  obtain ⟨old, present, rfl⟩ := lookup_modify.mp there
  obtain ⟨older, earlier, rfl⟩ := lookup_modify.mp here
  by_cases last : j = entry
  · subst last
    have apart : i ≠ j := Nat.ne_of_lt less
    rw [if_neg apart] at unset ⊢
    exact Or.inr (before i older earlier less unset)
  · rw [if_neg last] at unset' ⊢
    by_cases handed : i = entry
    · subst handed
      cases Option.some.inj (found.symm.trans earlier)
      rw [if_pos rfl] at unset
      rcases phased i j call old earlier present less unset unset' with waiting | sent
      · exact Or.inl waiting
      · rw [queued] at sent
        cases sent
    · rw [if_neg handed] at unset ⊢
      exact phased i j older old earlier present less unset unset'

end Book.Phased

/-! ## The writer's program point -/

namespace ConnectionState
variable {protobuf : Protocol.Protobuf} {s : ConnectionState}

/-- Only the writer's own sections end a send. -/
theorem step_writer (action : Action) (notSent : ∀ result, action ≠ .sendReturned result)
    (notTaken : action ≠ .takeQueued) :
    (step protobuf s action).1.writer = s.writer ∨ s.writer.awaiting = true ∨
      (s.started = false ∧ (step protobuf s action).1.started = true) := by
  have carried : ∀ {t u : ConnectionState}, t = u → u.writer = s.writer → t.writer = s.writer :=
    fun equal same => equal ▸ same
  cases action with
  | connect endpoint deadline stop workers =>
    rcases s.connectAsync_eq endpoint deadline stop workers with
      same | ⟨fresh, -, same | ⟨count, t, common, -, elapsed, same⟩⟩
    · exact Or.inl (congrArg ConnectionState.writer same)
    · exact Or.inr (Or.inr ⟨fresh, congrArg ConnectionState.started same⟩)
    · refine Or.inr (Or.inr ⟨fresh, ?_⟩)
      rw [step, same, failAll, failLocked_started, elapsed.same]
      rfl
  | call operation deadline stop =>
    obtain ⟨_, _, _, _, _, kept⟩ := s.callAsync_eq protobuf operation deadline stop
    exact Or.inl (carried kept rfl)
  | close => exact Or.inl (failLocked_writer _ _ _)
  | tick elapsed => exact Or.inl rfl
  | requestStop stop => exact Or.inl rfl
  | beginOpening =>
    rcases s.beginOpening_eq with kept | ⟨_, _, _, _, _, starting, -⟩
    · exact Or.inl (carried kept rfl)
    · exact Or.inr (Or.inl (by rw [starting]; rfl))
  | openReturned result =>
    rcases s.openReturned_eq result with kept | ⟨_, _, opening, -⟩
    · exact Or.inl (carried kept rfl)
    · exact Or.inr (Or.inl (by rw [opening]; rfl))
  | publishOpened =>
    change s.publishOpened.writer = s.writer ∨ _
    unfold publishOpened
    split
    · rename_i opened
      exact Or.inr (Or.inl (by rw [opened]; rfl))
    · exact Or.inl rfl
  | takeQueued => exact absurd rfl notTaken
  | sendReturned result => exact absurd rfl (notSent result)
  | readerConnected =>
    obtain ⟨_, kept⟩ := s.readerConnected_eq
    exact Or.inl (carried kept rfl)
  | readerLoop =>
    obtain ⟨_, kept⟩ := s.readerLoop_eq
    exact Or.inl (carried kept rfl)
  | received payload => exact Or.inl (received_flags payload).2
  | monitorConnected =>
    obtain ⟨_, kept⟩ := s.monitorConnected_eq
    exact Or.inl (carried kept rfl)
  | monitorScan => exact Or.inl monitorScan_flags.2

theorem takeQueued_elsewhere (elsewhere : s.writer ≠ .waiting) : s.takeQueued = (s, []) := by
  unfold takeQueued
  split
  · rename_i waiting
    exact absurd waiting elsewhere
  · rfl

/-- Only a writer inside a send is told of its end. -/
theorem sendReturned_elsewhere (elsewhere : ∀ entry, s.writer ≠ .sending entry)
    (result : Transport.Result Nat) : s.sendReturned result = s := by
  unfold sendReturned
  split
  · rename_i entry sending
    exact absurd sending (elsewhere entry)
  · rfl

theorem takeQueued_hands {t : ConnectionState} {entry : Address} {payload : Bytes}
    (taken : s.takeQueued = (t, [⟨entry, payload⟩])) :
    s.writer = .waiting ∧ t.writer = .sending entry := by
  unfold takeQueued at taken
  split at taken
  · rename_i waiting
    split at taken
    · cases taken
    · split at taken
      · cases taken
      · split at taken
        · cases taken
        · split at taken
          · cases taken
          · cases taken
            exact ⟨waiting, rfl⟩
  · cases taken

/-- Only `take` of the queue hands a payload over, and the writer holds its entry. -/
theorem step_hands {action : Action} {entry : Address} {payload : Bytes}
    (handed : (step protobuf s action).2 = [⟨entry, payload⟩]) :
    s.writer = .waiting ∧ (step protobuf s action).1.writer = .sending entry := by
  cases action with
  | takeQueued => exact takeQueued_hands (Prod.ext rfl handed)
  | _ => cases handed

end ConnectionState

/-! ## The invariant -/

/-- What holds after every run with the payloads it handed over. -/
structure Sends (s : ConnectionState) (events : List Handed) : Prop where
  invariant : Invariant s
  increasing : events.Pairwise fun a b => a.entry < b.entry
  known : ∀ handed ∈ events, ∃ call, s.calls[handed.entry]? = some call ∧
    call.progress ≠ .queued ∧ handed.payload = call.encoded
  ahead : ∀ handed ∈ events, ∀ waiting ∈ s.queued, handed.entry < waiting
  phased : s.book.Phased
  writing : ∀ (i : Address) (call : PendingCall), s.calls[i]? = some call → call.promise = [] →
    call.progress = .writing → s.writer = .sending i
  absent : s.started = false → s.writer = .absent

/-- When the session has closed, no promise is left unset. -/
theorem Ledger.settled {b : Book} (ledger : Ledger b) (closed : b.closed = true) {i : Address}
    {call : PendingCall} (found : b.calls[i]? = some call) : call.promise ≠ [] := by
  intro unset
  have held := (ledger.unset i call found).mp unset
  rw [(ledger.drained closed).1] at held
  cases held

/-- A turn hands over nothing or the front of the queue. -/
theorem turned_cases {protobuf : Protocol.Protobuf} {b b' : Book} {handed : List Handed}
    {reply : Option Response} (turned : Turn protobuf b handed reply b') :
    handed = [] ∨ ∃ entry rest call, handed = [⟨entry, call.encoded⟩] ∧ b.queued = entry :: rest ∧
      b.calls[entry]? = some call ∧ b' = b.advance entry .writing := by
  cases turned with
  | silent => exact Or.inl rfl
  | hand entry rest call alive front found => exact Or.inr ⟨entry, rest, call, rfl, front, found, rfl⟩
  | answer => exact Or.inl rfl

theorem flags_started {f f' : Flags} (moved : Relation.ReflTransGen Flags.Move f f')
    (started : f.started = true) : f'.started = true := by
  induction moved with
  | refl => exact started
  | tail _ last ih =>
    cases last with
    | start => rfl
    | publish => exact ih
    | fail => exact ih
    | leave => exact ih

namespace Sends
variable {protobuf : Protocol.Protobuf} {s : ConnectionState} {events : List Handed}

theorem initial (opener : Bool) : Sends (.initial opener) [] where
  invariant := ConnectionState.initial_invariant opener
  increasing := .nil
  known := nofun
  ahead := nofun
  phased i j first second found := by
    simp [ConnectionState.book, ConnectionState.initial] at found
  writing i call found := by simp [ConnectionState.initial] at found
  absent _ := rfl

/-- After a send has returned, its entry is sent or completed. -/
theorem sendReturned (invariant : Invariant s) {entry : Address} (sending : s.writer = .sending entry)
    (result : Transport.Result Nat) (settled : Invariant (s.sendReturned result))
    {call : PendingCall} (found : (s.sendReturned result).calls[entry]? = some call)
    (unset : call.promise = []) : call.progress ≠ .writing := by
  have alive : (s.sendReturned result).closed = false := by
    by_contra open_
    have closed : (s.sendReturned result).closed = true := by simpa using open_
    exact settled.ledger.settled closed found unset
  obtain ⟨held, present, begun⟩ := invariant.busy entry sending
  unfold ConnectionState.sendReturned at found alive
  simp only [sending, present] at found alive
  split at found
  · rename_i closed
    exact absurd unset (invariant.ledger.settled closed found)
  · rename_i opened
    rw [if_neg opened] at alive
    split at found
    · rename_i error
      simp only [ConnectionState.failLocked, opened, Bool.false_eq_true, if_false] at alive
      cases alive
    · split at found
      · obtain ⟨old, -, rfl⟩ := lookup_modify.mp found
        simp
      · rename_i missing
        have same : held = call := Option.some.inj (present.symm.trans found)
        subst same
        have pending : s.pending.find held.request.id = some entry :=
          (invariant.ledger.unset entry held found).mp unset
        exact absurd (by rw [OrderedMap.contains, pending]; rfl) missing

/-- Of the unsettled calls at most one is being written, the one the writer is inside of. -/
theorem step_writing (sends : Sends s events) (action : Action)
    (next : Invariant (ConnectionState.step protobuf s action).1)
    (onward : s.book.Onward (ConnectionState.step protobuf s action).1.book)
    (i : Address) (later : PendingCall)
    (found : (ConnectionState.step protobuf s action).1.calls[i]? = some later)
    (unset : later.promise = []) (writing : later.progress = .writing) :
    (ConnectionState.step protobuf s action).1.writer = .sending i := by
  -- The entry was being written before, so the writer was at its send.
  have sending : s.writer = .sending i := by
    rcases onward i later found with ⟨call, here, forward⟩ | ⟨-, waiting⟩
    · refine sends.writing i call here (forward.unset unset) ?_
      rcases forward.progress with same | ⟨sent, -⟩
      · exact same.symm.trans writing
      · rw [writing] at sent
        cases sent
    · rw [writing] at waiting
      cases waiting
  by_cases taken : action = .takeQueued
  · subst taken
    change s.takeQueued.1.writer = _
    rw [ConnectionState.takeQueued_elsewhere (by simp [sending])]
    exact sending
  · by_cases returned : ∃ result, action = .sendReturned result
    · obtain ⟨result, rfl⟩ := returned
      exact absurd writing (sendReturned sends.invariant sending result next found unset)
    · rcases ConnectionState.step_writer action (fun result same => returned ⟨result, same⟩) taken
        with same | awaiting | ⟨unstarted, -⟩
      · exact same.trans sending
      · rw [sending] at awaiting
        cases awaiting
      · rw [sends.absent unstarted] at sending
        cases sending

theorem step_absent (sends : Sends s events) (action : Action)
    (unstarted : (ConnectionState.step protobuf s action).1.started = false) :
    (ConnectionState.step protobuf s action).1.writer = .absent := by
  have before : s.started = false := by
    by_contra started
    have moved := (ConnectionState.step_flags (s := s) protobuf action).1
    have later := flags_started moved (by simpa [ConnectionState.flags] using started)
    change (ConnectionState.step protobuf s action).1.started = true at later
    rw [unstarted] at later
    cases later
  have absent := sends.absent before
  by_cases taken : action = .takeQueued
  · subst taken
    change s.takeQueued.1.writer = _
    rw [ConnectionState.takeQueued_elsewhere (by simp [absent])]
    exact absent
  · by_cases returned : ∃ result, action = .sendReturned result
    · obtain ⟨result, rfl⟩ := returned
      change (s.sendReturned result).writer = _
      rw [ConnectionState.sendReturned_elsewhere (by simp [absent])]
      exact absent
    · rcases ConnectionState.step_writer action (fun result same => returned ⟨result, same⟩) taken
        with same | awaiting | ⟨-, started⟩
      · exact same.trans absent
      · rw [absent] at awaiting
        cases awaiting
      · rw [unstarted] at started
        cases started

/-- What was handed over stays handed over. -/
theorem known_later (sends : Sends s events) {t : ConnectionState} (keeps : Keeps s.book t.book) :
    ∀ handed ∈ events, ∃ call, t.calls[handed.entry]? = some call ∧
      call.progress ≠ .queued ∧ handed.payload = call.encoded := by
  intro handed member
  obtain ⟨call, found, begun, payload⟩ := sends.known handed member
  obtain ⟨later, present, relation⟩ := keeps.calls handed.entry call found
  exact ⟨later, present, relation.begun begun, by rw [payload, relation.encoded]⟩

/-- A section that hands nothing over only lets later entries into the queue. -/
theorem ahead_later (sends : Sends s events) {t : ConnectionState} (ledger : Ledger t.book)
    (onward : s.book.Onward t.book) :
    ∀ handed ∈ events, ∀ waiting ∈ t.queued, handed.entry < waiting := by
  intro handed member waiting queued
  obtain ⟨later, found, held, phase⟩ := (ledger.queue waiting).mp queued
  have unset := (ledger.unset waiting later found).mpr held
  rcases onward waiting later found with ⟨call, here, forward⟩ | ⟨beyond, -⟩
  · have ledger' := sends.invariant.ledger
    have before : call.progress = .queued := by
      rcases forward.progress with same | ⟨sent, -⟩
      · exact same.symm.trans phase
      · rw [phase] at sent
        cases sent
    refine sends.ahead handed member waiting ((ledger'.queue waiting).mpr ⟨call, here, ?_, before⟩)
    exact (ledger'.unset waiting call here).mp (forward.unset unset)
  · obtain ⟨call, present, -⟩ := sends.known handed member
    exact Nat.lt_of_lt_of_le (lookup_lt present) beyond

/-- The section that hands the front entry to the channel. -/
theorem hand (sends : Sends s events) {t : ConnectionState} {entry : Address} {rest : List Address}
    {call : PendingCall} (invariant : Invariant t)
    (known : ∀ handed ∈ events, ∃ call, t.calls[handed.entry]? = some call ∧
      call.progress ≠ .queued ∧ handed.payload = call.encoded)
    (waiting : s.writer = .waiting) (sending : t.writer = .sending entry)
    (absent : t.started = false → t.writer = .absent) (front : s.book.queued = entry :: rest)
    (found : s.book.calls[entry]? = some call) (book : t.book = s.book.advance entry .writing) :
    Sends t (events ++ [⟨entry, call.encoded⟩]) := by
  have sorted := sends.invariant.ledger.sorted
  rw [front] at sorted
  have idle : ∀ (i : Address) (other : PendingCall), s.book.calls[i]? = some other →
      other.promise = [] → other.progress ≠ .writing := by
    intro i other here unset writing
    have busy := sends.writing i other here unset writing
    rw [waiting] at busy
    cases busy
  have first : entry ∈ s.queued := by
    change entry ∈ s.book.queued
    simp [front]
  have queue : t.queued = s.queued.filter fun other => decide (other ≠ entry) :=
    congrArg Book.queued book
  have calls : t.calls = setProgress s.calls entry .writing := congrArg Book.calls book
  exact {
    invariant
    absent
    increasing := by
      refine List.pairwise_append.mpr ⟨sends.increasing, List.pairwise_singleton _ _, ?_⟩
      intro earlier member last only
      cases List.mem_singleton.mp only
      exact sends.ahead earlier member entry first
    known := by
      intro one member
      rcases List.mem_append.mp member with old | only
      · exact known one old
      · cases List.mem_singleton.mp only
        rw [calls]
        exact ⟨_, lookup_modify.mpr ⟨call, found, rfl⟩, by simp, by simp⟩
    ahead := by
      intro one member other queued
      rw [queue, Ledger.mem_others] at queued
      rcases List.mem_append.mp member with old | only
      · exact sends.ahead one old other queued.1
      · cases List.mem_singleton.mp only
        have listed : other ∈ s.book.queued := queued.1
        rw [front] at listed
        rcases List.mem_cons.mp listed with same | later
        · exact absurd same queued.2
        · exact (List.pairwise_cons.mp sorted).1 other later
    phased := by
      rw [book]
      exact sends.phased.hand sends.invariant.ledger front found idle
    writing := by
      intro i later here unset writing
      rw [calls] at here
      obtain ⟨old, present, rfl⟩ := lookup_modify.mp here
      by_cases same : i = entry
      · rw [same]
        exact sending
      · rw [if_neg same] at unset writing
        exact absurd writing (idle i old present unset) }

/-- One step extends the history by at most one payload and keeps what is known of it. -/
theorem step (protobuf : Protocol.Protobuf) (sends : Sends s events) (action : Action) :
    Sends (ConnectionState.step protobuf s action).1
      (events ++ (ConnectionState.step protobuf s action).2) := by
  obtain ⟨reply, turned, -⟩ :=
    ConnectionState.step_turn protobuf sends.invariant.ledger sends.invariant.busy action
  have since := ConnectionState.step_since protobuf sends.invariant action
  have quiet : (ConnectionState.step protobuf s action).2 = [] →
      s.book.Onward (ConnectionState.step protobuf s action).1.book := by
    intro none
    rw [none] at turned
    exact turned.onward
  rcases turned_cases turned with none | ⟨entry, rest, call, handed, front, found, book⟩
  · have onward := quiet none
    rw [none, List.append_nil]
    exact {
      invariant := since.invariant
      increasing := sends.increasing
      known := sends.known_later since.keeps
      ahead := sends.ahead_later since.invariant.ledger onward
      phased := sends.phased.onward onward
      writing := sends.step_writing action since.invariant onward
      absent := sends.step_absent action }
  · obtain ⟨waiting, sending⟩ := ConnectionState.step_hands handed
    rw [handed]
    exact sends.hand since.invariant (sends.known_later since.keeps) waiting sending
      (sends.step_absent action) front found book

theorem run (protobuf : Protocol.Protobuf) (opener : Bool) (actions : List Action) :
    Sends (ConnectionState.run protobuf opener actions).1
      (ConnectionState.run protobuf opener actions).2 := by
  have whole := Transition.run_invariant (ConnectionState.step protobuf) Sends
    (.initial opener) [] (.initial opener) (fun s past action sends => sends.step protobuf action)
    actions
  simpa [ConnectionState.run] using whole

end Sends

end PipeForge.Client
