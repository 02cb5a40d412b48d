import PipeForge.Client.Ledger

/-!
# Critical sections as moves

Every critical section is a turn of the ledger (`step_turn`), which is all that
later proofs need to know of it. The flags and the opening promise are treated the
same way: four moves, and `Control` as their invariant. The promise is unset
exactly until `opening_done_`, and the writer can still publish a connection only
while it is unset.
-/

namespace PipeForge.Client
open Contracts Library Transport

abbrev Moves (protobuf : Protocol.Protobuf) : Book → Book → Prop :=
  Relation.ReflTransGen (Move protobuf)

/-! ## Without the mutex -/

/-- The writer has still to publish the connector's result. -/
def WriterPoint.awaiting : WriterPoint → Bool
  | .starting _ _ _ | .opening _ _ | .opened _ _ => true
  | .absent | .waiting | .sending _ | .done => false

/-- What may have changed without the mutex: the clock and the stops have gone on, and a
writer on its way to the connection still is. -/
structure Elapsed (s t : ConnectionState) : Prop where
  same : t = { s with now := t.now, stops := t.stops, shutdown := t.shutdown, writer := t.writer }
  now : s.now ≤ t.now
  stops : ∀ stop, s.stopRequested stop = true → t.stopRequested stop = true
  shutdown : s.shutdown = true → t.shutdown = true
  writer : t.writer = s.writer ∨ s.writer.awaiting = true ∧ t.writer.awaiting = true

namespace Elapsed
variable {s t u : ConnectionState}

theorem refl (s : ConnectionState) : Elapsed s s :=
  ⟨rfl, Nat.le_refl _, fun _ => id, id, Or.inl rfl⟩

theorem trans (first : Elapsed s t) (second : Elapsed t u) : Elapsed s u where
  same := by
    refine second.same.trans ?_
    rw [first.same]
  now := Nat.le_trans first.now second.now
  stops stop := second.stops stop ∘ first.stops stop
  shutdown := second.shutdown ∘ first.shutdown
  writer := by
    rcases first.writer with kept | moved
    · exact kept ▸ second.writer
    · rcases second.writer with kept | onward
      · exact Or.inr ⟨moved.1, kept ▸ moved.2⟩
      · exact Or.inr ⟨moved.1, onward.2⟩

/-- Nothing that happens meanwhile takes the writer past its wait for the outcome of the open. -/
theorem awaiting (elapsed : Elapsed s t) : t.writer.awaiting = s.writer.awaiting := by
  rcases elapsed.writer with kept | ⟨before, after⟩
  · rw [kept]
  · rw [before, after]

/-- Nobody begins to send without the mutex. -/
theorem sending (elapsed : Elapsed s t) {entry : Address} (sends : t.writer = .sending entry) :
    s.writer = .sending entry := by
  rcases elapsed.writer with kept | ⟨-, after⟩
  · exact kept ▸ sends
  · rw [sends] at after
    cases after

end Elapsed

namespace ConnectionState
variable {protobuf : Protocol.Protobuf} {s : ConnectionState}

/-- Starting the connector moves the writer between points that await its result. -/
theorem beginOpening_eq : s.beginOpening = s ∨ ∃ deadline stop endpoint writer shutdown,
    s.writer = .starting endpoint deadline stop ∧ s.beginOpening = { s with writer, shutdown } ∧
      (writer = .opening deadline stop ∨
        writer = .opened deadline (.error { kind := .cancelled })) := by
  unfold beginOpening
  split
  · rename_i endpoint deadline stop starting
    dsimp only
    split
    · exact Or.inr ⟨_, _, _, _, _, starting, rfl, Or.inr rfl⟩
    · exact Or.inr ⟨_, _, _, _, _, starting, rfl, Or.inl rfl⟩
  · exact Or.inl rfl

/-- The connector's result counts only for a writer that is inside the open. -/
theorem openReturned_eq (result : Transport.Result Bool) :
    s.openReturned result = s ∨ ∃ deadline stop, s.writer = .opening deadline stop ∧
      s.openReturned result = { s with writer := .opened deadline result } := by
  unfold openReturned
  split
  · rename_i deadline stop opening
    exact Or.inr ⟨deadline, stop, opening, rfl⟩
  · exact Or.inl rfl

/-- One event during thread creation leaves all but the clock, the stops and the writer's way to
the connection alone. -/
theorem elapse_elapsed (s : ConnectionState) (event : Meanwhile) : Elapsed s (s.elapse event) := by
  cases event with
  | tick elapsed => exact { Elapsed.refl s with same := rfl, now := Nat.le_add_right s.now elapsed }
  | requestStop stop =>
    refine { Elapsed.refl s with same := rfl, stops := fun other asked => ?_, shutdown := ?_ }
    · change (stop :: s.stops).contains other = true
      rw [List.contains_cons]
      exact Bool.or_eq_true_iff.mpr (Or.inr asked)
    · intro shut
      simp only [elapse, requestStop]
      split
      · rw [shut, Bool.true_or]
      · exact shut
  | beginOpening =>
    change Elapsed s s.beginOpening
    unfold beginOpening
    split
    case h_1 starting =>
      have awaiting : s.writer.awaiting = true := by
        rw [starting]
        rfl
      dsimp only
      split
      · exact { Elapsed.refl s with
          same := rfl
          shutdown := fun shut => Bool.or_eq_true_iff.mpr (Or.inl shut)
          writer := Or.inr ⟨awaiting, rfl⟩ }
      · exact { Elapsed.refl s with
          same := rfl
          shutdown := fun shut => Bool.or_eq_true_iff.mpr (Or.inl shut)
          writer := Or.inr ⟨awaiting, rfl⟩ }
    case h_2 => exact .refl s
  | openReturned result =>
    change Elapsed s (s.openReturned result)
    rcases s.openReturned_eq result with kept | ⟨_, _, opening, kept⟩
    · rw [kept]
      exact .refl s
    · rw [kept]
      have awaiting : s.writer.awaiting = true := by
        rw [opening]
        rfl
      exact { Elapsed.refl s with same := rfl, writer := Or.inr ⟨awaiting, rfl⟩ }

theorem foldl_elapsed (s : ConnectionState) (events : List Meanwhile) :
    Elapsed s (events.foldl elapse s) := by
  induction events generalizing s with
  | nil => exact .refl s
  | cons first rest ih => exact (s.elapse_elapsed first).trans (ih (s.elapse first))

/-- The first `connect` creates all threads or fails the session, after it has created at most
two of them; later ones change nothing. -/
theorem connectAsync_eq (endpoint : WString) (deadline : Time) (stop : StopToken)
    (workers : Except CreationFailure Unit) :
    (s.connectAsync endpoint deadline stop workers).2 = s ∨
      s.started = false ∧ s.closed = false ∧
        ((s.connectAsync endpoint deadline stop workers).2 =
            spawn { s with started := true } endpoint deadline stop 3 ∨
          ∃ count t common, count ≤ 2 ∧
            Elapsed (spawn { s with started := true } endpoint deadline stop count) t ∧
            (s.connectAsync endpoint deadline stop workers).2 = t.failAll common) := by
  unfold connectAsync
  split
  · exact Or.inl rfl
  · rename_i accepted
    simp only [Bool.or_eq_true, not_or, Bool.not_eq_true] at accepted
    refine Or.inr ⟨accepted.1.1.1, accepted.1.1.2, ?_⟩
    dsimp only
    split
    · exact Or.inr ⟨0, _, _, Nat.zero_le 2, .refl _, rfl⟩
    · split
      · exact Or.inl rfl
      · rename_i failure
        exact Or.inr ⟨min failure.created 2, _, _, Nat.min_le_right _ _,
          foldl_elapsed _ failure.meanwhile, rfl⟩

/-! ## Sections as turns -/

/-- The writer holds an entry over its unlocked send; it was taken off the queue. -/
def Busy (s : ConnectionState) : Prop :=
  ∀ entry, s.writer = .sending entry →
    ∃ call, s.calls[entry]? = some call ∧ call.progress ≠ .queued

/-- `fail_locked` is one move of the book: the map is emptied, and what was in it is answered. -/
theorem failLocked_moves (common : Failure) (specificId : UInt64) (specific : Failure) :
    Moves protobuf s.book (s.failLocked common specificId specific).book := by
  unfold failLocked
  split
  · exact .refl
  · rename_i alive
    exact .single (.fail s.book (fun id => if id = specificId then specific else common)
      (Bool.eq_false_iff.mpr alive))

/-- `connect_async` touches the book only where thread creation failed, and there it fails
everything. -/
theorem connectAsync_moves (endpoint : WString) (deadline : Time) (stop : StopToken)
    (workers : Except CreationFailure Unit) :
    Moves protobuf s.book (s.connectAsync endpoint deadline stop workers).2.book := by
  rcases s.connectAsync_eq endpoint deadline stop workers with
    same | ⟨-, -, same | ⟨count, t, common, -, elapsed, same⟩⟩
  · rw [same]
  · rw [same]
    exact .refl
  · have book : t.book = s.book := (congrArg ConnectionState.book elapsed.same :)
    rw [same, ← book]
    exact failLocked_moves _ _ _

/-- `call_async` either refuses and leaves the book alone or accepts one call. -/
theorem callAsync_moves (operation : Operation) (deadline : Time) (stop : StopToken) :
    Moves protobuf s.book (s.callAsync protobuf operation deadline stop).2.book := by
  unfold callAsync
  split
  · exact .refl
  · rename_i usable
    split
    · exact .refl
    · split
      · exact .refl
      · split
        · exact .refl
        · rename_i admissible
          dsimp only
          split
          · exact .refl
          · rename_i encoded success
            obtain ⟨room, remaining⟩ := not_or.mp admissible
            have alive : s.closed = false := by simp_all
            exact .single (.accept s.book
              { request := { id := s.nextId, body := operation }, encoded, deadline, stop }
              alive rfl rfl rfl (Nat.lt_of_not_le room) remaining success)

/-- Publishing the outcome of the open fails the book or leaves it. -/
theorem publishOpened_moves : Moves protobuf s.book s.publishOpened.book := by
  unfold publishOpened
  split
  · split
    · exact failLocked_moves _ _ _
    · split
      · exact .refl
      · split
        · exact failLocked_moves _ _ _
        · split
          · exact failLocked_moves _ _ _
          · split
            · exact failLocked_moves _ _ _
            · exact .refl
  · exact .refl

/-- Popping the front of a queue without repetitions removes just that entry. -/
theorem rest_eq {queued rest : List Address} {entry : Address} (front : queued = entry :: rest)
    (distinct : queued.Nodup) : rest = queued.filter fun other => decide (other ≠ entry) := by
  subst front
  have absent := (List.nodup_cons.mp distinct).1
  rw [List.filter_cons_of_neg (by simp), eq_comm, List.filter_eq_self]
  intro other member
  exact decide_eq_true fun same => absent (same ▸ member)

/-- The writer hands over at most the front of the queue, with the bytes encoded for it. -/
theorem takeQueued_turn (ledger : Ledger s.book) :
    Turn protobuf s.book s.takeQueued.2 none s.takeQueued.1.book := by
  unfold takeQueued
  split
  · split
    · exact .silent _ _ .refl
    · rename_i alive
      have alive : s.closed = false := Bool.eq_false_iff.mpr alive
      split
      · exact .silent _ _ .refl
      · rename_i entry rest front
        split
        · exact .silent _ _ .refl
        · rename_i call found
          have others : rest = s.queued.filter _ := rest_eq front ledger.nodup
          obtain ⟨same, here, held, waiting⟩ :=
            (ledger.queue entry).mp (by simp [book, front])
          cases Option.some.inj (here.symm.trans found)
          split
          · have moved : Move protobuf s.book _ := .expire s.book entry call (s.expiry call.stop)
              alive found held waiting
            refine .silent _ _ (.single ?_)
            simpa only [book, Book.resolve, ← others] using moved
          · have handed : Turn protobuf s.book _ none _ := .hand s.book entry rest call alive front found
            simpa only [book, Book.advance, ← others] using handed
  · exact .silent _ _ .refl

theorem filter_absent {queued : List Address} {entry : Address} (absent : entry ∉ queued) :
    queued.filter (fun other => decide (other ≠ entry)) = queued := by
  rw [List.filter_eq_self]
  intro other member
  exact decide_eq_true fun same => absent (same ▸ member)

/-- An entry past the queue is not in it. -/
theorem begun_absent (ledger : Ledger s.book) {entry : Address} {call : PendingCall}
    (found : s.calls[entry]? = some call) (begun : call.progress ≠ .queued) :
    entry ∉ s.queued := by
  intro member
  obtain ⟨same, here, -, waiting⟩ := (ledger.queue entry).mp member
  cases Option.some.inj (here.symm.trans found)
  exact begun waiting

/-- A send that went through marks its call as sent; one that did not fails the connection. -/
theorem sendReturned_moves (ledger : Ledger s.book) (busy : s.Busy) (result : Transport.Result Nat) :
    Moves protobuf s.book (s.sendReturned result).book := by
  unfold sendReturned
  split
  · rename_i entry sending
    split
    · exact .refl
    · rename_i alive
      split
      · exact .refl
      · rename_i call found
        obtain ⟨same, here, begun⟩ := busy entry sending
        cases Option.some.inj (here.symm.trans found)
        split
        · exact failLocked_moves _ _ _
        · split
          · have moved : Move protobuf s.book _ := .sent s.book entry call
              (Bool.eq_false_iff.mpr alive) found begun
            have kept := filter_absent (begun_absent ledger found begun)
            refine .single ?_
            simpa only [book, Book.advance, kept] using moved
          · exact .refl
  · exact .refl

/-- A reply is told apart by its bytes: only a payload that decodes to a response answers a call.
-/
theorem received_turn (ledger : Ledger s.book) (payload : Transport.Result Bytes) :
    ∃ reply, Turn protobuf s.book [] reply (s.received protobuf payload).book ∧
      ∀ response, reply = some response → ∃ bytes, payload = .ok bytes ∧
        Protocol.decodeResponse protobuf bytes = .ok response := by
  have quiet : ∀ {b : Book}, Moves protobuf s.book b → ∃ reply, Turn protobuf s.book [] reply b ∧
      ∀ response, reply = some response → ∃ bytes, payload = .ok bytes ∧
        Protocol.decodeResponse protobuf bytes = .ok response :=
    fun moves => ⟨none, .silent _ _ moves, nofun⟩
  unfold received
  split
  · split
    · exact quiet .refl
    · rename_i alive
      split
      · exact quiet (failLocked_moves _ _ _)
      · rename_i bytes
        split
        · exact quiet (failLocked_moves _ _ _)
        · rename_i response decoded
          split
          · exact quiet (failLocked_moves _ _ _)
          · rename_i entry held
            split
            · exact quiet .refl
            · rename_i call found
              obtain ⟨same, here, numbered⟩ := ledger.keyed response.id entry held
              cases Option.some.inj (here.symm.trans found)
              split
              · exact quiet (failLocked_moves _ _ _)
              · rename_i acceptable
                obtain ⟨begun, matched⟩ := not_or.mp acceptable
                split
                · exact quiet (failLocked_moves _ _ _)
                · refine ⟨some response, ?_, fun other equal => ?_⟩
                  · have turned : Turn protobuf s.book [] _ _ := .answer s.book entry call response
                      (Bool.eq_false_iff.mpr alive) found (numbered ▸ held) begun numbered.symm
                      (by simpa using matched)
                    have kept := filter_absent (begun_absent ledger found begun)
                    simpa only [book, Book.resolve, kept, numbered] using turned
                  · cases equal
                    exact ⟨bytes, rfl, decoded⟩
  · exact quiet .refl

/-- The pass visits entries the map still holds: it erases only the one it is at. -/
theorem scan_moves (entries : List (UInt64 × Address)) (ledger : Ledger s.book)
    (alive : s.closed = false) (held : ∀ e ∈ entries, s.pending.find e.1 = some e.2)
    (distinct : entries.Pairwise fun a b => a.1 < b.1) :
    Moves protobuf s.book (s.scan entries).book := by
  induction entries generalizing s with
  | nil => exact .refl
  | cons head rest ih =>
    obtain ⟨id, entry⟩ := head
    obtain ⟨above, tail⟩ := List.pairwise_cons.mp distinct
    have here := held (id, entry) List.mem_cons_self
    unfold scan
    split
    · exact .refl
    · rename_i call found
      obtain ⟨same, present, numbered⟩ := ledger.keyed id entry here
      cases Option.some.inj (present.symm.trans found)
      split
      · split
        · exact failLocked_moves _ _ _
        · rename_i waiting
          have moved : Move protobuf s.book _ := .expire s.book entry call (s.expiry call.stop)
            alive found (numbered ▸ here) (not_not.mp waiting)
          rw [numbered] at moved
          refine .head moved (ih
            (s := s.withdraw id entry (s.expiry call.stop)) (ledger.move moved) alive ?_ tail)
          intro e member
          have less := above e member
          change (s.pending.erase id).find e.1 = some e.2
          rw [OrderedMap.find_erase, if_neg fun equal => UInt64.lt_irrefl _ (equal ▸ less)]
          exact held e (List.mem_cons_of_mem _ member)
      · exact ih ledger alive (fun e member => held e (List.mem_cons_of_mem _ member)) tail

/-- The monitor withdraws what has expired and fails the connection where a call was already on
its way. -/
theorem monitorScan_moves (ledger : Ledger s.book) :
    Moves protobuf s.book s.monitorScan.book := by
  unfold monitorScan
  split
  · split
    · exact .refl
    · rename_i alive
      exact scan_moves s.pending.entries ledger (Bool.eq_false_iff.mpr alive)
        (fun e member => (OrderedMap.find_eq_some_iff _ _ _).mpr member) s.pending.sorted
  · exact .refl

theorem readerConnected_eq : ∃ reader, s.readerConnected = { s with reader } := by
  unfold readerConnected
  split
  · split
    · exact ⟨_, rfl⟩
    · split <;> exact ⟨_, rfl⟩
  · exact ⟨_, rfl⟩

theorem readerLoop_eq : ∃ reader, s.readerLoop = { s with reader } := by
  unfold readerLoop
  split
  · split <;> exact ⟨_, rfl⟩
  · exact ⟨_, rfl⟩

theorem monitorConnected_eq : ∃ monitor, s.monitorConnected = { s with monitor } := by
  unfold monitorConnected
  split
  · split
    · exact ⟨_, rfl⟩
    · split <;> exact ⟨_, rfl⟩
  · exact ⟨_, rfl⟩

/-- Each action of the model is one turn of the book, and a reply in it comes from bytes just
received. -/
theorem step_turn (protobuf : Protocol.Protobuf) (ledger : Ledger s.book) (busy : s.Busy) (action : Action) :
    ∃ reply, Turn protobuf s.book (step protobuf s action).2 reply (step protobuf s action).1.book ∧
      ∀ response, reply = some response → ∃ bytes, action = .received (.ok bytes) ∧
        Protocol.decodeResponse protobuf bytes = .ok response := by
  have quiet : ∀ {t : ConnectionState}, Moves protobuf s.book t.book →
      ∃ reply, Turn protobuf s.book [] reply t.book ∧
        ∀ response, reply = some response → ∃ bytes, action = .received (.ok bytes) ∧
          Protocol.decodeResponse protobuf bytes = .ok response :=
    fun moves => ⟨none, .silent _ _ moves, nofun⟩
  have idle : ∀ {t u : ConnectionState}, t = u → s.book = u.book →
      ∃ reply, Turn protobuf s.book [] reply t.book ∧
        ∀ response, reply = some response → ∃ bytes, action = .received (.ok bytes) ∧
          Protocol.decodeResponse protobuf bytes = .ok response := by
    rintro t u rfl same
    exact quiet (same ▸ .refl)
  cases action with
  | connect endpoint deadline stop workers => exact quiet (connectAsync_moves _ _ _ _)
  | call operation deadline stop => exact quiet (callAsync_moves _ _ _)
  | close => exact quiet (failLocked_moves _ _ _)
  | tick elapsed => exact quiet .refl
  | requestStop stop => exact quiet .refl
  | beginOpening =>
    rcases s.beginOpening_eq with same | ⟨_, _, _, _, _, _, same, _⟩
    · exact idle same rfl
    · exact idle same rfl
  | openReturned result =>
    rcases s.openReturned_eq result with same | ⟨_, _, _, same⟩
    · exact idle same rfl
    · exact idle same rfl
  | publishOpened => exact quiet publishOpened_moves
  | takeQueued => exact ⟨none, takeQueued_turn ledger, nofun⟩
  | sendReturned result => exact quiet (sendReturned_moves ledger busy result)
  | readerConnected =>
    obtain ⟨_, same⟩ := s.readerConnected_eq
    exact idle same rfl
  | readerLoop =>
    obtain ⟨_, same⟩ := s.readerLoop_eq
    exact idle same rfl
  | received payload =>
    obtain ⟨reply, turned, source⟩ := received_turn ledger payload
    refine ⟨reply, turned, fun response equal => ?_⟩
    obtain ⟨bytes, rfl, decoded⟩ := source response equal
    exact ⟨bytes, rfl, decoded⟩
  | monitorConnected =>
    obtain ⟨_, same⟩ := s.monitorConnected_eq
    exact idle same rfl
  | monitorScan => exact quiet (monitorScan_moves ledger)

end ConnectionState

/-! ## Flags and the opening promise -/

structure Flags where
  opening : List ConnectResult
  started : Bool
  openingDone : Bool
  closed : Bool
  awaiting : Bool

def ConnectionState.flags (s : ConnectionState) : Flags :=
  ⟨s.opening, s.started, s.openingDone, s.closed, s.writer.awaiting⟩

inductive Flags.Move : Flags → Flags → Prop
  | start (f : Flags) (awaiting : Bool) (fresh : f.started = false) (alive : f.closed = false) :
      Move f { f with started := true, awaiting }
  | publish (f : Flags) (alive : f.closed = false) (awaiting : f.awaiting = true) :
      Move f { f with opening := f.opening ++ [.ok ()], openingDone := true, awaiting := false }
  | fail (f : Flags) (failure : Failure) (alive : f.closed = false) :
      Move f { f with
        closed := true
        opening := if f.started && !f.openingDone then f.opening ++ [.error failure] else f.opening
        openingDone := f.openingDone || f.started }
  | leave (f : Flags) : Move f { f with awaiting := false }

structure Control (f : Flags) : Prop where
  opened : f.opening.length = if f.openingDone then 1 else 0
  unstarted : f.started = false → f.openingDone = false ∧ f.awaiting = false
  resolved : f.closed = true → f.started = true → f.openingDone = true
  unpublished : f.closed = false → f.awaiting = true → f.openingDone = false

/-- Each single write to the flags keeps them consistent. -/
theorem Control.move {f f' : Flags} (control : Control f) (moved : f.Move f') : Control f' := by
  obtain ⟨opened, unstarted, resolved, unpublished⟩ := control
  cases moved with
  | start awaiting fresh alive =>
    exact ⟨opened, nofun, fun closed => absurd closed (by simp [alive]),
      fun _ _ => (unstarted fresh).1⟩
  | publish alive awaiting =>
    refine ⟨?_, fun fresh => ?_, fun _ _ => rfl, nofun⟩
    · simp [opened, unpublished alive awaiting]
    · exact absurd awaiting (by simp [(unstarted fresh).2])
  | fail failure alive =>
    refine ⟨?_, fun fresh => ?_, fun _ begun => ?_, nofun⟩
    · cases begun : f.started <;> cases done : f.openingDone <;> simp [opened, done]
    · have fresh : f.started = false := fresh
      simp [unstarted fresh, fresh]
    · have begun : f.started = true := begun
      simp [begun]
  | leave => exact ⟨opened, fun fresh => ⟨(unstarted fresh).1, rfl⟩, resolved, nofun⟩

/-- The opening promise gains values at most, and none after the close. -/
structure Flags.Later (f f' : Flags) : Prop where
  opening : f.opening <+: f'.opening
  closed : f.closed = true → f'.closed = true ∧ f'.opening = f.opening

theorem Flags.Later.refl (f : Flags) : f.Later f :=
  ⟨List.prefix_rfl, fun closed => ⟨closed, rfl⟩⟩

theorem Flags.Later.trans {first middle last : Flags} (earlier : first.Later middle)
    (later : middle.Later last) : first.Later last where
  opening := earlier.opening.trans later.opening
  closed ended := by
    obtain ⟨still, same⟩ := earlier.closed ended
    obtain ⟨final, kept⟩ := later.closed still
    exact ⟨final, kept.trans same⟩

/-- No write takes a value back from the opening promise or reopens the connection. -/
theorem Flags.Move.later {f f' : Flags} (moved : f.Move f') : f.Later f' := by
  cases moved with
  | start awaiting fresh alive => exact ⟨List.prefix_rfl, fun closed => ⟨closed, rfl⟩⟩
  | publish alive => exact ⟨List.prefix_append _ _, fun closed => absurd closed (by simp [alive])⟩
  | fail failure alive =>
    refine ⟨?_, fun closed => absurd closed (by simp [alive])⟩
    dsimp only
    split
    · exact List.prefix_append _ _
    · exact List.prefix_rfl
  | leave => exact ⟨List.prefix_rfl, fun closed => ⟨closed, rfl⟩⟩

namespace ConnectionState
variable {protobuf : Protocol.Protobuf} {s : ConnectionState}

abbrev FlagMoves : Flags → Flags → Prop := Relation.ReflTransGen Flags.Move

@[simp] theorem failLocked_writer (common : Failure) (specificId : UInt64) (specific : Failure) :
    (s.failLocked common specificId specific).writer = s.writer := by
  unfold failLocked
  split <;> rfl

theorem failLocked_started (common : Failure) (specificId : UInt64) (specific : Failure) :
    (s.failLocked common specificId specific).started = s.started := by
  unfold failLocked
  split <;> rfl

/-- `fail_locked` closes, and answers the opening promise if nobody did. -/
theorem failLocked_flags (common : Failure) (specificId : UInt64) (specific : Failure) :
    FlagMoves s.flags (s.failLocked common specificId specific).flags := by
  unfold failLocked
  split
  · exact .refl
  · rename_i alive
    exact .single (.fail s.flags common (Bool.eq_false_iff.mpr alive))

/-- The writer ends after failing everything. -/
theorem failLocked_leave (common : Failure) (specificId : UInt64) (specific : Failure) :
    FlagMoves s.flags
      ({ s.failLocked common specificId specific with writer := .done } : ConnectionState).flags :=
  .tail (failLocked_flags common specificId specific) (.leave _)

/-- `connect_async` raises `started` and, where thread creation failed, closes as `fail_locked`
does. -/
theorem connectAsync_flags (endpoint : WString) (deadline : Time) (stop : StopToken)
    (workers : Except CreationFailure Unit) :
    FlagMoves s.flags (s.connectAsync endpoint deadline stop workers).2.flags := by
  have start (writer : WriterPoint) (fresh : s.started = false) (alive : s.closed = false) :
      s.flags.Move ({ s with started := true, writer } : ConnectionState).flags :=
    .start s.flags writer.awaiting fresh alive
  rcases s.connectAsync_eq endpoint deadline stop workers with
    same | ⟨fresh, alive, same | ⟨count, t, common, -, elapsed, same⟩⟩
  · rw [same]
  · rw [same]
    exact .single (start _ fresh alive)
  · have begun : s.flags.Move t.flags := by
      rw [elapsed.same]
      exact start t.writer fresh alive
    rw [same]
    exact .head begun (failLocked_flags _ _ _)

/-- Admission leaves the flags and the threads alone. -/
theorem callAsync_eq (protobuf : Protocol.Protobuf) (operation : Operation) (deadline : Time)
    (stop : StopToken) : ∃ calls pending queued nextId notified,
      (s.callAsync protobuf operation deadline stop).2 =
        { s with calls, pending, queued, nextId, notified } := by
  unfold callAsync
  dsimp only
  repeat' split
  all_goals exact ⟨_, _, _, _, _, rfl⟩

/-- Publishing answers the opening promise as connected, or leaves that to `fail_locked`. -/
theorem publishOpened_flags : FlagMoves s.flags s.publishOpened.flags := by
  unfold publishOpened
  split
  · rename_i deadline result opened
    split
    · exact failLocked_leave _ _ _
    · split
      · exact .single (.leave _)
      · rename_i alive
        split
        · exact failLocked_leave _ _ _
        · split
          · exact failLocked_leave _ _ _
          · split
            · exact failLocked_leave _ _ _
            · exact .single (.publish s.flags (Bool.eq_false_iff.mpr alive)
                (by simp [flags, opened, WriterPoint.awaiting]))
  · exact .refl

theorem takeQueued_flags : FlagMoves s.flags s.takeQueued.1.flags := by
  unfold takeQueued
  split
  · split
    · exact .single (.leave _)
    · split
      · exact .refl
      · split
        · exact .refl
        · split
          · exact .refl
          · exact .single (.leave _)
  · exact .refl

theorem sendReturned_flags (result : Transport.Result Nat) :
    FlagMoves s.flags (s.sendReturned result).flags := by
  unfold sendReturned
  split
  · split
    · exact .single (.leave _)
    · split
      · exact .refl
      · split
        · exact failLocked_leave _ _ _
        · split <;> exact .single (.leave _)
  · exact .refl

/-- The reader raises flags only through `fail_locked`, and it never moves the writer. -/
theorem received_flags (payload : Transport.Result Bytes) :
    FlagMoves s.flags (s.received protobuf payload).flags ∧
      (s.received protobuf payload).writer = s.writer := by
  have fail : ∀ common specificId specific,
      FlagMoves s.flags
        ({ s.failLocked common specificId specific with reader := .done } : ConnectionState).flags ∧
      (s.failLocked common specificId specific).writer = s.writer :=
    fun _ _ _ => ⟨failLocked_flags _ _ _, failLocked_writer _ _ _⟩
  unfold received
  split
  · split
    · exact ⟨.refl, rfl⟩
    · split
      · exact fail _ _ _
      · split
        · exact fail _ _ _
        · split
          · exact fail _ _ _
          · split
            · exact ⟨.refl, rfl⟩
            · split
              · exact fail _ _ _
              · split
                · exact fail _ _ _
                · exact ⟨.refl, rfl⟩
  · exact ⟨.refl, rfl⟩

theorem scan_flags (entries : List (UInt64 × Address)) :
    FlagMoves s.flags (s.scan entries).flags ∧ (s.scan entries).writer = s.writer := by
  induction entries generalizing s with
  | nil => exact ⟨.refl, rfl⟩
  | cons head rest ih =>
    unfold scan
    split
    · exact ⟨.refl, rfl⟩
    · split
      · split
        · exact ⟨failLocked_flags _ _ _, failLocked_writer _ _ _⟩
        · rename_i call found overdue waiting
          exact ih (s := s.withdraw head.1 head.2 (s.expiry call.stop))
      · exact ih

theorem monitorScan_flags :
    FlagMoves s.flags s.monitorScan.flags ∧ s.monitorScan.writer = s.writer := by
  unfold monitorScan
  split
  · split
    · exact ⟨.refl, rfl⟩
    · exact scan_flags _
  · exact ⟨.refl, rfl⟩

/-- Connecting puts no writer in the middle of a send. -/
theorem connectAsync_sending {endpoint : WString} {deadline : Time} {stop : StopToken}
    {workers : Except CreationFailure Unit} {entry : Address}
    (sending : (s.connectAsync endpoint deadline stop workers).2.writer = .sending entry) :
    s.writer = .sending entry := by
  rcases s.connectAsync_eq endpoint deadline stop workers with
    same | ⟨-, -, same | ⟨count, t, common, -, elapsed, same⟩⟩
  · rwa [same] at sending
  · rw [same] at sending
    cases sending
  · rw [same, failAll, failLocked_writer] at sending
    have before := elapsed.sending sending
    simp only [spawn] at before
    split at before
    · cases before
    · exact before

theorem publishOpened_sending {entry : Address} (sending : s.publishOpened.writer = .sending entry) :
    s.writer = .sending entry := by
  unfold publishOpened at sending
  repeat' split at sending
  all_goals first | exact sending | cases sending

/-- A writer is in the middle of a send of what it has just taken, or it already was. -/
theorem takeQueued_sending {entry : Address} : s.takeQueued.1.writer = .sending entry →
    s.writer = .sending entry ∨ ∃ payload, s.takeQueued.2 = [⟨entry, payload⟩] := by
  unfold takeQueued
  split
  · split
    · nofun
    · split
      · exact Or.inl
      · split
        · exact Or.inl
        · split
          · exact Or.inl
          · intro sending
            cases sending
            exact Or.inr ⟨_, rfl⟩
  · exact Or.inl

theorem sendReturned_sending {result : Transport.Result Nat} {entry : Address}
    (sending : (s.sendReturned result).writer = .sending entry) : s.writer = .sending entry := by
  unfold sendReturned at sending
  repeat' split at sending
  all_goals first | exact sending | cases sending

/-- Every section moves the flags, and only `take` of the queue starts a send. -/
theorem step_flags (protobuf : Protocol.Protobuf) (action : Action) :
    FlagMoves s.flags (step protobuf s action).1.flags ∧
      ∀ entry, (step protobuf s action).1.writer = .sending entry →
        s.writer = .sending entry ∨ ∃ payload, (step protobuf s action).2 = [⟨entry, payload⟩] := by
  have same : ∀ {t : ConnectionState}, FlagMoves s.flags t.flags ∧ t.writer = s.writer →
      FlagMoves s.flags t.flags ∧ ∀ entry, t.writer = .sending entry →
        s.writer = .sending entry ∨
          ∃ payload, ([] : List Handed) = [⟨entry, payload⟩] :=
    fun moved => ⟨moved.1, fun entry sending => Or.inl (moved.2 ▸ sending)⟩
  have idle : ∀ {t u : ConnectionState}, t = u → s.flags = u.flags → u.writer = s.writer →
      FlagMoves s.flags t.flags ∧ ∀ entry, t.writer = .sending entry →
        s.writer = .sending entry ∨ ∃ payload, ([] : List Handed) = [⟨entry, payload⟩] := by
    rintro t u rfl flags writer
    exact same ⟨flags ▸ .refl, writer⟩
  have silent : ∀ {t : ConnectionState} {writer : WriterPoint} {shutdown : Bool},
      t = { s with writer, shutdown } →
      (writer.awaiting = s.writer.awaiting ∧ ∀ entry, writer ≠ .sending entry) →
      FlagMoves s.flags t.flags ∧ ∀ entry, t.writer = .sending entry →
        s.writer = .sending entry ∨ ∃ payload, ([] : List Handed) = [⟨entry, payload⟩] := by
    rintro t writer shutdown rfl ⟨await, idle⟩
    refine ⟨?_, fun entry sending => absurd sending (idle entry)⟩
    change FlagMoves s.flags ⟨s.opening, s.started, s.openingDone, s.closed, writer.awaiting⟩
    rw [await]
    exact .refl
  cases action with
  | connect endpoint deadline stop workers =>
    exact ⟨connectAsync_flags _ _ _ _, fun entry sending => Or.inl (connectAsync_sending sending)⟩
  | call operation deadline stop =>
    obtain ⟨_, _, _, _, _, kept⟩ := s.callAsync_eq protobuf operation deadline stop
    exact idle kept rfl rfl
  | close => exact same ⟨failLocked_flags _ _ _, failLocked_writer _ _ _⟩
  | tick elapsed => exact same ⟨.refl, rfl⟩
  | requestStop stop => exact same ⟨.refl, rfl⟩
  | beginOpening =>
    rcases s.beginOpening_eq with kept | ⟨_, _, _, writer, _, starting, kept, point⟩
    · exact idle kept rfl rfl
    · have await : writer.awaiting = s.writer.awaiting ∧ ∀ entry, writer ≠ .sending entry := by
        rw [starting]
        rcases point with rfl | rfl <;> exact ⟨rfl, nofun⟩
      exact silent kept await
  | openReturned result =>
    rcases s.openReturned_eq result with kept | ⟨_, _, opening, kept⟩
    · exact idle kept rfl rfl
    · exact silent kept ⟨by rw [opening]; rfl, nofun⟩
  | publishOpened => exact ⟨publishOpened_flags, fun entry sending => Or.inl (publishOpened_sending sending)⟩
  | takeQueued => exact ⟨takeQueued_flags, fun entry => takeQueued_sending⟩
  | sendReturned result =>
    exact ⟨sendReturned_flags result, fun entry sending => Or.inl (sendReturned_sending sending)⟩
  | readerConnected =>
    obtain ⟨_, kept⟩ := s.readerConnected_eq
    exact idle kept rfl rfl
  | readerLoop =>
    obtain ⟨_, kept⟩ := s.readerLoop_eq
    exact idle kept rfl rfl
  | received payload => exact same (received_flags payload)
  | monitorConnected =>
    obtain ⟨_, kept⟩ := s.monitorConnected_eq
    exact idle kept rfl rfl
  | monitorScan => exact same monitorScan_flags

end ConnectionState

theorem Control.moves {f f' : Flags} (control : Control f)
    (moved : Relation.ReflTransGen Flags.Move f f') : Control f' ∧ f.Later f' := by
  induction moved with
  | refl => exact ⟨control, .refl f⟩
  | tail _ last ih => exact ⟨ih.1.move last, ih.2.trans last.later⟩

end PipeForge.Client
