import PipeForge.Client.Connection

/-!
# The call ledger

The part of the scheduler that admits and completes calls, apart from the program
points of its threads. Every critical section changes it by a few moves: accept a
call, expire a queued one, mark one sent, fail them all, hand the front of the
queue to the channel, or answer one. `Ledger` is the invariant of these moves: an
entry's promise is unset exactly while `pending` holds it, and the queue is the
pending entries in phase queued, in admission order. `Keeps` is what no move
undoes.
-/

namespace PipeForge.Client
open Contracts Library Transport

/-! ## Entries -/

section Lookup
variable {calls : List PendingCall} {entry i : Address} {call : PendingCall}

/-- What stands at an address after one call was changed: the changed call there, and every other
as it was. -/
theorem lookup_modify {f : PendingCall → PendingCall} :
    (calls.modify entry f)[i]? = some call ↔
      ∃ old, calls[i]? = some old ∧ call = if i = entry then f old else old := by
  rw [List.getElem?_modify]
  cases calls[i]? with
  | none => simp
  | some old =>
    by_cases same : entry = i
    · simp [same, eq_comm]
    · simp [same, Ne.symm same, eq_comm]

/-- Appending gives the new call the first free address and moves no other. -/
theorem lookup_append {other : PendingCall} :
    (calls ++ [call])[i]? = some other ↔
      calls[i]? = some other ∨ (i = calls.length ∧ other = call) := by
  by_cases old : i < calls.length
  · rw [List.getElem?_append_left old]
    exact ⟨Or.inl, fun either => either.elim id fun last => absurd last.1 (Nat.ne_of_lt old)⟩
  · have past : calls.length ≤ i := Nat.le_of_not_lt old
    rw [List.getElem?_append_right past, List.getElem?_eq_none past, List.getElem?_singleton]
    by_cases last : i = calls.length
    · simp [last, eq_comm]
    · have beyond : i - calls.length ≠ 0 := Nat.sub_ne_zero_of_lt (Nat.lt_of_le_of_ne past (Ne.symm last))
      simp [last, beyond]

theorem lookup_lt (found : calls[i]? = some call) : i < calls.length :=
  (List.getElem?_eq_some_iff.mp found).1

/-- Every turn of the loop adds one value to the promise its entry points to. -/
theorem lookup_settle (value : UInt64 → CallResult) (entries : List (UInt64 × Address)) :
    (settle value entries calls)[i]? = some call ↔
      ∃ old, calls[i]? = some old ∧
        call = { old with
          promise := old.promise ++
            (entries.filter fun e => decide (e.2 = i)).map fun e => value e.1 } := by
  induction entries generalizing calls with
  | nil => simp [settle, eq_comm]
  | cons head rest ih =>
    change (settle value rest (setValue calls head.2 (value head.1)))[i]? = some call ↔ _
    rw [ih]
    constructor
    · intro given
      obtain ⟨middle, found, rfl⟩ := given
      obtain ⟨old, present, rfl⟩ := lookup_modify.mp found
      refine ⟨old, present, ?_⟩
      by_cases here : head.2 = i
      · simp [here, List.append_assoc]
      · simp [here, Ne.symm here]
    · intro given
      obtain ⟨old, present, rfl⟩ := given
      refine ⟨_, lookup_modify.mpr ⟨old, present, rfl⟩, ?_⟩
      by_cases here : head.2 = i
      · simp [here, List.append_assoc]
      · simp [here, Ne.symm here]

/-- Settling entries answers promises only, so addresses keep their meaning. -/
theorem length_settle (value : UInt64 → CallResult) (entries : List (UInt64 × Address)) :
    (settle value entries calls).length = calls.length := by
  induction entries generalizing calls with
  | nil => rfl
  | cons head rest ih =>
    change (settle value rest (setValue calls head.2 (value head.1))).length = _
    rw [ih, setValue, List.length_modify]

end Lookup

/-! ## Moves -/

structure Book where
  calls : List PendingCall
  pending : OrderedMap UInt64 Address
  queued : List Address
  nextId : UInt64
  closed : Bool

namespace Book

def accept (b : Book) (call : PendingCall) : Book :=
  { b with
    calls := b.calls ++ [call]
    pending := b.pending.emplace b.nextId b.calls.length
    queued := b.queued ++ [b.calls.length]
    nextId := b.nextId + 1 }

def resolve (b : Book) (entry : Address) (id : UInt64) (value : CallResult) : Book :=
  { b with
    calls := setValue b.calls entry value
    pending := b.pending.erase id
    queued := b.queued.filter fun other => decide (other ≠ entry) }

def advance (b : Book) (entry : Address) (progress : Phase) : Book :=
  { b with
    calls := setProgress b.calls entry progress
    queued := b.queued.filter fun other => decide (other ≠ entry) }

def fail (b : Book) (cause : UInt64 → Failure) : Book :=
  { b with
    calls := settle (fun id => .error (cause id)) b.pending.entries b.calls
    pending := .empty
    queued := []
    closed := true }

end Book

def ConnectionState.book (s : ConnectionState) : Book :=
  ⟨s.calls, s.pending, s.queued, s.nextId, s.closed⟩

/-- What a section does to the ledger without talking to the channel. -/
inductive Move (protobuf : Protocol.Protobuf) : Book → Book → Prop
  | accept (b : Book) (call : PendingCall) (alive : b.closed = false)
      (numbered : call.request.id = b.nextId) (unset : call.promise = [])
      (fresh : call.progress = .queued) (room : b.pending.size < maxPendingCalls)
      (remaining : b.nextId ≠ maxRequestId)
      (encoded : Protocol.encodeRequest protobuf call.request = .ok call.encoded) :
      Move protobuf b (b.accept call)
  | expire (b : Book) (entry : Address) (call : PendingCall) (cause : Failure)
      (alive : b.closed = false) (found : b.calls[entry]? = some call)
      (held : b.pending.find call.request.id = some entry) (waiting : call.progress = .queued) :
      Move protobuf b (b.resolve entry call.request.id (.error cause))
  | sent (b : Book) (entry : Address) (call : PendingCall) (alive : b.closed = false)
      (found : b.calls[entry]? = some call) (begun : call.progress ≠ .queued) :
      Move protobuf b (b.advance entry .sent)
  | fail (b : Book) (cause : UInt64 → Failure) (alive : b.closed = false) :
      Move protobuf b (b.fail cause)

/-- What one section does: any number of moves, one payload handed to the channel,
or one response given to its call. -/
inductive Turn (protobuf : Protocol.Protobuf) : Book → List Handed → Option Response → Book → Prop
  | silent (b b' : Book) (moves : Relation.ReflTransGen (Move protobuf) b b') :
      Turn protobuf b [] none b'
  | hand (b : Book) (entry : Address) (rest : List Address) (call : PendingCall)
      (alive : b.closed = false) (front : b.queued = entry :: rest)
      (found : b.calls[entry]? = some call) :
      Turn protobuf b [⟨entry, call.encoded⟩] none (b.advance entry .writing)
  | answer (b : Book) (entry : Address) (call : PendingCall) (response : Response)
      (alive : b.closed = false) (found : b.calls[entry]? = some call)
      (held : b.pending.find call.request.id = some entry) (begun : call.progress ≠ .queued)
      (same : response.id = call.request.id)
      (matched : matchesOutcome call.request.body response.body = true) :
      Turn protobuf b [] (some response) (b.resolve entry call.request.id (.ok response))

/-! ## The invariant -/

structure Ledger (b : Book) : Prop where
  order : ∀ (i j : Address) (first second : PendingCall), b.calls[i]? = some first →
    b.calls[j]? = some second → i < j → first.request.id < second.request.id
  nonzero : ∀ (i : Address) (call : PendingCall), b.calls[i]? = some call → call.request.id ≠ 0
  below : ∀ (i : Address) (call : PendingCall), b.calls[i]? = some call →
    call.request.id < b.nextId
  live : b.nextId ≠ 0
  keyed : ∀ (id : UInt64) (entry : Address), b.pending.find id = some entry →
    ∃ call, b.calls[entry]? = some call ∧ call.request.id = id
  unset : ∀ (i : Address) (call : PendingCall), b.calls[i]? = some call →
    (call.promise = [] ↔ b.pending.find call.request.id = some i)
  once : ∀ (i : Address) (call : PendingCall), b.calls[i]? = some call → call.promise.length ≤ 1
  few : b.pending.size ≤ maxPendingCalls
  queue : ∀ i, i ∈ b.queued ↔ ∃ call, b.calls[i]? = some call ∧
    b.pending.find call.request.id = some i ∧ call.progress = .queued
  sorted : b.queued.Pairwise (· < ·)
  drained : b.closed = true → b.pending = .empty ∧ b.queued = []

namespace Ledger
variable {b : Book}

theorem initial (opener : Bool) : Ledger (ConnectionState.initial opener).book where
  order i j first second found := by simp [ConnectionState.book, ConnectionState.initial] at found
  nonzero i call found := by simp [ConnectionState.book, ConnectionState.initial] at found
  below i call found := by simp [ConnectionState.book, ConnectionState.initial] at found
  live := by simp [ConnectionState.book, ConnectionState.initial]
  keyed id entry found := by simp [ConnectionState.book, ConnectionState.initial] at found
  unset i call found := by simp [ConnectionState.book, ConnectionState.initial] at found
  once i call found := by simp [ConnectionState.book, ConnectionState.initial] at found
  few := Nat.zero_le _
  queue i := by simp [ConnectionState.book, ConnectionState.initial]
  sorted := .nil
  drained := nofun

/-- Identifiers determine entries. -/
theorem unique (ledger : Ledger b) {i j : Address} {first second : PendingCall}
    (here : b.calls[i]? = some first) (there : b.calls[j]? = some second)
    (same : first.request.id = second.request.id) : i = j := by
  rcases Nat.lt_trichotomy i j with less | equal | greater
  · have order := ledger.order i j first second here there less
    rw [same] at order
    exact absurd order (UInt64.lt_irrefl _)
  · exact equal
  · have order := ledger.order j i second first there here greater
    rw [same] at order
    exact absurd order (UInt64.lt_irrefl _)

/-- No call stands twice in the queue. -/
theorem nodup (ledger : Ledger b) : b.queued.Nodup :=
  ledger.sorted.imp fun less => Nat.ne_of_lt less

/-- The next identifier is not in use. -/
theorem absent (ledger : Ledger b) : b.pending.find b.nextId = none := by
  cases found : b.pending.find b.nextId with
  | none => rfl
  | some entry =>
    obtain ⟨call, present, same⟩ := ledger.keyed b.nextId entry found
    have less := ledger.below entry call present
    rw [same] at less
    exact absurd less (UInt64.lt_irrefl _)

/-- A move that keeps every request and only takes entries out of the map. -/
theorem update (ledger : Ledger b) {b' : Book} (g : Address → PendingCall → PendingCall)
    (lookup : ∀ i call, b'.calls[i]? = some call ↔
      ∃ old, b.calls[i]? = some old ∧ call = g i old)
    (request : ∀ i old, (g i old).request = old.request) (next : b'.nextId = b.nextId)
    (fewer : b'.pending.size ≤ b.pending.size)
    (subset : ∀ id entry, b'.pending.find id = some entry → b.pending.find id = some entry)
    (unset : ∀ i old, b.calls[i]? = some old →
      ((g i old).promise = [] ↔ b'.pending.find old.request.id = some i))
    (once : ∀ i old, b.calls[i]? = some old → (g i old).promise.length ≤ 1)
    (queue : ∀ i, i ∈ b'.queued ↔ ∃ old, b.calls[i]? = some old ∧
      b'.pending.find old.request.id = some i ∧ (g i old).progress = .queued)
    (sorted : b'.queued.Pairwise (· < ·))
    (drained : b'.closed = true → b'.pending = .empty ∧ b'.queued = []) : Ledger b' where
  order i j first second here there less := by
    obtain ⟨old, found, rfl⟩ := (lookup i first).mp here
    obtain ⟨other, also, rfl⟩ := (lookup j second).mp there
    rw [request, request]
    exact ledger.order i j old other found also less
  nonzero i call here := by
    obtain ⟨old, found, rfl⟩ := (lookup i call).mp here
    rw [request]
    exact ledger.nonzero i old found
  below i call here := by
    obtain ⟨old, found, rfl⟩ := (lookup i call).mp here
    rw [request, next]
    exact ledger.below i old found
  live := by
    rw [next]
    exact ledger.live
  keyed id entry held := by
    obtain ⟨old, found, same⟩ := ledger.keyed id entry (subset id entry held)
    exact ⟨_, (lookup entry _).mpr ⟨old, found, rfl⟩, by rw [request, same]⟩
  unset i call here := by
    obtain ⟨old, found, rfl⟩ := (lookup i call).mp here
    rw [request]
    exact unset i old found
  once i call here := by
    obtain ⟨old, found, rfl⟩ := (lookup i call).mp here
    exact once i old found
  few := Nat.le_trans fewer ledger.few
  queue i := by
    rw [queue i]
    constructor
    · intro given
      obtain ⟨old, found, held, waiting⟩ := given
      exact ⟨_, (lookup i _).mpr ⟨old, found, rfl⟩, by rw [request, held], waiting⟩
    · intro given
      obtain ⟨call, here, held, waiting⟩ := given
      obtain ⟨old, found, rfl⟩ := (lookup i call).mp here
      rw [request] at held
      exact ⟨old, found, held, waiting⟩
  sorted := sorted
  drained := drained

theorem mem_others {entry i : Address} {queued : List Address} :
    i ∈ queued.filter (fun other => decide (other ≠ entry)) ↔ i ∈ queued ∧ i ≠ entry := by
  rw [List.mem_filter, decide_eq_true_eq]

/-- A call found under its own id may be answered and taken out of the map and of the queue. -/
theorem resolve (ledger : Ledger b) {entry : Address} {call : PendingCall} (value : CallResult)
    (alive : b.closed = false) (found : b.calls[entry]? = some call)
    (held : b.pending.find call.request.id = some entry) :
    Ledger (b.resolve entry call.request.id value) := by
  have size := OrderedMap.size_erase b.pending call.request.id entry held
  -- Another entry has another identifier, so erasing this one leaves it alone.
  have others : ∀ i old, b.calls[i]? = some old → i ≠ entry →
      (b.pending.erase call.request.id).find old.request.id = b.pending.find old.request.id := by
    intro i old here apart
    rw [OrderedMap.find_erase, if_neg fun same => apart (ledger.unique here found same)]
  have gone : (b.pending.erase call.request.id).find call.request.id = none := by
    rw [OrderedMap.find_erase, if_pos rfl]
  refine ledger.update
    (fun i old => if i = entry then { old with promise := old.promise ++ [value] } else old)
    (fun i call => lookup_modify) (fun i old => by split <;> rfl) rfl (by
      change (b.pending.erase call.request.id).size ≤ _
      omega) ?_ ?_ ?_ ?_ (ledger.sorted.filter _)
    (fun closed => absurd closed (by simp [Book.resolve, alive]))
  · intro id other held
    change (b.pending.erase call.request.id).find id = some other at held
    rw [OrderedMap.find_erase] at held
    split at held
    · cases held
    · exact held
  · intro i old here
    change _ ↔ (b.pending.erase call.request.id).find old.request.id = some i
    by_cases this : i = entry
    · subst this
      cases Option.some.inj (here.symm.trans found)
      simp [gone]
    · rw [if_neg this, others i old here this]
      exact ledger.unset i old here
  · intro i old here
    by_cases this : i = entry
    · subst this
      cases Option.some.inj (here.symm.trans found)
      simp [(ledger.unset i call here).mpr held]
    · rw [if_neg this]
      exact ledger.once i old here
  · intro i
    change i ∈ b.queued.filter _ ↔ ∃ old, b.calls[i]? = some old ∧
      (b.pending.erase call.request.id).find old.request.id = some i ∧ _
    rw [mem_others, ledger.queue i]
    constructor
    · intro given
      obtain ⟨⟨old, here, held, waiting⟩, apart⟩ := given
      exact ⟨old, here, by rw [others i old here apart, held], by rw [if_neg apart, waiting]⟩
    · intro given
      obtain ⟨old, here, held, waiting⟩ := given
      have apart : i ≠ entry := by
        intro same
        subst same
        cases Option.some.inj (here.symm.trans found)
        rw [gone] at held
        cases held
      rw [others i old here apart] at held
      rw [if_neg apart] at waiting
      exact ⟨⟨old, here, held, waiting⟩, apart⟩

/-- A call that leaves the phase `queued` leaves the queue with it. -/
theorem advance (ledger : Ledger b) {entry : Address} {progress : Phase}
    (alive : b.closed = false) (begun : progress ≠ .queued) :
    Ledger (b.advance entry progress) := by
  refine ledger.update (fun i old => if i = entry then { old with progress } else old)
    (fun i call => lookup_modify) (fun i old => by split <;> rfl) rfl (Nat.le_refl _)
    (fun id other held => held) ?_ ?_ ?_ (ledger.sorted.filter _)
    (fun closed => absurd closed (by simp [Book.advance, alive]))
  · intro i old here
    have unset := ledger.unset i old here
    split
    · exact unset
    · exact unset
  · intro i old here
    have once := ledger.once i old here
    split
    · exact once
    · exact once
  · intro i
    change i ∈ b.queued.filter _ ↔ ∃ old, b.calls[i]? = some old ∧
      b.pending.find old.request.id = some i ∧ _
    rw [mem_others, ledger.queue i]
    constructor
    · intro given
      obtain ⟨⟨old, here, held, waiting⟩, apart⟩ := given
      exact ⟨old, here, held, by rw [if_neg apart, waiting]⟩
    · intro given
      obtain ⟨old, here, held, waiting⟩ := given
      have apart : i ≠ entry := by
        intro this
        rw [if_pos this] at waiting
        exact begun waiting
      rw [if_neg apart] at waiting
      exact ⟨⟨old, here, held, waiting⟩, apart⟩

/-- The map points to an unset entry once and to a completed one never. -/
theorem entries_at (ledger : Ledger b) {i : Address} {call : PendingCall}
    (found : b.calls[i]? = some call) :
    (b.pending.entries.filter fun e => decide (e.2 = i)) =
      if call.promise = [] then [(call.request.id, i)] else [] := by
  have keys : ∀ e ∈ b.pending.entries, e.2 = i → e.1 = call.request.id := by
    rintro ⟨id, entry⟩ member rfl
    obtain ⟨other, here, same⟩ :=
      ledger.keyed id entry ((OrderedMap.find_eq_some_iff _ _ _).mpr member)
    cases Option.some.inj (here.symm.trans found)
    exact same.symm
  split
  · rename_i unset
    have held := (ledger.unset i call found).mp unset
    rw [← OrderedMap.filter_key b.pending call.request.id i held]
    apply List.filter_congr
    rintro ⟨id, entry⟩ member
    have lookup := (OrderedMap.find_eq_some_iff b.pending id entry).mpr member
    apply decide_eq_decide.mpr
    constructor
    · exact keys _ member
    · intro same
      subst same
      exact Option.some.inj (lookup.symm.trans held)
  · rename_i set
    apply List.filter_eq_nil_iff.mpr
    rintro ⟨id, entry⟩ member here
    have points : entry = i := of_decide_eq_true here
    have lookup := (OrderedMap.find_eq_some_iff b.pending id entry).mpr member
    have key : id = call.request.id := keys _ member points
    rw [key, points] at lookup
    exact set ((ledger.unset i call found).mpr lookup)

/-- Failing everything answers each pending call once and empties the map and the queue. -/
theorem fail (ledger : Ledger b) (cause : UInt64 → Failure) : Ledger (b.fail cause) := by
  refine ledger.update
    (fun i old => { old with
      promise := old.promise ++
        (b.pending.entries.filter fun e => decide (e.2 = i)).map fun e => .error (cause e.1) })
    (fun i call => lookup_settle (fun id => .error (cause id)) b.pending.entries) (fun i old => rfl) rfl (Nat.zero_le _)
    (fun id other held => by cases held) ?_ ?_ ?_ .nil (fun _ => ⟨rfl, rfl⟩)
  · intro i old here
    refine iff_of_false ?_ nofun
    rw [ledger.entries_at here]
    by_cases unset : old.promise = [] <;> simp [unset]
  · intro i old here
    rw [ledger.entries_at here]
    by_cases unset : old.promise = []
    · simp [unset]
    · simpa [unset] using ledger.once i old here
  · intro i
    exact iff_of_false (List.not_mem_nil) (by rintro ⟨old, -, held, -⟩; cases held)

/-- An accepted call is found under the id it was given, and no other id changes its entry. -/
theorem accept_find (ledger : Ledger b) (call : PendingCall) (id : UInt64) :
    (b.accept call).pending.find id =
      if id = b.nextId then some b.calls.length else b.pending.find id :=
  OrderedMap.find_emplace b.pending b.nextId id b.calls.length ledger.absent

/-- The entries of the calls before are where they were. -/
theorem accept_older (ledger : Ledger b) (call : PendingCall) {i : Address} {old : PendingCall}
    (here : b.calls[i]? = some old) :
    (b.accept call).pending.find old.request.id = b.pending.find old.request.id := by
  have less := ledger.below i old here
  rw [ledger.accept_find, if_neg fun same => UInt64.lt_irrefl _ (same ▸ less)]

/-- Ids were handed out in increasing order, so the accepted call has the largest. -/
theorem accept_order (ledger : Ledger b) {call : PendingCall}
    (numbered : call.request.id = b.nextId) {i j : Address} {first second : PendingCall}
    (here : (b.accept call).calls[i]? = some first)
    (there : (b.accept call).calls[j]? = some second) (less : i < j) :
    first.request.id < second.request.id := by
  rcases lookup_append.mp here with old | ⟨rfl, rfl⟩
  · rcases lookup_append.mp there with also | ⟨rfl, rfl⟩
    · exact ledger.order i j first second old also less
    · rw [numbered]
      exact ledger.below i first old
  · rcases lookup_append.mp there with also | ⟨rfl, rfl⟩
    · exact absurd less (Nat.lt_asymm (lookup_lt also))
    · exact absurd less (Nat.lt_irrefl _)

/-- The new call waits behind the ones that wait already. -/
theorem accept_queue (ledger : Ledger b) {call : PendingCall}
    (numbered : call.request.id = b.nextId) (fresh : call.progress = .queued) (i : Address) :
    i ∈ (b.accept call).queued ↔ ∃ other, (b.accept call).calls[i]? = some other ∧
      (b.accept call).pending.find other.request.id = some i ∧ other.progress = .queued := by
  change i ∈ b.queued ++ [b.calls.length] ↔ _
  rw [List.mem_append, List.mem_singleton, ledger.queue i]
  constructor
  · intro either
    rcases either with ⟨other, here, held, waiting⟩ | rfl
    · exact ⟨other, lookup_append.mpr (Or.inl here), by rw [ledger.accept_older call here, held],
        waiting⟩
    · refine ⟨call, lookup_append.mpr (Or.inr ⟨rfl, rfl⟩), ?_, fresh⟩
      rw [ledger.accept_find, if_pos numbered]
  · intro given
    obtain ⟨other, here, held, waiting⟩ := given
    rcases lookup_append.mp here with old | ⟨rfl, rfl⟩
    · rw [ledger.accept_older call old] at held
      exact Or.inl ⟨other, old, held, waiting⟩
    · exact Or.inr rfl

/-- Admission keeps the book in order as long as it checks what `call_async` checks: an open
book, room in the map and an id left to give. -/
theorem accept (ledger : Ledger b) {call : PendingCall} (alive : b.closed = false)
    (numbered : call.request.id = b.nextId) (unset : call.promise = [])
    (fresh : call.progress = .queued) (room : b.pending.size < maxPendingCalls)
    (remaining : b.nextId ≠ maxRequestId) : Ledger (b.accept call) := by
  have larger : b.nextId < b.nextId + 1 := SizeT.lt_succ remaining
  exact {
    order := fun i j first second here there less =>
      ledger.accept_order numbered here there less
    nonzero := by
      intro i other here
      rcases lookup_append.mp here with old | ⟨-, rfl⟩
      · exact ledger.nonzero i other old
      · rw [numbered]
        exact ledger.live
    below := by
      intro i other here
      rcases lookup_append.mp here with old | ⟨-, rfl⟩
      · exact UInt64.lt_trans (ledger.below i other old) larger
      · rw [numbered]
        exact larger
    live := UInt64.pos_iff_ne_zero.mp (UInt64.lt_of_le_of_lt UInt64.zero_le larger)
    keyed := by
      intro id entry present
      rw [ledger.accept_find] at present
      split at present
      · rename_i same
        cases present
        exact ⟨call, lookup_append.mpr (Or.inr ⟨rfl, rfl⟩), by rw [numbered, same]⟩
      · obtain ⟨other, here, same⟩ := ledger.keyed id entry present
        exact ⟨other, lookup_append.mpr (Or.inl here), same⟩
    unset := by
      intro i other here
      rcases lookup_append.mp here with old | ⟨rfl, rfl⟩
      · rw [ledger.accept_older call old]
        exact ledger.unset i other old
      · exact iff_of_true unset (by rw [ledger.accept_find, if_pos numbered])
    once := by
      intro i other here
      rcases lookup_append.mp here with old | ⟨-, rfl⟩
      · exact ledger.once i other old
      · simp [unset]
    few := by
      change (b.pending.emplace b.nextId b.calls.length).size ≤ _
      rw [OrderedMap.size_emplace _ _ _ ledger.absent]
      exact room
    queue := ledger.accept_queue numbered fresh
    sorted := by
      refine List.pairwise_append.mpr ⟨ledger.sorted, List.pairwise_singleton _ _, ?_⟩
      intro i member j last
      obtain ⟨other, here, -⟩ := (ledger.queue i).mp member
      rw [List.mem_singleton.mp last]
      exact lookup_lt here
    drained := fun closed => absurd closed (by simp [Book.accept, alive]) }

variable {protobuf : Protocol.Protobuf}

theorem move (ledger : Ledger b) {b' : Book} (moved : Move protobuf b b') : Ledger b' := by
  cases moved with
  | accept call alive numbered unset fresh room remaining encoded =>
    exact ledger.accept alive numbered unset fresh room remaining
  | expire entry call cause alive found held waiting => exact ledger.resolve _ alive found held
  | sent entry call alive found begun => exact ledger.advance alive (by decide)
  | fail cause alive => exact ledger.fail cause

theorem moves (ledger : Ledger b) {b' : Book}
    (moved : Relation.ReflTransGen (Move protobuf) b b') : Ledger b' := by
  induction moved with
  | refl => exact ledger
  | tail _ last ih => exact ih.move last

/-- A whole locked section is moves with at most one hand-over and one reply, so it keeps the
book in order too. -/
theorem turn (ledger : Ledger b) {handed : List Handed} {reply : Option Response} {b' : Book}
    (turned : Turn protobuf b handed reply b') : Ledger b' := by
  cases turned with
  | silent b' moved => exact ledger.moves moved
  | hand entry rest call alive front found => exact ledger.advance alive (by decide)
  | answer entry call response alive found held begun same matched =>
    exact ledger.resolve _ alive found held

end Ledger

/-! ## What no move undoes -/

/-- A later version of an entry: the call is the same, its promise has gained
values at most, and a call handed over is never queued again. -/
structure PendingCall.Later (call later : PendingCall) : Prop where
  same : later = { call with promise := later.promise, progress := later.progress }
  promise : call.promise <+: later.promise
  begun : call.progress ≠ .queued → later.progress ≠ .queued

namespace PendingCall.Later

theorem refl (call : PendingCall) : call.Later call := ⟨rfl, List.prefix_rfl, id⟩

theorem trans {first middle last : PendingCall} (earlier : first.Later middle)
    (later : middle.Later last) : first.Later last where
  same := by
    rw [later.same, earlier.same]
  promise := earlier.promise.trans later.promise
  begun started := later.begun (earlier.begun started)

/-- What was asked for stays the same through the life of a call. -/
theorem request {call later : PendingCall} (relation : call.Later later) :
    later.request = call.request := by
  rw [relation.same]

/-- The bytes encoded at admission are the bytes sent later. -/
theorem encoded {call later : PendingCall} (relation : call.Later later) :
    later.encoded = call.encoded := by
  rw [relation.same]

end PendingCall.Later

structure Keeps (b b' : Book) : Prop where
  calls : ∀ (i : Address) (call : PendingCall), b.calls[i]? = some call →
    ∃ later, b'.calls[i]? = some later ∧ call.Later later
  closed : b.closed = true → b' = b

namespace Keeps
variable {protobuf : Protocol.Protobuf} {b b' : Book}

theorem refl (b : Book) : Keeps b b := ⟨fun _ call found => ⟨call, found, .refl call⟩, fun _ => rfl⟩

theorem trans {first middle last : Book} (earlier : Keeps first middle)
    (later : Keeps middle last) : Keeps first last where
  calls i call found := by
    obtain ⟨between, here, once⟩ := earlier.calls i call found
    obtain ⟨final, there, twice⟩ := later.calls i between here
    exact ⟨final, there, once.trans twice⟩
  closed ended := by
    have same := earlier.closed ended
    rw [later.closed (same ▸ ended), same]

/-- An open book with one call moved on keeps every call. -/
theorem modify (alive : b.closed = false) (entry : Address) (f : PendingCall → PendingCall)
    (later : ∀ call : PendingCall, call.Later (f call)) (calls : b'.calls = b.calls.modify entry f) :
    Keeps b b' where
  calls i call found := by
    rw [calls]
    refine ⟨_, lookup_modify.mpr ⟨call, found, rfl⟩, ?_⟩
    split
    · exact later call
    · exact .refl call
  closed ended := absurd ended (by simp [alive])

theorem resolve (alive : b.closed = false) (entry : Address) (id : UInt64) (value : CallResult) :
    Keeps b (b.resolve entry id value) :=
  modify alive entry (fun call => { call with promise := call.promise ++ [value] })
    (fun _ => ⟨rfl, List.prefix_append _ _, fun begun => begun⟩) rfl

theorem advance (alive : b.closed = false) (entry : Address) {progress : Phase}
    (begun : progress ≠ .queued) : Keeps b (b.advance entry progress) :=
  modify alive entry (fun call => { call with progress })
    (fun _ => ⟨rfl, List.prefix_rfl, fun _ => begun⟩) rfl

/-- No move forgets a call: each address keeps its request, its bytes and any answer it has. -/
theorem move (moved : Move protobuf b b') : Keeps b b' := by
  cases moved with
  | accept call alive =>
    exact ⟨fun i old found => ⟨old, lookup_append.mpr (Or.inl found), .refl old⟩,
      fun ended => absurd ended (by simp [alive])⟩
  | expire entry call cause alive => exact resolve alive entry _ _
  | sent entry call alive => exact advance alive entry (by decide)
  | fail cause alive =>
    refine ⟨fun i old found => ?_, fun ended => absurd ended (by simp [alive])⟩
    have settled := (lookup_settle (fun id => .error (cause id)) b.pending.entries).mpr
      ⟨old, found, rfl⟩
    exact ⟨_, settled, rfl, List.prefix_append _ _, id⟩

theorem moves (moved : Relation.ReflTransGen (Move protobuf) b b') : Keeps b b' := by
  induction moved with
  | refl => exact refl b
  | tail _ last ih => exact ih.trans (move last)

theorem turn {handed : List Handed} {reply : Option Response}
    (turned : Turn protobuf b handed reply b') : Keeps b b' := by
  cases turned with
  | silent b' moved => exact moves moved
  | hand entry rest call alive => exact advance alive entry (by decide)
  | answer entry call response alive => exact resolve alive entry _ _

end Keeps

/-- A payload handed to the channel belongs to an entry that has left the queue. -/
theorem Turn.handed_begun {protobuf : Protocol.Protobuf} {b b' : Book} {handed : List Handed}
    {reply : Option Response} (turned : Turn protobuf b handed reply b') {entry : Address}
    {payload : Bytes} (one : handed = [⟨entry, payload⟩]) :
    ∃ call, b'.calls[entry]? = some call ∧ call.progress ≠ .queued := by
  cases turned with
  | silent => cases one
  | hand _ rest call alive front found =>
    cases one
    exact ⟨_, lookup_modify.mpr ⟨call, found, rfl⟩, by simp⟩
  | answer => cases one

end PipeForge.Client
