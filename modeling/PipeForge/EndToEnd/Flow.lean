import PipeForge.Client.Completion
import PipeForge.EndToEnd.System

/-!
# Requests and replies in flight

The invariant between the client's ledger, the messages on their way and the
executions so far. Every execution and every message belongs to an entry of the
ledger, and along executed, waiting and queued entries the addresses increase:
the line only loses entries, or gains a new one at its end. An entry whose
message is still on its way is unresolved while the connection is open, which is
why the reader never meets a reply it does not expect.
-/

namespace PipeForge.EndToEnd
open Contracts Library Protocol Client

/-- `execution` ran the call at `entry`. -/
def Logged (b : Book) (entry : Address) (execution : Execution) : Prop :=
  ∃ call, b.calls[entry]? = some call ∧ call.request = execution.request

/-- `payload` carries the call at `entry`. -/
def Requested (b : Book) (entry : Address) (payload : Bytes) : Prop :=
  ∃ call, b.calls[entry]? = some call ∧ call.encoded = payload

/-- `payload` carries the outcome of executing the call at `entry`. -/
def Replied (protobuf : Protobuf) (b : Book) (log : List Execution) (entry : Address)
    (payload : Bytes) : Prop :=
  ∃ call execution, b.calls[entry]? = some call ∧ execution ∈ log ∧
    execution.request = call.request ∧
    decodeResponse protobuf payload = .ok ⟨call.request.id, execution.outcome, version⟩

/-- `response` is what executing the call gave. -/
def Genuine (log : List Execution) (call : PendingCall) (response : Response) : Prop :=
  ∃ execution ∈ log, execution.request = call.request ∧
    response = ⟨call.request.id, execution.outcome, version⟩

/-- `executed`, `answering` and `waiting` are the entries of the log, of the replies
and of the requests. -/
structure Flow (protobuf : Protobuf) (b : Book) (log : List Execution) (replies requests : List Bytes)
    (executed answering waiting : List Address) : Prop where
  encoded : ∀ (i : Address) (call : PendingCall), b.calls[i]? = some call →
    encodeRequest protobuf call.request = .ok call.encoded
  logged : List.Forall₂ (Logged b) executed log
  unread : answering.Sublist executed
  replied : List.Forall₂ (Replied protobuf b log) answering replies
  requested : List.Forall₂ (Requested b) waiting requests
  line : (executed ++ waiting ++ b.queued).Pairwise (· < ·)
  begun : ∀ entry ∈ executed ++ waiting,
    ∃ call, b.calls[entry]? = some call ∧ call.progress ≠ .queued
  unresolved : b.closed = false → ∀ entry ∈ answering ++ waiting,
    ∃ call, b.calls[entry]? = some call ∧ call.promise = []
  genuine : ∀ (i : Address) (call : PendingCall) (response : Response), b.calls[i]? = some call →
    .ok response ∈ call.promise → Genuine log call response
  matched : ∀ execution ∈ log,
    matchesOutcome execution.request.body execution.outcome = true

/-- A part of a related list is related to a part. -/
theorem forall₂_sublist {α β : Type} {r : α → β → Prop} {l : List α} {m m' : List β}
    (related : List.Forall₂ r l m) (part : m'.Sublist m) :
    ∃ l', l'.Sublist l ∧ List.Forall₂ r l' m' := by
  induction part generalizing l with
  | slnil =>
    cases related
    exact ⟨[], .slnil, .nil⟩
  | cons b part ih =>
    cases related with
    | cons head tail =>
      obtain ⟨l', fewer, kept⟩ := ih tail
      exact ⟨l', fewer.cons _, kept⟩
  | cons_cons b part ih =>
    cases related with
    | cons head tail =>
      obtain ⟨l', fewer, kept⟩ := ih tail
      exact ⟨_ :: l', fewer.cons_cons _, .cons head kept⟩

theorem forall₂_right {α β : Type} {r : α → β → Prop} {l : List α} {m : List β}
    (related : List.Forall₂ r l m) {b : β} (member : b ∈ m) : ∃ a ∈ l, r a b := by
  induction related with
  | nil => cases member
  | cons first rest ih =>
    rcases List.mem_cons.mp member with rfl | later
    · exact ⟨_, List.mem_cons_self, first⟩
    · obtain ⟨a, listed, holds⟩ := ih later
      exact ⟨a, List.mem_cons_of_mem _ listed, holds⟩

/-! ## What a silent move shows of the entries -/

structure Quiet (protobuf : Protobuf) (b b' : Book) : Prop where
  keeps : Keeps b b'
  origin : ∀ (i : Address) (later : PendingCall), b'.calls[i]? = some later →
    (encodeRequest protobuf later.request = .ok later.encoded ∧ later.promise = []) ∨
    ∃ call, b.calls[i]? = some call ∧ call.Later later ∧
      ∀ response, .ok response ∈ later.promise → .ok response ∈ call.promise
  queue : b'.queued.Sublist b.queued ∨ b'.queued = b.queued ++ [b.calls.length]
  untouched : b'.closed = false → ∀ (i : Address) (call : PendingCall), b.calls[i]? = some call →
    call.progress ≠ .queued → ∃ later, b'.calls[i]? = some later ∧ later.promise = call.promise

theorem quiet_of_advance {protobuf : Protobuf} {b : Book} (alive : b.closed = false)
    (entry : Address) {progress : Phase} (begun : progress ≠ .queued) :
    Quiet protobuf b (b.advance entry progress) where
  keeps := .advance alive entry begun
  origin i later found := by
    obtain ⟨old, here, rfl⟩ := lookup_modify.mp found
    refine Or.inr ⟨old, here, ?_, fun response member => ?_⟩
    · split
      · exact ⟨rfl, List.prefix_rfl, fun _ => begun⟩
      · exact .refl old
    · split at member
      · exact member
      · exact member
  queue := Or.inl List.filter_sublist
  untouched _ i call found _ := by
    refine ⟨_, lookup_modify.mpr ⟨call, found, rfl⟩, ?_⟩
    split <;> rfl

/-- Moves of the book keep every call and put no request on its way. -/
theorem quiet_of_move {protobuf : Protobuf} {b b' : Book} (moved : Move protobuf b b') :
    Quiet protobuf b b' := by
  have keeps := Keeps.move moved
  cases moved with
  | accept call alive numbered unset fresh room remaining encoded =>
    refine ⟨keeps, ?_, Or.inr rfl, ?_⟩
    · intro i later found
      rcases lookup_append.mp found with old | ⟨-, rfl⟩
      · exact Or.inr ⟨later, old, .refl later, fun response member => member⟩
      · exact Or.inl ⟨encoded, unset⟩
    · exact fun _ i old found _ => ⟨old, lookup_append.mpr (Or.inl found), rfl⟩
  | expire entry call cause alive present held waiting =>
    refine ⟨keeps, ?_, Or.inl List.filter_sublist, ?_⟩
    · intro i later found
      obtain ⟨old, here, rfl⟩ := lookup_modify.mp found
      refine Or.inr ⟨old, here, ?_, fun response member => ?_⟩
      · split
        · exact ⟨rfl, List.prefix_append _ _, fun begun => begun⟩
        · exact .refl old
      · split at member
        · simpa using member
        · exact member
    · intro _ i other found begun
      refine ⟨_, lookup_modify.mpr ⟨other, found, rfl⟩, ?_⟩
      rw [if_neg]
      intro same
      subst same
      cases Option.some.inj (found.symm.trans present)
      exact begun waiting
  | sent entry call alive present begun => exact quiet_of_advance alive entry (by decide)
  | fail cause alive =>
    refine ⟨keeps, ?_, Or.inl (List.nil_sublist _), nofun⟩
    intro i later found
    obtain ⟨old, here, rfl⟩ :=
      (lookup_settle (fun id => .error (cause id)) b.pending.entries).mp found
    refine Or.inr ⟨old, here, ⟨rfl, List.prefix_append _ _, fun begun => begun⟩, ?_⟩
    intro response member
    simpa using member

/-! ## Steps of the flow -/

section
variable {protobuf : Protobuf} {b b' : Book} {log : List Execution} {replies requests : List Bytes}
  {executed answering waiting : List Address}

/-- What was logged for a call stays logged for it. -/
theorem Logged.later (keeps : Keeps b b') {entry : Address} {execution : Execution}
    (logged : Logged b entry execution) : Logged b' entry execution := by
  obtain ⟨call, found, same⟩ := logged
  obtain ⟨later, present, relation⟩ := keeps.calls entry call found
  exact ⟨later, present, by rw [relation.request, same]⟩

theorem Requested.later (keeps : Keeps b b') {entry : Address} {payload : Bytes}
    (requested : Requested b entry payload) : Requested b' entry payload := by
  obtain ⟨call, found, same⟩ := requested
  obtain ⟨later, present, relation⟩ := keeps.calls entry call found
  exact ⟨later, present, by rw [relation.encoded, same]⟩

theorem Genuine.later {call later : PendingCall} {response : Response}
    (genuine : Genuine log call response) (relation : call.Later later) :
    Genuine log later response := by
  obtain ⟨execution, listed, same, equal⟩ := genuine
  exact ⟨execution, listed, by rw [relation.request, same], by rw [relation.request, equal]⟩

theorem Replied.later (keeps : Keeps b b') {entry : Address} {payload : Bytes}
    (replied : Replied protobuf b log entry payload) : Replied protobuf b' log entry payload := by
  obtain ⟨call, execution, found, member, same, decoded⟩ := replied
  obtain ⟨later, present, relation⟩ := keeps.calls entry call found
  exact ⟨later, execution, present, member, by rw [relation.request, same],
    by rw [relation.request, decoded]⟩

namespace Flow

/-- Lost payloads take nothing with them but themselves. -/
theorem lose (flow : Flow protobuf b log replies requests executed answering waiting)
    {replies' requests' : List Bytes} (fewerReplies : replies'.Sublist replies)
    (fewerRequests : requests'.Sublist requests) :
    ∃ answering' waiting', Flow protobuf b log replies' requests' executed answering' waiting' := by
  obtain ⟨answering', unread, replied⟩ := forall₂_sublist flow.replied fewerReplies
  obtain ⟨waiting', fewer, requested⟩ := forall₂_sublist flow.requested fewerRequests
  have among : (executed ++ waiting').Sublist (executed ++ waiting) := fewer.append_left _
  refine ⟨answering', waiting', { flow with
    unread := unread.trans flow.unread
    replied, requested
    line := flow.line.sublist (among.append_right _)
    begun := fun entry member => flow.begun entry (among.subset member)
    unresolved := fun alive entry member =>
      flow.unresolved alive entry ((unread.append fewer).subset member) }⟩

/-- Every address of the line is that of an entry. -/
theorem inside (flow : Flow protobuf b log replies requests executed answering waiting)
    (ledger : Ledger b) {entry : Address} (member : entry ∈ executed ++ waiting ++ b.queued) :
    entry < b.calls.length := by
  rcases List.mem_append.mp member with begun | queued
  · obtain ⟨call, found, -⟩ := flow.begun entry begun
    exact lookup_lt found
  · obtain ⟨call, found, -⟩ := (ledger.queue entry).mp queued
    exact lookup_lt found

theorem among (flow : Flow protobuf b log replies requests executed answering waiting)
    {entry : Address} (member : entry ∈ answering ++ waiting) : entry ∈ executed ++ waiting :=
  (flow.unread.append_right waiting).subset member

/-- The ledger moves on while the messages stay where they are. -/
theorem keep (flow : Flow protobuf b log replies requests executed answering waiting)
    (keeps : Keeps b b')
    (origin : ∀ (i : Address) (later : PendingCall), b'.calls[i]? = some later →
      encodeRequest protobuf later.request = .ok later.encoded ∧
        ∀ response, .ok response ∈ later.promise → Genuine log later response)
    (line : (executed ++ waiting ++ b'.queued).Pairwise (· < ·))
    (unresolved : b'.closed = false → ∀ entry ∈ answering ++ waiting,
      ∃ call, b'.calls[entry]? = some call ∧ call.promise = []) :
    Flow protobuf b' log replies requests executed answering waiting where
  encoded i later found := (origin i later found).1
  logged := flow.logged.imp fun _ _ logged => logged.later keeps
  unread := flow.unread
  replied := flow.replied.imp fun _ _ replied => replied.later keeps
  requested := flow.requested.imp fun _ _ requested => requested.later keeps
  line := line
  begun entry member := by
    obtain ⟨call, found, begun⟩ := flow.begun entry member
    obtain ⟨later, present, relation⟩ := keeps.calls entry call found
    exact ⟨later, present, relation.begun begun⟩
  unresolved := unresolved
  genuine i later response found := (origin i later found).2 response
  matched := flow.matched

/-- A quiet change of the book leaves the flow of requests and replies as it is. -/
theorem quiet (flow : Flow protobuf b log replies requests executed answering waiting)
    (ledger : Ledger b) (quiet : Quiet protobuf b b') :
    Flow protobuf b' log replies requests executed answering waiting := by
  refine flow.keep quiet.keeps ?_ ?_ ?_
  · intro i later found
    rcases quiet.origin i later found with ⟨encoded, unset⟩ | ⟨call, before, relation, origin⟩
    · exact ⟨encoded, fun response member => by simp [unset] at member⟩
    · rw [relation.request, relation.encoded]
      refine ⟨flow.encoded i call before, fun response member => ?_⟩
      exact (flow.genuine i call response before (origin response member)).later relation
  · rcases quiet.queue with fewer | longer
    · exact flow.line.sublist (fewer.append_left _)
    · rw [longer, ← List.append_assoc]
      refine List.pairwise_append.mpr ⟨flow.line, List.pairwise_singleton _ _, ?_⟩
      intro entry member last equal
      rw [List.mem_singleton.mp equal]
      exact flow.inside ledger member
  · intro alive entry member
    have still : b.closed = false := by
      cases ended : b.closed with
      | false => rfl
      | true =>
        rw [quiet.keeps.closed ended, ended] at alive
        cases alive
    obtain ⟨call, found, begun⟩ := flow.begun entry (flow.among member)
    obtain ⟨same, here, unset⟩ := flow.unresolved still entry member
    cases Option.some.inj (here.symm.trans found)
    obtain ⟨later, present, promise⟩ := quiet.untouched alive entry call found begun
    exact ⟨later, present, by rw [promise, unset]⟩

theorem moves (flow : Flow protobuf b log replies requests executed answering waiting)
    (ledger : Ledger b) (moved : Moves protobuf b b') :
    Flow protobuf b' log replies requests executed answering waiting := by
  induction moved with
  | refl => exact flow
  | tail front last ih => exact ih.quiet (ledger.moves front) (quiet_of_move last)

/-- The front of the queue joins the requests on their way. -/
theorem hand (flow : Flow protobuf b log replies requests executed answering waiting)
    (ledger : Ledger b) {entry : Address} {rest : List Address} {call : PendingCall}
    (alive : b.closed = false) (front : b.queued = entry :: rest)
    (found : b.calls[entry]? = some call) :
    Flow protobuf (b.advance entry .writing) log replies (requests ++ [call.encoded]) executed
      answering (waiting ++ [entry]) := by
  have after := flow.quiet ledger (quiet_of_advance alive entry (by decide : Phase.writing ≠ .queued))
  have present : (b.advance entry .writing).calls[entry]? = some { call with progress := .writing } :=
    lookup_modify.mpr ⟨call, found, by rw [if_pos rfl]⟩
  have unset : call.promise = [] := by
    obtain ⟨same, here, held, -⟩ := (ledger.queue entry).mp (by simp [front])
    cases Option.some.inj (here.symm.trans found)
    exact (ledger.unset entry call found).mpr held
  refine { after with requested := ?_, line := ?_, begun := ?_, unresolved := ?_ }
  · exact List.rel_append after.requested (.cons ⟨_, present, rfl⟩ .nil)
  · have line := flow.line
    rw [front] at line
    have fewer : (b.advance entry .writing).queued.Sublist rest := by
      change (b.queued.filter _).Sublist rest
      rw [front, List.filter_cons_of_neg (by simp)]
      exact List.filter_sublist
    refine line.sublist ?_
    rw [← List.append_assoc, List.append_assoc (executed ++ waiting)]
    exact (fewer.cons_cons entry).append_left _
  · intro other member
    rw [← List.append_assoc] at member
    rcases List.mem_append.mp member with earlier | last
    · exact after.begun other earlier
    · rw [List.mem_singleton.mp last]
      exact ⟨_, present, by simp⟩
  · intro open_ other member
    rw [← List.append_assoc] at member
    rcases List.mem_append.mp member with earlier | last
    · exact after.unresolved open_ other earlier
    · rw [List.mem_singleton.mp last]
      exact ⟨_, present, unset⟩

/-- The oldest reply resolves the entry it belongs to. -/
theorem answer {payload : Bytes}
    (flow : Flow protobuf b log (payload :: replies) requests executed answering waiting)
    (ledger : Ledger b) {entry : Address} {call : PendingCall} {response : Response}
    (alive : b.closed = false) (found : b.calls[entry]? = some call)
    (same : response.id = call.request.id)
    (decoded : decodeResponse protobuf payload = .ok response) :
    ∃ answering', Flow protobuf (b.resolve entry call.request.id (.ok response)) log replies requests
      executed answering' waiting := by
  obtain ⟨encoded, logged, unread, replied, requested, line, begun, unresolved, genuine, matched⟩ := flow
  cases replied with
  | @cons oldest _ answering' _ first later =>
    obtain ⟨asked, execution, here, listed, request, reply⟩ := first
    cases Except.ok.inj (decoded.symm.trans reply)
    have this : entry = oldest := ledger.unique found here same.symm
    subst this
    cases Option.some.inj (here.symm.trans found)
    have distinct : (entry :: answering' ++ waiting).Nodup :=
      ((line.sublist (List.sublist_append_left _ _)).imp fun less => Nat.ne_of_lt less).sublist
        (unread.append_right waiting)
    have rest : Flow protobuf b log replies requests executed answering' waiting :=
      { encoded, logged, replied := later, requested, line, begun, genuine, matched
        unread := (List.sublist_cons_self _ _).trans unread
        unresolved := fun open_ other member =>
          unresolved open_ other (List.mem_cons_of_mem _ member) }
    refine ⟨answering', rest.keep (.resolve alive entry _ _) ?_ ?_ ?_⟩
    · intro i after present
      obtain ⟨old, before, rfl⟩ := lookup_modify.mp present
      by_cases this : i = entry
      · subst this
        cases Option.some.inj (before.symm.trans found)
        rw [if_pos rfl]
        refine ⟨encoded i call before, fun other member => ?_⟩
        rcases List.mem_append.mp member with earlier | new
        · exact genuine i call other before earlier
        · cases List.mem_singleton.mp new
          exact ⟨execution, listed, request, rfl⟩
      · rw [if_neg this]
        exact ⟨encoded i old before, fun other => genuine i old other before⟩
    · exact line.sublist (List.filter_sublist.append_left _)
    · intro _ other member
      obtain ⟨old, before, unset⟩ := rest.unresolved alive other member
      have apart : other ≠ entry := fun equal => (List.nodup_cons.mp distinct).1 (equal ▸ member)
      exact ⟨old, lookup_modify.mpr ⟨old, before, by rw [if_neg apart]⟩, unset⟩

/-- A section of the client, seen with what the channels hold after it. -/
theorem turn (flow : Flow protobuf b log replies requests executed answering waiting)
    (ledger : Ledger b) {handed : List Handed} {reply : Option Response}
    (turned : Turn protobuf b handed reply b') {replies' requests' : List Bytes}
    (silent : reply = none → replies'.Sublist replies)
    (spoken : ∀ response, reply = some response → ∃ payload, replies = payload :: replies' ∧
      decodeResponse protobuf payload = .ok response)
    (sent : requests'.Sublist (requests ++ handed.map (·.payload))) :
    ∃ answering' waiting', Flow protobuf b' log replies' requests' executed answering' waiting' := by
  cases turned with
  | silent _ moved =>
    rw [List.map_nil, List.append_nil] at sent
    exact (flow.moves ledger moved).lose (silent rfl) sent
  | hand entry rest call alive front found =>
    exact (flow.hand ledger alive front found).lose (silent rfl) sent
  | answer entry call response alive found held begun same matched =>
    obtain ⟨payload, oldest, decoded⟩ := spoken response rfl
    subst oldest
    rw [List.map_nil, List.append_nil] at sent
    obtain ⟨answering', after⟩ := flow.answer ledger alive found same decoded
    exact after.lose (List.Sublist.refl _) sent

/-- The oldest request decodes to the request of its call. -/
theorem decodes {payload : Bytes}
    (flow : Flow protobuf b log replies (payload :: requests) executed answering waiting)
    (conforms : protobuf.Conforms) : ∃ request, decodeRequest protobuf payload = .ok request := by
  obtain ⟨entry, -, call, found, rfl⟩ := forall₂_right flow.requested List.mem_cons_self
  exact ⟨call.request, decodeRequest_encode conforms (flow.encoded entry call found)⟩

/-- The server executes the oldest request and replies with its outcome. -/
theorem execute {payload reply : Bytes} (execution : Execution)
    (flow : Flow protobuf b log replies (payload :: requests) executed answering waiting)
    (conforms : protobuf.Conforms)
    (decoded : decodeRequest protobuf payload = .ok execution.request)
    (encoded : encodeResponse protobuf ⟨execution.request.id, execution.outcome, version⟩ = .ok reply)
    (matched : matchesOutcome execution.request.body execution.outcome = true) :
    ∃ entry waiting', Flow protobuf b (log ++ [execution]) (replies ++ [reply]) requests
      (executed ++ [entry]) (answering ++ [entry]) waiting' := by
  obtain ⟨sent, logged, unread, replied, requested, line, begun, unresolved, genuine, earlier⟩ := flow
  cases requested with
  | @cons entry _ waiting' _ first later =>
    obtain ⟨call, found, carries⟩ := first
    have request : call.request = execution.request := by
      have own := decodeRequest_encode conforms (sent entry call found)
      rw [carries, decoded] at own
      exact (Except.ok.inj own).symm
    have more : ∀ {other : Execution}, other ∈ log → other ∈ log ++ [execution] :=
      fun member => List.mem_append_left _ member
    refine ⟨entry, waiting', {
      encoded := sent
      logged := List.rel_append logged (.cons ⟨call, found, request⟩ .nil)
      unread := unread.append_right [entry]
      replied := List.rel_append (replied.imp ?_) (.cons ?_ .nil)
      requested := later
      line := by simpa using line
      begun := fun other member => begun other (by simpa using member)
      unresolved := fun open_ other member => unresolved open_ other (by simpa using member)
      genuine := ?_
      matched := ?_ }⟩
    · rintro other bytes ⟨asked, prior, here, listed, same, reads⟩
      exact ⟨asked, prior, here, more listed, same, reads⟩
    · refine ⟨call, execution, found, List.mem_append_right _ (List.mem_singleton_self _),
        request.symm, ?_⟩
      rw [request]
      exact decodeResponse_encode conforms encoded
    · intro i old response before member
      obtain ⟨prior, listed, same, equal⟩ := genuine i old response before member
      exact ⟨prior, more listed, same, equal⟩
    · intro other member
      rcases List.mem_append.mp member with prior | new
      · exact earlier other prior
      · rw [List.mem_singleton.mp new]
        exact matched

/-- The reader expects the oldest reply. -/
theorem accepts {payload : Bytes}
    (flow : Flow protobuf b log (payload :: replies) requests executed answering waiting)
    (ledger : Ledger b) (alive : b.closed = false) :
    ∃ response entry call, decodeResponse protobuf payload = .ok response ∧
      b.pending.find response.id = some entry ∧ b.calls[entry]? = some call ∧
      call.progress ≠ .queued ∧ matchesOutcome call.request.body response.body = true := by
  obtain ⟨sent, logged, unread, replied, requested, line, begun, unresolved, genuine, matched⟩ := flow
  cases replied with
  | @cons entry _ answering' _ first later =>
    obtain ⟨call, execution, found, listed, request, decoded⟩ := first
    obtain ⟨same, here, started⟩ :=
      begun entry (List.mem_append_left _ (unread.subset List.mem_cons_self))
    cases Option.some.inj (here.symm.trans found)
    obtain ⟨also, there, unset⟩ := unresolved alive entry List.mem_cons_self
    cases Option.some.inj (there.symm.trans found)
    refine ⟨_, entry, call, decoded, (ledger.unset entry call found).mp unset, found, started, ?_⟩
    rw [← request]
    exact matched execution listed

/-- Executions follow the order of the identifiers. -/
theorem increasing (flow : Flow protobuf b log replies requests executed answering waiting)
    (ledger : Ledger b) : log.Pairwise fun a b => a.request.id < b.request.id := by
  have ordered : executed.Pairwise (· < ·) :=
    flow.line.sublist ((List.sublist_append_left _ _).trans (List.sublist_append_left _ _))
  have logged := flow.logged
  clear flow
  induction logged with
  | nil => exact .nil
  | cons first rest ih =>
    obtain ⟨above, tail⟩ := List.pairwise_cons.mp ordered
    refine List.pairwise_cons.mpr ⟨fun execution member => ?_, ih tail⟩
    obtain ⟨call, found, same⟩ := first
    obtain ⟨entry, listed, other, there, also⟩ := forall₂_right rest member
    rw [← same, ← also]
    exact ledger.order _ entry call other found there (above entry listed)

end Flow

end

end PipeForge.EndToEnd
