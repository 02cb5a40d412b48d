import PipeForge.Client.Sending
import PipeForge.EndToEnd.Agreement
import PipeForge.EndToEnd.Carriage
import PipeForge.Library.Simulation

/-!
# The pipe implements the payload channels

Every run of the client and the server over the bytes of a pipe is a run of the two
over payload channels: the same executions in the same order, the same server and
store, the same client. What one side writes and how the kernel cuts it is not visible
above the streams, except in one place: a pipe that ends inside a frame is reported to
the reader as a protocol violation, where a channel of whole payloads only disconnects.
The client then fails its pending calls with another cause, and with that it is closed;
`Same` leaves exactly this open.

Agreement of client and server, proved for payload channels, follows for the bytes.
-/

namespace PipeForge.EndToEnd
open Contracts Library Protocol Domain Server Client Transport

/-! ## The client, up to the causes of failed calls -/

/-- The same call, which may have failed for another cause. -/
structure Recast (call call' : PendingCall) : Prop where
  rest : call' = { call with promise := call'.promise }
  settled : call'.promise.length = call.promise.length
  answered : ∀ response, .ok response ∈ call.promise ↔ .ok response ∈ call'.promise

structure Same (c c' : ConnectionState) : Prop where
  calls : List.Forall₂ Recast c.calls c'.calls
  rest : c' = { c with calls := c'.calls }
  alive : c.closed = false → c' = c

/-- A call is itself in both systems, apart from the failure it may carry. -/
theorem Recast.refl (call : PendingCall) : Recast call call := ⟨rfl, rfl, fun _ => .rfl⟩

/-- Both calls fail, each for its own cause. -/
theorem Recast.fail {call call' : PendingCall} (recast : Recast call call')
    (failure failure' : Client.Failure) :
    Recast { call with promise := call.promise ++ [.error failure] }
      { call' with promise := call'.promise ++ [.error failure'] } where
  rest := by rw [recast.rest]
  settled := by simp [recast.settled]
  answered response := by simpa using recast.answered response

theorem forall₂_modify {R : PendingCall → PendingCall → Prop} {calls calls' : List PendingCall}
    (all : List.Forall₂ R calls calls') {f g : PendingCall → PendingCall}
    (both : ∀ call call', R call call' → R (f call) (g call')) (i : Nat) :
    List.Forall₂ R (calls.modify i f) (calls'.modify i g) := by
  induction all generalizing i with
  | nil => simp
  | cons head _ ih =>
    cases i with
    | zero => simpa using ⟨both _ _ head, ‹_›⟩
    | succ i => simpa using ⟨head, ih i⟩

/-- Failing the same entries for different causes keeps the books alike. -/
theorem settle_recast {calls calls' : List PendingCall} (all : List.Forall₂ Recast calls calls')
    (cause cause' : UInt64 → Client.Failure) (entries : List (UInt64 × Address)) :
    List.Forall₂ Recast (settle (fun id => .error (cause id)) entries calls)
      (settle (fun id => .error (cause' id)) entries calls') := by
  induction entries generalizing calls calls' with
  | nil => exact all
  | cons entry rest ih =>
    apply ih
    exact forall₂_modify all (fun call call' recast => recast.fail _ _) _

namespace Same
variable {protobuf : Protobuf} {c c' : ConnectionState}

theorem refl (c : ConnectionState) : Same c c :=
  ⟨List.forall₂_same.mpr fun call _ => .refl call, rfl, fun _ => rfl⟩

/-- The client goes on alike: once its calls may differ it looks at none of them. -/
theorem step (protobuf : Protobuf) (same : Same c c') (invariant : Invariant c)
    (action : Client.Action) :
    Same (c.step protobuf action).1 (c'.step protobuf action).1 ∧
      (c'.step protobuf action).2 = (c.step protobuf action).2 := by
  cases closed : c.closed with
  | false =>
    rw [same.alive closed]
    exact ⟨.refl _, rfl⟩
  | true =>
    obtain ⟨there, here⟩ := ConnectionState.step_closed protobuf closed c'.calls action
    have since := ConnectionState.step_since protobuf invariant action
    rw [same.rest, there]
    refine ⟨⟨?_, rfl, fun alive => ?_⟩, here.symm⟩
    · have kept := congrArg Book.calls (since.keeps.closed closed)
      change (c.step protobuf action).1.calls = c.calls at kept
      rw [kept]
      exact same.calls
    · cases alive.symm.trans (since.later.closed closed).1

/-- Two failed receives close the client alike. -/
theorem received (protobuf : Protobuf) (same : Same c c') (invariant : Invariant c)
    (threads : Threads c) (error error' : Transport.Failure) :
    Same (c.received protobuf (.error error)) (c'.received protobuf (.error error')) := by
  cases closed : c.closed with
  | false =>
    rw [same.alive closed]
    unfold ConnectionState.received
    split
    · rename_i receiving
      -- The opening promise has been set, so its value shows no cause either.
      obtain ⟨-, opened, -⟩ := threads.behind (threads.linked (Or.inr (by rw [receiving]; rfl)))
      simp only [closed, Bool.false_eq_true, if_false, ConnectionState.failAll,
        ConnectionState.failLocked, opened, Bool.not_true, Bool.and_false]
      refine ⟨?_, rfl, fun alive => by cases alive⟩
      exact settle_recast (List.forall₂_same.mpr fun call _ => .refl call)
        (fun id => if id = 0 then {} else translate error)
        (fun id => if id = 0 then {} else translate error') c.pending.entries
    · exact .refl c
  | true =>
    have other : c'.received protobuf (.error error') = c'.received protobuf (.error error) := by
      have closed' : c'.closed = true := by
        rw [same.rest]
        exact closed
      unfold ConnectionState.received
      rw [closed']
      rfl
    rw [other]
    exact (same.step protobuf invariant (.received (.error error))).1

end Same

/-! ## When the callers are inside the channel -/

section
variable {protobuf : Protobuf} {c t : ConnectionState}

theorem clientSends_sending {entry : Address} {call : PendingCall} (sending : c.writer = .sending entry)
    (found : c.calls[entry]? = some call) : clientSends c = some call.encoded := by
  simp only [clientSends, sending, found, Option.map_some]

theorem clientSends_elsewhere (elsewhere : ∀ entry, c.writer ≠ .sending entry) :
    clientSends c = none := by
  unfold clientSends
  split
  · rename_i entry sending
    exact absurd sending (elsewhere entry)
  · rfl

/-- Inside `send` the payload stays the same. -/
theorem clientSends_kept (busy : c.Busy) (keeps : Keeps c.book t.book) (same : t.writer = c.writer) :
    clientSends t = clientSends c := by
  by_cases inside : ∃ entry, c.writer = .sending entry
  · obtain ⟨entry, sending⟩ := inside
    obtain ⟨call, found, -⟩ := busy entry sending
    obtain ⟨later, present, relation⟩ := keeps.calls entry call found
    rw [clientSends_sending sending found, clientSends_sending (same.trans sending) present,
      relation.encoded]
  · have elsewhere : ∀ entry, c.writer ≠ .sending entry := fun entry sending =>
      inside ⟨entry, sending⟩
    rw [clientSends_elsewhere elsewhere, clientSends_elsewhere (same ▸ elsewhere)]

/-- A section that does not handle a result leaves `send` alone or enters it. -/
theorem step_clientSends (invariant : Invariant c) (threads : Threads c) {action : Client.Action}
    (notSent : ∀ result, action ≠ .sendReturned result) :
    ((c.step protobuf action).2 = [] ∧
        clientSends (c.step protobuf action).1 = clientSends c) ∨
      ∃ one, (c.step protobuf action).2 = [one] ∧ clientSends c = none ∧
        clientSends (c.step protobuf action).1 = some one.payload := by
  have since := ConnectionState.step_since protobuf invariant action
  obtain ⟨reply, turned, -⟩ :=
    ConnectionState.step_turn protobuf invariant.ledger invariant.busy action
  rcases turned_cases turned with none | ⟨entry, rest, call, handed, -, found, -⟩
  · refine Or.inl ⟨none, ?_⟩
    by_cases inside : ∃ entry, c.writer = .sending entry
    · obtain ⟨entry, sending⟩ := inside
      apply clientSends_kept invariant.busy since.keeps
      by_cases taken : action = .takeQueued
      · subst taken
        change c.takeQueued.1.writer = _
        rw [ConnectionState.takeQueued_elsewhere (by simp [sending])]
      · rcases ConnectionState.step_writer action notSent taken with same | awaiting | ⟨fresh, -⟩
        · exact same
        · rw [sending] at awaiting
          cases awaiting
        · have started := threads.started (Or.inl (by rw [sending]; exact nofun))
          cases fresh.symm.trans started
    · have before : ∀ entry, c.writer ≠ .sending entry := fun entry sending =>
        inside ⟨entry, sending⟩
      rw [clientSends_elsewhere before]
      apply clientSends_elsewhere
      intro entry sending
      rcases (ConnectionState.step_flags protobuf action).2 entry sending with also | ⟨_, handed⟩
      · exact before entry also
      · rw [none] at handed
        cases handed
  · right
    obtain ⟨waiting, sending⟩ := ConnectionState.step_hands handed
    refine ⟨⟨entry, call.encoded⟩, handed, clientSends_elsewhere (by simp [waiting]), ?_⟩
    obtain ⟨later, present, relation⟩ := since.keeps.calls entry call found
    rw [clientSends_sending sending present, relation.encoded]

/-- Only the section that handles a payload leaves `receive`. -/
theorem step_clientReceives (protobuf : Protobuf) (threads : Threads c) {action : Client.Action}
    (notReceived : ∀ result, action ≠ .received result) (inside : clientReceives c = true) :
    clientReceives (c.step protobuf action).1 = true := by
  have receiving : c.reader = .receiving := of_decide_eq_true inside
  have started := threads.started (Or.inr (Or.inl (by rw [receiving]; exact nofun)))
  have same : (c.step protobuf action).1.reader = c.reader := by
    by_cases own : action.worker = some .reader
    · cases action with
      | readerConnected => simp [ConnectionState.step, ConnectionState.readerConnected, receiving]
      | readerLoop => simp [ConnectionState.step, ConnectionState.readerLoop, receiving]
      | received result => exact absurd rfl (notReceived result)
      | _ => cases own
    · exact ConnectionState.step_reader_frame started own
  rw [clientReceives, same]
  exact inside

/-- After its result the writer is inside no send. -/
theorem sendReturned_leaves (invariant : Invariant c) (result : Transport.Result Nat) :
    clientSends (c.sendReturned result) = none := by
  apply clientSends_elsewhere
  intro entry sending
  have before := ConnectionState.sendReturned_sending sending
  obtain ⟨call, found, -⟩ := invariant.busy entry before
  unfold ConnectionState.sendReturned at sending
  simp only [before, found] at sending
  repeat' split at sending
  all_goals cases sending

/-- After its result the reader is inside no receive. -/
theorem received_leaves (invariant : Invariant c) (result : Transport.Result Bytes) :
    clientReceives (c.received protobuf result) = false := by
  apply decide_eq_false
  intro receiving
  unfold ConnectionState.received at receiving
  split at receiving
  · split at receiving
    · cases receiving
    · split at receiving
      · cases receiving
      · split at receiving
        · cases receiving
        · split at receiving
          · cases receiving
          · rename_i entry held
            obtain ⟨call, found, -⟩ := invariant.ledger.keyed _ entry held
            change c.calls[entry]? = some call at found
            simp only [found] at receiving
            repeat' split at receiving
            all_goals cases receiving
  · contradiction

end

/-! ## The simulation -/

/-- The state over payload channels that a state over bytes stands for. -/
structure Refines (w : Wire) (s : System) : Prop where
  client : Same w.client s.client
  invariant : Invariant w.client
  threads : Threads w.client
  server : s.server = w.server
  session : s.session = w.session
  others : s.others = w.others
  requests : ∃ taken part, Carries w.near w.far w.toServer (clientSends w.client)
    (serverReceives w.session) s.toServer taken part
  replies : ∃ taken part, Carries w.far w.near w.toClient (serverSends w.session)
    (clientReceives w.client) s.toClient taken part

namespace Refines
variable {protobuf : Protobuf} {registry : ClassRegistry} {w : Wire} {s : System}

theorem start (opener : Bool) (limits : SessionLimits) (first : UInt64) :
    Refines (.start opener limits first) (.start opener limits first) where
  client := .refl _
  invariant := ConnectionState.initial_invariant opener
  threads := .initial opener
  server := rfl
  session := rfl
  others := rfl
  requests := ⟨[], [], .initial⟩
  replies := ⟨[], [], .initial⟩

/-- Sections of the server that neither enter nor leave a call. -/
theorem serve (refines : Refines w s) (server : ServerState) (session : Session)
    (sends : serverSends session = serverSends w.session)
    (receives : serverReceives session = serverReceives w.session) :
    Refines { w with server, session } { s with server, session } where
  client := refines.client
  invariant := refines.invariant
  threads := refines.threads
  server := rfl
  session := rfl
  others := refines.others
  requests := by
    change ∃ taken part, Carries w.near w.far w.toServer _ (serverReceives session) _ taken part
    rw [receives]
    exact refines.requests
  replies := by
    change ∃ taken part, Carries w.far w.near w.toClient (serverSends session) _ _ taken part
    rw [sends]
    exact refines.replies

/-- A section of the client that handles no result. -/
theorem clientStep (protobuf : Protobuf) (refines : Refines w s) {action : Client.Action}
    (notSent : ∀ result, action ≠ .sendReturned result)
    (notReceived : ∀ result, action ≠ .received result) :
    Refines { w with client := (w.client.step protobuf action).1 } (s.stepClient protobuf action) := by
  obtain ⟨same, handed⟩ := refines.client.step protobuf refines.invariant action
  have permitted : s.permits action = true := by
    cases action with
    | sendReturned result => exact absurd rfl (notSent result)
    | received result => exact absurd rfl (notReceived result)
    | _ => rfl
  have replies : s.replyChannel action = s.toClient := by
    cases action with
    | received result => exact absurd rfl (notReceived result)
    | _ => rfl
  have requests : s.requestChannel action [] = s.toServer ∧
      ∀ one, s.requestChannel action [one] = s.toServer.send one.payload := by
    cases action with
    | sendReturned result => exact absurd rfl (notSent result)
    | _ => exact ⟨rfl, fun _ => rfl⟩
  simp only [System.stepClient, permitted, if_true, handed]
  refine {
    client := same
    invariant := (ConnectionState.step_since protobuf refines.invariant action).invariant
    threads := refines.threads.step action
    server := refines.server
    session := refines.session
    others := refines.others
    requests := ?_
    replies := ?_ }
  · obtain ⟨taken, part, carries⟩ := refines.requests
    rcases step_clientSends refines.invariant refines.threads notSent with
      ⟨none, sends⟩ | ⟨one, some, outside, inside⟩
    · rw [none, requests.1]
      exact ⟨taken, part, sends ▸ carries⟩
    · rw [outside] at carries
      rw [some, requests.2]
      exact ⟨taken, part, inside ▸ carries.call one.payload⟩
  · obtain ⟨taken, part, carries⟩ := refines.replies
    rw [replies]
    cases inside : clientReceives w.client with
    | true =>
      have still := step_clientReceives protobuf refines.threads notReceived inside
      exact ⟨taken, part, (inside.trans still.symm) ▸ carries⟩
    | false =>
      rw [inside] at carries
      cases next : clientReceives (w.client.step protobuf action).1 with
      | true => exact ⟨taken, part, next ▸ carries.ask⟩
      | false => exact ⟨taken, part, next ▸ carries⟩

/-- The client leaves `send`. A send succeeds only when its frame is whole. -/
theorem clientSent (refines : Refines w s) :
    Transition.Matched (System.step protobuf registry) Refines s (w.stepClientSent, []) := by
  obtain ⟨taken, part, carries⟩ := refines.requests
  unfold Wire.stepClientSent
  cases arrived : w.near.sent with
  | none => exact .silent refines
  | some result =>
    have collected := carries.collect (by rw [arrived]; rfl)
    have permitted : s.permits (.sendReturned result) = true := by
      cases result with
      | error error => rfl
      | ok count =>
        simp [System.permits, carries.arrived count arrived]
    obtain ⟨same, -⟩ := refines.client.step protobuf refines.invariant (.sendReturned result)
    have since := ConnectionState.step_since protobuf refines.invariant (.sendReturned result)
    apply Transition.Matched.single (.client (.sendReturned result))
    · simp only [System.step, System.stepClient, permitted, if_true]
      refine {
        client := same
        invariant := since.invariant
        threads := refines.threads.sendReturned result
        server := refines.server
        session := refines.session
        others := refines.others
        requests := ⟨taken, part, ?_⟩
        replies := ?_ }
      · rw [sendReturned_leaves refines.invariant result]
        exact collected
      · obtain ⟨taken, part, replies⟩ := refines.replies
        have reader : clientReceives (w.client.sendReturned result) = clientReceives w.client := by
          rw [clientReceives, clientReceives, (Frame.sent _).reader fun own => by cases own]
        rw [reader]
        exact ⟨taken, part, replies.otherResult _ none⟩
    · rfl

/-- The client leaves `receive`. A failure becomes one that a channel of whole payloads
can report. -/
theorem clientReceived (refines : Refines w s) :
    Transition.Matched (System.step protobuf registry) Refines s (w.stepClientReceived protobuf, []) := by
  obtain ⟨taken, part, carries⟩ := refines.replies
  unfold Wire.stepClientReceived
  cases arrived : w.near.received with
  | none => exact .silent refines
  | some result =>
    have inside : clientReceives w.client = true := by
      by_contra outside
      have none := (carries.unasked (Bool.eq_false_iff.mpr outside)).1
      cases arrived.symm.trans none
    have receiving : w.client.reader = .receiving := of_decide_eq_true inside
    have since := ConnectionState.step_since protobuf refines.invariant (.received result)
    -- What holds of the client afterwards, whatever the channel reports in its place.
    have left : ∀ t : System, Same (w.client.received protobuf result) t.client →
        t.server = s.server → t.session = s.session → t.others = s.others →
        t.toServer = s.toServer →
        (∃ taken part, Carries w.far { w.near with received := none } w.toClient
          (serverSends w.session) false t.toClient taken part) →
        Refines { w with
          client := w.client.received protobuf result
          near := { w.near with received := none } } t := by
      intro t same server session others requests replies
      refine {
        client := same
        invariant := since.invariant
        threads := refines.threads.received result
        server := server.trans refines.server
        session := session.trans refines.session
        others := others.trans refines.others
        requests := ?_
        replies := ?_ }
      · obtain ⟨taken, part, unchanged⟩ := refines.requests
        have writer : clientSends (w.client.received protobuf result) = clientSends w.client :=
          clientSends_kept refines.invariant.busy since.keeps (ConnectionState.received_flags result).2
        rw [writer, requests]
        exact ⟨taken, part, unchanged.otherResult none _⟩
      · rw [received_leaves refines.invariant result]
        exact replies
    cases result with
    | ok payload =>
      have oldest := carries.oldest (by rw [End.waiting, arrived])
      have reader : s.client.reader = .receiving := by
        rw [refines.client.rest]
        exact receiving
      have permitted : s.permits (.received (.ok payload)) = true := by
        rw [System.permits, reader, oldest]
        simp
      obtain ⟨same, -⟩ := refines.client.step protobuf refines.invariant (.received (.ok payload))
      apply Transition.Matched.single (.client (.received (.ok payload)))
      · simp only [System.step, System.stepClient, permitted, if_true]
        exact left _ same rfl rfl rfl rfl ⟨_, part, carries.take arrived⟩
      · rfl
    | error error =>
      have permitted : s.permits (.received (.error { error with kind := .disconnected })) = true :=
        rfl
      have same := refines.client.received protobuf refines.invariant refines.threads error
        { error with kind := .disconnected }
      apply Transition.Matched.single
        (.client (.received (.error { error with kind := .disconnected })))
      · simp only [System.step, System.stepClient, permitted, if_true]
        exact left _ same rfl rfl rfl rfl ⟨taken, part, carries.refuse arrived⟩
      · rfl

/-- The client closes its end. -/
theorem hangUp (refines : Refines w s) : Refines w.hangUp s := by
  have listens : Listens w.near.stream (w.near.stream.close, []) := by
    unfold PipeStream.close
    split
    · exact ⟨rfl, rfl, rfl, id⟩
    · exact listens_stay _
  have speaks : Speaks w.near.stream (w.near.stream.close, []) := by
    unfold PipeStream.close
    split
    · exact ⟨rfl, rfl, rfl, rfl⟩
    · exact speaks_stay _
  unfold Wire.hangUp
  split
  · split
    · obtain ⟨taken, part, requests⟩ := refines.requests
      obtain ⟨taken', part', replies⟩ := refines.replies
      exact { refines with
        requests := ⟨taken, part, requests.listened listens⟩
        replies := ⟨taken', part', replies.spoken (PipeStream.close_effect _) speaks⟩ }
    · exact refines
  · exact refines

/-- Input and output of the client's end are steps of the channels, or none. -/
theorem near (refines : Refines w s) (io : Io) :
    Transition.Matched (System.step protobuf registry) Refines s (w.stepNear io, []) := by
  obtain ⟨taken, part, requests⟩ := refines.requests
  obtain ⟨taken', part', replies⟩ := refines.replies
  have heard := replies.ioReceiver (clientSends w.client) io
  obtain ⟨c, rest, moved, spoken⟩ := requests.ioSender (clientReceives w.client) w.toClient io
  rcases moved with rfl | rfl
  · exact .silent { refines with
      requests := ⟨taken, rest, spoken⟩
      replies := ⟨taken', part', heard⟩ }
  · exact .single .deliverRequest { refines with
      requests := ⟨taken, rest, spoken⟩
      replies := ⟨taken', part', heard⟩ } rfl

theorem far (refines : Refines w s) (io : Io) :
    Transition.Matched (System.step protobuf registry) Refines s (w.stepFar io, []) := by
  obtain ⟨taken, part, requests⟩ := refines.requests
  obtain ⟨taken', part', replies⟩ := refines.replies
  have heard := requests.ioReceiver (serverSends w.session) io
  obtain ⟨c, rest, moved, spoken⟩ := replies.ioSender (serverReceives w.session) w.toServer io
  rcases moved with rfl | rfl
  · exact .silent { refines with
      requests := ⟨taken, part, heard⟩
      replies := ⟨taken', rest, spoken⟩ }
  · exact .single .deliverReply { refines with
      requests := ⟨taken, part, heard⟩
      replies := ⟨taken', rest, spoken⟩ } rfl

theorem serverLoop (refines : Refines w s) :
    Refines { w with session := w.session.loop w.server }
      { s with session := s.session.loop s.server } := by
  rw [refines.session, refines.server]
  cases point : w.session.point with
  | looping =>
    have sends : serverSends w.session = none := by rw [serverSends, point]
    have receives : serverReceives w.session = false := by rw [serverReceives, point]; rfl
    obtain ⟨taken, part, requests⟩ := refines.requests
    obtain ⟨taken', part', replies⟩ := refines.replies
    rw [receives] at requests
    rw [sends] at replies
    simp only [Session.loop, point]
    split
    · exact { refines with
        server := rfl
        session := rfl
        requests := ⟨taken, part, requests⟩
        replies := ⟨taken', part', replies⟩ }
    · exact { refines with
        server := rfl
        session := rfl
        requests := ⟨taken, part, requests.ask⟩
        replies := ⟨taken', part', replies⟩ }
  | _ =>
    simp only [Session.loop, point]
    exact { refines with server := rfl, session := rfl }

/-- The server leaves `receive` with a failure or the oldest request. -/
theorem serverReceived (refines : Refines w s) :
    Transition.Matched (System.step protobuf registry) Refines s (w.stepServerReceived, []) := by
  obtain ⟨taken, part, requests⟩ := refines.requests
  obtain ⟨taken', part', replies⟩ := refines.replies
  unfold Wire.stepServerReceived
  cases arrived : w.far.received with
  | none => exact .silent refines
  | some result =>
    have point : w.session.point = .receiving := by
      by_contra outside
      have none := (requests.unasked (decide_eq_false outside)).1
      cases arrived.symm.trans none
    have sends : serverSends w.session = none := by rw [serverSends, point]
    rw [sends] at replies
    cases result with
    | error error =>
      apply Transition.Matched.single (.serverReceive (some error))
      · simp only [System.step, System.stepReceive, refines.session, refines.server, point,
          Session.received]
        exact { refines with
          server := rfl
          session := rfl
          requests := ⟨taken, part, requests.refuse arrived⟩
          replies := ⟨taken', part', replies.otherResult none _⟩ }
      · rfl
    | ok payload =>
      obtain ⟨rest, oldest⟩ : ∃ rest, s.toServer.inFlight = payload :: rest :=
        ⟨_, requests.oldest (by rw [End.waiting, arrived])⟩
      apply Transition.Matched.single (.serverReceive none)
      · simp only [System.step, System.stepReceive, refines.session, refines.server, point, oldest,
          Session.received]
        exact { refines with
          server := rfl
          session := rfl
          requests := ⟨_, part, requests.take arrived⟩
          replies := ⟨taken', part', replies.otherResult none _⟩ }
      · rfl

/-- A request is handled: the server enters `send` with the reply, or leaves its loop. -/
theorem serverHandle (refines : Refines w s) :
    Transition.Matched (System.step protobuf registry) Refines s
      (w.step protobuf registry .serverHandle) := by
  obtain ⟨taken', part', replies⟩ := refines.replies
  apply Transition.Matched.single .serverHandle
  · simp only [System.step, System.stepHandle, Wire.step, refines.session, refines.server]
    cases point : w.session.point with
    | dispatching payload =>
      have sends : serverSends w.session = none := by rw [serverSends, point]
      have receives : serverReceives w.session = false := by rw [serverReceives, point]; rfl
      obtain ⟨taken, part, requests⟩ := refines.requests
      rw [receives] at requests
      rw [sends] at replies
      have after : ∀ (server : ServerState) (store : SessionStore) (point : Point)
          (toClient : Channel), point = .closing ∧ toClient = s.toClient ∨
            (∃ encoded, point = .replying encoded ∧ toClient = s.toClient.send encoded) →
          Refines { w with server, session := ⟨point, store⟩ }
            { s with server, session := ⟨point, store⟩, toClient } := by
        rintro server store _ _ (⟨rfl, rfl⟩ | ⟨encoded, rfl, rfl⟩)
        · exact { refines with
            server := rfl
            session := rfl
            requests := ⟨taken, part, requests⟩
            replies := ⟨taken', part', replies⟩ }
        · exact { refines with
            server := rfl
            session := rfl
            requests := ⟨taken, part, requests⟩
            replies := ⟨taken', part', replies.call encoded⟩ }
      simp only [Session.handled, point]
      split
      · exact after _ _ .closing _ (Or.inl ⟨rfl, rfl⟩)
      · exact after _ _ .closing _ (Or.inl ⟨rfl, rfl⟩)
      · exact after _ _ (.replying _) _ (Or.inr ⟨_, rfl, rfl⟩)
    | _ =>
      simp only [Session.handled, point]
      exact { refines with server := rfl, session := rfl }
  · change s.executions protobuf registry = w.executions protobuf registry
    rewrite [System.executions, Wire.executions, refines.session, refines.server]
    rfl

/-- The server leaves `send`. -/
theorem serverSent (refines : Refines w s) :
    Transition.Matched (System.step protobuf registry) Refines s (w.stepServerSent, []) := by
  obtain ⟨taken, part, requests⟩ := refines.requests
  obtain ⟨taken', part', replies⟩ := refines.replies
  unfold Wire.stepServerSent
  cases arrived : w.far.sent with
  | none => exact .silent refines
  | some result =>
    have collected := replies.collect (by rw [arrived]; rfl)
    have inside : ∃ encoded, w.session.point = .replying encoded := by
      by_contra elsewhere
      have outside : serverSends w.session = none := by
        unfold serverSends
        split
        · rename_i encoded point
          exact absurd ⟨encoded, point⟩ elsewhere
        · rfl
      cases arrived.symm.trans (replies.outside outside).1
    obtain ⟨encoded, point⟩ := inside
    have receives : serverReceives w.session = false := by rw [serverReceives, point]; rfl
    rw [receives] at requests
    have allowed : (result.isOk && s.toClient.sending.isSome) = false := by
      cases result with
      | error error => rfl
      | ok count =>
        simp [replies.arrived count arrived]
    apply Transition.Matched.single (.serverSent result)
    · simp only [System.step, System.stepSent, refines.session, refines.server, point, allowed,
        Bool.false_eq_true, if_false, Session.sent]
      cases result with
      | error error =>
        exact { refines with
          server := rfl
          session := rfl
          requests := ⟨taken, part, requests.otherResult _ none⟩
          replies := ⟨taken', part', collected⟩ }
      | ok count =>
        exact { refines with
          server := rfl
          session := rfl
          requests := ⟨taken, part, requests.otherResult _ none⟩
          replies := ⟨taken', part', collected⟩ }
    · rfl

theorem serverRefuse (refines : Refines w s) (failure : Transport.Failure) :
    Refines
      { w with
        server := (w.session.refused w.server failure).1
        session := (w.session.refused w.server failure).2 }
      { s with
        server := (s.session.refused s.server failure).1
        session := (s.session.refused s.server failure).2 } := by
  rw [refines.session, refines.server]
  apply refines.serve
  · cases point : w.session.point <;> simp [Session.refused, serverSends, point]
  · cases point : w.session.point <;> simp [Session.refused, serverReceives, point]

theorem serverFinish (refines : Refines w s) :
    Refines { w with session := w.session.finish } { s with session := s.session.finish } := by
  rw [refines.session]
  have finished := refines.serve w.server w.session.finish
    (by cases point : w.session.point <;> simp [Session.finish, serverSends, point])
    (by cases point : w.session.point <;> simp [Session.finish, serverReceives, point])
  exact { finished with server := refines.server }

/-- Bytes in pipes refine payloads in channels: every step of the wire is matched by steps of the
system. -/
theorem simulates (protobuf : Protobuf) (registry : ClassRegistry) :
    Transition.Simulates (Wire.step protobuf registry) (System.step protobuf registry) Refines := by
  intro w s action refines
  cases action with
  | client action =>
    by_cases sent : ∃ result, action = .sendReturned result
    · obtain ⟨result, rfl⟩ := sent
      exact .silent refines
    · by_cases received : ∃ result, action = .received result
      · obtain ⟨result, rfl⟩ := received
        exact .silent refines
      · have next := refines.clientStep protobuf
          (fun result same => sent ⟨result, same⟩) fun result same => received ⟨result, same⟩
        have same : w.stepClient protobuf action =
            { w with client := (w.client.step protobuf action).1 } := by
          unfold Wire.stepClient
          split
          · exact absurd ⟨_, rfl⟩ sent
          · exact absurd ⟨_, rfl⟩ received
          · rfl
        apply Transition.Matched.single (.client action)
        · change Refines (w.stepClient protobuf action) (s.stepClient protobuf action)
          rw [same]
          exact next
        · rfl
  | clientSent => exact refines.clientSent
  | clientReceived => exact refines.clientReceived
  | clientHangsUp => exact .silent refines.hangUp
  | near io => exact refines.near io
  | far io => exact refines.far io
  | serverLoop => exact .single .serverLoop refines.serverLoop rfl
  | serverReceived => exact refines.serverReceived
  | serverRefuse failure => exact .single (.serverRefuse failure) (refines.serverRefuse failure) rfl
  | serverHandle => exact refines.serverHandle
  | serverSent => exact refines.serverSent
  | serverFinish => exact .single .serverFinish refines.serverFinish rfl
  | serverStop =>
    apply Transition.Matched.single .serverStop
    · simp only [System.step, Wire.step, refines.server]
      exact { refines with server := rfl }
    · rfl
  | other action =>
    apply Transition.Matched.single (.other action)
    · simp only [System.step, Wire.step, refines.server, refines.others]
      exact { refines with server := rfl, others := rfl }
    · rfl

end Refines

/-! ## What is sent can be framed -/

theorem encodeRequest_fits {protobuf : Protobuf} (conforms : protobuf.Conforms) {request : Request}
    {bytes : Bytes} (encoded : encodeRequest protobuf request = .ok bytes) :
    validLength bytes.length := by
  obtain ⟨-, size, bounded⟩ := parse_encodeRequest conforms encoded
  refine ⟨?_, bounded⟩
  rw [size]
  exact request_nonempty _

/-- No payload is refused by the frame it is sent in: a worker replies with what the encoder
accepted, and no `send` has reported a violation. -/
structure Wire.Framed (w : Wire) : Prop where
  reply : ∀ encoded, w.session.point = .replying encoded → validLength encoded.length
  near : ∀ error, w.near.sent = some (.error error) → error.kind ≠ .protocolViolation
  far : ∀ error, w.far.sent = some (.error error) → error.kind ≠ .protocolViolation

section
variable {e : End} {sending : Option Bytes} {receiving : Bool} {inbox : Bytes} {io : Io}

/-- The events of a step of the stream: only the sending thread reports on a `send`. -/
theorem io_reports (fits : ∀ payload, sending = some payload → validLength payload.length)
    {error : Transport.Failure}
    (reported : .sent (.error error) ∈ (e.io sending receiving inbox io).2) :
    error.kind ≠ .protocolViolation := by
  have listening : ∀ done, Listens e.stream done → .sent (.error error) ∉ done.2 := by
    intro done listens member
    cases List.findSome?_eq_none_iff.mp listens.unsent _ member
  cases io with
  | send refusal =>
    simp only [End.io] at reported
    split at reported
    · rename_i payload _
      rcases e.stream.send_reports (fits payload rfl) reported with kind | refused
      · rw [kind]
        decide
      · obtain ⟨native, -, rfl⟩ := Option.map_eq_some_iff.mp refused
        exact native.property
    · cases reported
  | wrote written =>
    rcases e.stream.wrote_reports reported with kind | failed
    · rw [kind]
      decide
    · cases written with
      | error failure =>
        cases failed
        exact failure.1.property
      | ok count => cases failed
  | receive =>
    simp only [End.io] at reported
    split at reported
    · exact absurd reported (listening _ (receive_listens _))
    · cases reported
  | checked refusal => exact absurd reported (listening _ (checked_listens _ _))
  | read received =>
    cases received with
    | error failure =>
      exact absurd reported (listening _ (read_listens e.stream (.error failure.val)))
    | ok chunk =>
      simp only [End.io] at reported
      split at reported
      · exact absurd reported (listening _ (read_listens _ _))
      · cases reported

/-- An end that sends only what can be framed never blames the framing. -/
theorem io_framed (fits : ∀ payload, sending = some payload → validLength payload.length)
    (before : ∀ error, e.sent = some (.error error) → error.kind ≠ .protocolViolation)
    {error : Transport.Failure}
    (reported : ((e.after (e.io sending receiving inbox io)).leak (e.leaks io)).sent =
      some (.error error)) : error.kind ≠ .protocolViolation := by
  rcases Option.or_eq_some_iff.mp reported with now | ⟨-, earlier⟩
  · obtain ⟨event, member, result⟩ := List.exists_of_findSome?_eq_some now
    cases event with
    | sent result' =>
      cases result
      exact io_reports fits member
    | _ => cases result
  · exact before error earlier

end

section
variable {protobuf : Protobuf} {registry : ClassRegistry} {server : ServerState} {session : Session}
  {encoded : Bytes}

theorem loop_replying (replying : (session.loop server).point = .replying encoded) :
    session.point = .replying encoded := by
  unfold Session.loop at replying
  split at replying
  · split at replying <;> cases replying
  · exact replying

theorem received_replying {payload : Transport.Result Bytes}
    (replying : (session.received server payload).2.point = .replying encoded) :
    session.point = .replying encoded := by
  unfold Session.received at replying
  split at replying
  · split at replying <;> cases replying
  · exact replying

theorem refused_replying {error : Transport.Failure}
    (replying : (session.refused server error).2.point = .replying encoded) :
    session.point = .replying encoded := by
  unfold Session.refused at replying
  split at replying
  · cases replying
  · exact replying

theorem sent_replying {result : Transport.Result Nat}
    (replying : (session.sent server result).2.point = .replying encoded) :
    session.point = .replying encoded := by
  unfold Session.sent at replying
  split at replying
  · split at replying <;> cases replying
  · exact replying

theorem finish_replying (replying : session.finish.point = .replying encoded) :
    session.point = .replying encoded := by
  unfold Session.finish at replying
  split at replying
  · cases replying
  · exact replying

/-- The one section that begins a reply has it from the encoder. -/
theorem handled_replying (conforms : protobuf.Conforms)
    (before : session.point = .replying encoded → validLength encoded.length)
    (replying : (session.handled server protobuf registry).2.point = .replying encoded) :
    validLength encoded.length := by
  unfold Session.handled at replying
  split at replying
  · rename_i payload _
    cases written : (dispatch protobuf registry server.ids session.store payload).encoded with
    | none =>
      simp only [written] at replying
      cases replying
    | some result =>
      cases result with
      | error failure =>
        simp only [written] at replying
        cases replying
      | ok bytes =>
        simp only [written] at replying
        cases replying
        simp only [dispatch, reply] at written
        split at written
        · cases written
        · exact encodeResponse_fits conforms (Option.some.inj written)
  · exact before replying

end

namespace Wire.Framed
variable {protobuf : Protobuf} {registry : ClassRegistry} {w : Wire}

theorem start (opener : Bool) (limits : SessionLimits) (first : UInt64) :
    (Wire.start opener limits first).Framed :=
  ⟨nofun, nofun, nofun⟩

/-- Each step keeps to payloads that can be framed. -/
theorem step (framed : w.Framed) (conforms : protobuf.Conforms)
    (calls : ∀ payload, clientSends w.client = some payload → validLength payload.length)
    (action : WireAction) : (w.step protobuf registry action).1.Framed := by
  have replies : ∀ payload, serverSends w.session = some payload → validLength payload.length := by
    intro payload sends
    unfold serverSends at sends
    split at sends
    · rename_i replying
      cases sends
      exact framed.reply _ replying
    · cases sends
  cases action with
  | client action =>
    simp only [Wire.step, Wire.stepClient]
    split <;> exact { framed with }
  | clientSent =>
    simp only [Wire.step, Wire.stepClientSent]
    split
    · exact { framed with near := fun error none => by cases none }
    · exact framed
  | clientReceived =>
    simp only [Wire.step, Wire.stepClientReceived]
    split <;> exact { framed with }
  | clientHangsUp =>
    simp only [Wire.step, Wire.hangUp]
    split
    · split
      · exact { framed with near := framed.near }
      · exact framed
    · exact framed
  | near io => exact { framed with near := fun error => io_framed calls framed.near }
  | far io => exact { framed with far := fun error => io_framed replies framed.far }
  | serverLoop =>
    exact { framed with reply := fun encoded point => framed.reply encoded (loop_replying point) }
  | serverReceived =>
    simp only [Wire.step, Wire.stepServerReceived]
    split
    · exact { framed with
        reply := fun encoded point => framed.reply encoded (received_replying point) }
    · exact framed
  | serverRefuse failure =>
    exact { framed with reply := fun encoded point => framed.reply encoded (refused_replying point) }
  | serverHandle =>
    exact { framed with
      reply := fun encoded point => handled_replying conforms (framed.reply encoded) point }
  | serverSent =>
    simp only [Wire.step, Wire.stepServerSent]
    split
    · exact { framed with
        reply := fun encoded point => framed.reply encoded (sent_replying point)
        far := fun error none => by cases none }
    · exact framed
  | serverFinish =>
    exact { framed with reply := fun encoded point => framed.reply encoded (finish_replying point) }
  | serverStop => exact { framed with }
  | other action => exact { framed with }

end Wire.Framed

/-! ## The results -/

/-- Whatever the streams and the kernel do with the bytes, the run is one over payload
channels: with the same executions, server and stores, and the same client up to the
causes of failed calls once it has closed. -/
theorem pipe_implements_channels (protobuf : Protobuf) (registry : ClassRegistry) (opener : Bool)
    (limits : SessionLimits) (first : UInt64) (actions : List WireAction) :
    ∃ abstract : List Action,
      let w := (Wire.run protobuf registry opener limits first actions).1
      let s := (System.run protobuf registry opener limits first abstract).1
      Same w.client s.client ∧ s.server = w.server ∧ s.session = w.session ∧ s.others = w.others ∧
        (System.run protobuf registry opener limits first abstract).2 =
          (Wire.run protobuf registry opener limits first actions).2 := by
  obtain ⟨abstract, refines, same⟩ :=
    (Refines.simulates protobuf registry).run (Refines.start opener limits first) actions
  exact ⟨abstract, refines.client, refines.server, refines.session, refines.others, same⟩

/-- What client and server agree on after a run over bytes that executed `log`. -/
structure ByteAgreement (protobuf : Protobuf) (w : Wire) (log : List Execution) : Prop where
  /-- Only what a call asked for is executed. -/
  requested : ∀ execution ∈ log, ∃ call ∈ w.client.calls, call.request = execution.request
  once : ∀ call ∈ w.client.calls, (executionsOf log call).length ≤ 1
  ordered : log.Pairwise fun a b => a.request.id < b.request.id
  /-- A future with a response belongs to one execution and holds its outcome. -/
  answered : ∀ call ∈ w.client.calls, ∀ response, .ok response ∈ call.promise →
    ∃ execution, executionsOf log call = [execution] ∧ execution.request = call.request ∧
      response.id = call.request.id ∧ response.body = execution.outcome
  /-- What the server's stream returns is a request that the client's writer has sent. -/
  asked : ∀ payload, w.far.received = some (.ok payload) →
    ∃ call ∈ w.client.calls, call.encoded = payload ∧ call.progress ≠ .queued ∧
      decodeRequest protobuf payload = .ok call.request
  /-- What the client's stream returns is the reply to a pending call that was sent. -/
  expected : w.client.closed = false → ∀ payload, w.near.received = some (.ok payload) →
    ∃ response entry call, decodeResponse protobuf payload = .ok response ∧
      w.client.pending.find response.id = some entry ∧ w.client.calls[entry]? = some call ∧
      call.progress ≠ .queued ∧ matchesOutcome call.request.body response.body = true
  /-- Either side's `receive` reports a protocol violation only for a pipe that ended inside
  a frame, and neither side's `send` reports one. -/
  blamed : ∀ e ∈ [w.near, w.far],
    (∀ error, e.received = some (.error error) → error.kind = .protocolViolation →
      Cut (incoming e.past)) ∧
    ∀ error, e.sent = some (.error error) → error.kind ≠ .protocolViolation

namespace Same
variable {c c' : ConnectionState}

theorem forward (same : Same c c') {call : PendingCall} (member : call ∈ c.calls) :
    ∃ call' ∈ c'.calls, Recast call call' :=
  forall₂_right same.calls.flip member

theorem backward (same : Same c c') {call' : PendingCall} (member : call' ∈ c'.calls) :
    ∃ call ∈ c.calls, Recast call call' :=
  forall₂_right same.calls member

end Same

theorem Recast.request {call call' : PendingCall} (recast : Recast call call') :
    call'.request = call.request := by
  rw [recast.rest]

theorem Recast.encoded {call call' : PendingCall} (recast : Recast call call') :
    call'.encoded = call.encoded := by
  rw [recast.rest]

theorem Recast.progress {call call' : PendingCall} (recast : Recast call call') :
    call'.progress = call.progress := by
  rw [recast.rest]

/-- The payload the client's writer is inside `send` with comes from the encoder. -/
theorem Refines.clientSends_fits {protobuf : Protobuf} {registry : ClassRegistry} {w : Wire}
    {s : System} {log : List Execution} (refines : Refines w s) (conforms : protobuf.Conforms)
    (coherent : Coherent protobuf registry s log) {payload : Bytes}
    (sends : clientSends w.client = some payload) : validLength payload.length := by
  unfold clientSends at sends
  split at sends
  · rename_i entry sending
    obtain ⟨call, found, rfl⟩ := Option.map_eq_some_iff.mp sends
    obtain ⟨call', member, recast⟩ := refines.client.forward (List.mem_of_getElem? found)
    obtain ⟨i, inside⟩ := List.mem_iff_getElem?.mp member
    obtain ⟨executed, answering, waiting, flow⟩ := coherent.flow
    have encoded := flow.encoded i call' inside
    rw [recast.encoded] at encoded
    exact encodeRequest_fits conforms encoded
  · cases sends

/-- In every run both sides send only what can be framed. -/
theorem Wire.run_framed {protobuf : Protobuf} (conforms : protobuf.Conforms)
    (registry : ClassRegistry) (opener : Bool) (limits : SessionLimits) (first : UInt64)
    (actions : List WireAction) :
    (Wire.run protobuf registry opener limits first actions).1.Framed := by
  -- Over the front of the run, since what the writer sends is known of reachable states.
  induction actions using List.reverseRecOn with
  | nil => exact .start opener limits first
  | append_singleton front action ih =>
    obtain ⟨abstract, refines, -⟩ :=
      (Refines.simulates protobuf registry).run (Refines.start opener limits first) front
    have coherent : Coherent protobuf registry
        (System.run protobuf registry opener limits first abstract).1 _ :=
      run_coherent conforms opener limits first abstract
    rw [Wire.run, Transition.run_append]
    exact ih.step conforms (fun payload => refines.clientSends_fits conforms coherent) action

/-- Agreement over the channels, seen from the bytes that implement them. -/
theorem Refines.agreement {protobuf : Protobuf} {registry : ClassRegistry} {w : Wire} {s : System}
    {log : List Execution} (refines : Refines w s) (framed : w.Framed)
    (conforms : protobuf.Conforms) (coherent : Coherent protobuf registry s log) :
    ByteAgreement protobuf w log := by
  have agreed := coherent.agreement
  have executions : ∀ {call call' : PendingCall}, Recast call call' →
      executionsOf log call' = executionsOf log call := by
    intro call call' recast
    rw [executionsOf, executionsOf, recast.request]
  obtain ⟨taken, part, requests⟩ := refines.requests
  obtain ⟨taken', part', replies⟩ := refines.replies
  refine ⟨fun execution listed => ?_, fun call member => ?_, agreed.ordered,
    fun call member response held => ?_, fun payload arrived => ?_, fun alive payload arrived => ?_,
    ?_⟩
  · obtain ⟨call', member, same⟩ := agreed.requested execution listed
    obtain ⟨call, here, recast⟩ := refines.client.backward member
    exact ⟨call, here, recast.request.symm.trans same⟩
  · obtain ⟨call', there, recast⟩ := refines.client.forward member
    rw [← executions recast]
    exact agreed.once call' there
  · obtain ⟨call', there, recast⟩ := refines.client.forward member
    have answered := agreed.answered call' there response ((recast.answered response).mp held)
    rw [executions recast, recast.request] at answered
    exact answered
  · obtain ⟨executed, answering, waiting, flow⟩ := coherent.flow
    have oldest := requests.oldest (by rw [End.waiting, arrived])
    have listed : payload ∈ s.requests := by
      rw [System.requests, Channel.payloads, oldest]
      simp
    obtain ⟨entry, among, call', found, rfl⟩ := forall₂_right flow.requested listed
    obtain ⟨call, here, recast⟩ := refines.client.backward (List.mem_of_getElem? found)
    refine ⟨call, here, recast.encoded.symm, ?_, ?_⟩
    · obtain ⟨same, there, begun⟩ := flow.begun entry (List.mem_append_right _ among)
      cases Option.some.inj (there.symm.trans found)
      rw [← recast.progress]
      exact begun
    · rw [← recast.request]
      exact decodeRequest_encode conforms (flow.encoded entry call' found)
  · have same := refines.client.alive alive
    have oldest := replies.oldest (by rw [End.waiting, arrived])
    rw [← same]
    apply agreed.expected
    · rw [same]
      exact alive
    · rw [oldest]
      rfl
  · intro e member
    rcases List.mem_cons.mp member with rfl | other
    · exact ⟨replies.blames, framed.near⟩
    · rw [List.mem_singleton.mp other]
      exact ⟨requests.blames, framed.far⟩

/-- What client and server agree on over whole payloads they agree on over bytes. -/
theorem client_and_server_agree_over_bytes (protobuf : Protobuf) (conforms : protobuf.Conforms)
    (registry : ClassRegistry) (opener : Bool) (limits : SessionLimits) (first : UInt64)
    (actions : List WireAction) :
    ByteAgreement protobuf (Wire.run protobuf registry opener limits first actions).1
      (Wire.run protobuf registry opener limits first actions).2 := by
  obtain ⟨abstract, refines, same⟩ :=
    (Refines.simulates protobuf registry).run (Refines.start opener limits first) actions
  have coherent : Coherent protobuf registry
      (System.run protobuf registry opener limits first abstract).1
      (System.run protobuf registry opener limits first abstract).2 :=
    run_coherent conforms opener limits first abstract
  have framed := Wire.run_framed conforms registry opener limits first actions
  rw [Wire.run, ← same]
  exact refines.agreement framed conforms coherent

/-- One call, with its request written and read in two parts each, cut at different
places, and its reply read in two. -/
def servedOverBytes : List WireAction :=
  [.client (.connect (pipeRoot ++ [0x61]) 100 0 (.ok ())), .client .beginOpening,
    .client (.openReturned (.ok true)), .client .publishOpened, .client .readerConnected,
    .client .readerLoop, .near .receive, .near (.checked none), .client (.call (.listValues 0 2) 100 1),
    .client .takeQueued, .near (.send none), .near (.wrote (.ok 5)), .serverLoop, .far .receive,
    .far (.checked none), .far (.read (.ok ⟨[8, 0], by decide⟩)), .far (.checked none),
    .near (.wrote (.ok 7)), .clientSent,
    .far (.read (.ok ⟨[0, 0, 8, 1, 16, 1, 114, 2, 16, 2], by decide⟩)), .far (.checked none),
    .serverReceived, .serverHandle, .far (.send none), .far (.wrote (.ok 10)), .serverSent,
    .near (.read (.ok ⟨[6, 0, 0, 0, 8, 1, 16], by decide⟩)), .near (.checked none),
    .near (.read (.ok ⟨[1, 106, 0], by decide⟩)), .near (.checked none), .clientReceived]

theorem client_and_server_agree_over_bytes_served :
    (Wire.run referenceProtobuf builtinRegistry true ⟨4, 4, 4096⟩ 1 servedOverBytes).2 =
        [⟨⟨1, .listValues 0 2, 1⟩, .values ⟨[], 0⟩⟩] ∧
      (Wire.run referenceProtobuf builtinRegistry true ⟨4, 4, 4096⟩ 1
          servedOverBytes).1.client.calls.map (·.promise) = [[.ok ⟨1, .values ⟨[], 0⟩, 1⟩]] ∧
      ByteAgreement referenceProtobuf
        (Wire.run referenceProtobuf builtinRegistry true ⟨4, 4, 4096⟩ 1 servedOverBytes).1
        (Wire.run referenceProtobuf builtinRegistry true ⟨4, 4, 4096⟩ 1 servedOverBytes).2 :=
  ⟨by decide, by decide,
    client_and_server_agree_over_bytes referenceProtobuf referenceProtobuf_conforms builtinRegistry
      true ⟨4, 4, 4096⟩ 1 servedOverBytes⟩

end PipeForge.EndToEnd
