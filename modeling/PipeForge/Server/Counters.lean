import PipeForge.Server.Host
import PipeForge.Transport.Stream

/-!
# What the statistics count

The counters are documented (pipe_server.hpp) to count sessions ended by a terminal
failure of frame or envelope, and requests that were dispatched. `dispatch` counts
every failure of the decoder as a protocol failure, and every reply as a completed
request, so a recoverable failure is counted by both although it ends no session and
dispatches nothing. `Accounts` says what the counters are in every run, and
`statistics_meaningful_iff` that nothing else puts them off.
-/

namespace PipeForge.Server
open Contracts Library Protocol Domain

/-! ## The documented meaning -/

/-- The sessions of the turns with this observation, one entry for each turn. -/
def sessionsSeen (what : Observation) (log : List Seen) : List Nat :=
  (log.filter fun seen => seen.what = some what).map Seen.session

structure Meaningful (statistics : Statistics) (log : List Seen) : Prop where
  /-- Counted are the sessions that ended by a terminal failure, -/
  failures : statistics.protocolErrors = (sessionsSeen .terminal log).toFinset.card
  /-- and the requests that were dispatched and answered. -/
  completed : statistics.completed = (sessionsSeen .answered log).length
  /-- A recoverable failure and its reply are not counted, -/
  recoverable : ∀ seen ∈ log,
    seen.what = some .recoverable ∨ seen.what = some .apologised →
      seen.protocolErrors = 0 ∧ seen.completed = 0
  /-- and no payload is counted twice. -/
  once : ∀ failed ∈ log, ∀ done ∈ log, failed.session = done.session →
    failed.round = done.round → ¬ (0 < failed.protocolErrors ∧ 0 < done.completed)

/-- No recoverable payload is about to pass the domain gate. -/
def HostAction.Clean (protobuf : Protobuf) (host : Host) : HostAction → Prop
  | .serve session .handled => ∀ w payload, host.sessions[session]? = some w →
      w.session.point = .dispatching payload → ¬ Recoverable protobuf payload
  | _ => True

/-- Every step of the run is clean in the state it is taken in. -/
def CleanRun (protobuf : Protobuf) (registry : ClassRegistry) : Host → List HostAction → Prop
  | _, [] => True
  | host, action :: rest => action.Clean protobuf host ∧
      CleanRun protobuf registry (host.step protobuf registry action).1 rest

/-! ## The log -/

section
variable {what : Observation} {log : List Seen} {session : Nat}

theorem sessionsSeen_append (what : Observation) (log later : List Seen) :
    sessionsSeen what (log ++ later) = sessionsSeen what log ++ sessionsSeen what later := by
  simp only [sessionsSeen, List.filter_append, List.map_append]

/-- A session was seen doing something if the log says so. -/
theorem mem_sessionsSeen :
    session ∈ sessionsSeen what log ↔
      ∃ seen ∈ log, seen.session = session ∧ seen.what = some what := by
  simp only [sessionsSeen, List.mem_map, List.mem_filter, decide_eq_true_eq]
  constructor
  · intro given
    obtain ⟨seen, ⟨member, found⟩, same⟩ := given
    exact ⟨seen, member, same, found⟩
  · intro given
    obtain ⟨seen, member, same, found⟩ := given
    exact ⟨seen, ⟨member, found⟩, same⟩

theorem sessionsSeen_single (seen : Seen) :
    sessionsSeen what [seen] = if seen.what = some what then [seen.session] else [] := by
  by_cases found : seen.what = some what
  · simp [sessionsSeen, found]
  · simp [sessionsSeen, found]

/-- A session is seen in the longer log if it was before, or if the turn is its own. -/
theorem mem_sessionsSeen_snoc {seen : Seen} :
    session ∈ sessionsSeen what (log ++ [seen]) ↔
      session ∈ sessionsSeen what log ∨ seen.what = some what ∧ session = seen.session := by
  rw [sessionsSeen_append, List.mem_append, sessionsSeen_single]
  by_cases found : seen.what = some what
  · simp [found]
  · simp [found]

/-- One more turn in the log moves the counts by what the source adds. -/
theorem length_failures (log : List Seen) (seen : Seen) :
    (sessionsSeen .terminal (log ++ [seen])).length +
        (sessionsSeen .recoverable (log ++ [seen])).length =
      (sessionsSeen .terminal log).length + (sessionsSeen .recoverable log).length +
        failureCharge seen.what := by
  simp only [sessionsSeen_append, sessionsSeen_single, List.length_append]
  rcases seen.what with _ | what
  · simp [failureCharge]
  · cases what <;> simp [failureCharge] <;> omega

/-- One more completion is one more answer or apology in the log. -/
theorem length_completed (log : List Seen) (seen : Seen) :
    (sessionsSeen .answered (log ++ [seen])).length +
        (sessionsSeen .apologised (log ++ [seen])).length =
      (sessionsSeen .answered log).length + (sessionsSeen .apologised log).length +
        completedCharge seen.what := by
  simp only [sessionsSeen_append, sessionsSeen_single, List.length_append]
  rcases seen.what with _ | what
  · simp [completedCharge]
  · cases what <;> simp [completedCharge] <;> omega

end

/-- What the log says of the session `w`. -/
structure Follows (protobuf : Protobuf) (log : List Seen) (session : Nat) (w : Serving) : Prop where
  held : ∀ payload, w.session.point = .dispatching payload → w.payload = payload
  framed : ∀ encoded, w.session.point = .replying encoded → validLength encoded.length
  owed : ∀ encoded failure, w.session.point = .replying encoded →
    decodeRequest protobuf w.payload = .error failure → session ∈ sessionsSeen .recoverable log
  ended : session ∈ sessionsSeen .terminal log → w.session.point.past = true
  earlier : ∀ seen ∈ log, seen.session = session → seen.round ≤ w.round
  settled : ∀ seen ∈ log, seen.session = session → seen.round = w.round →
    seen.what = some .answered → w.session.point.busy = false

/-- The counters and the log of a run. -/
structure Accounts (protobuf : Protobuf) (registry : ClassRegistry) (host : Host)
    (log : List Seen) : Prop where
  failures : host.server.statistics.protocolErrors =
    (sessionsSeen .terminal log).length + (sessionsSeen .recoverable log).length
  completed : host.server.statistics.completed =
    (sessionsSeen .answered log).length + (sessionsSeen .apologised log).length
  charges : ∀ seen ∈ log, seen.protocolErrors = failureCharge seen.what ∧
    seen.completed = completedCharge seen.what
  sound : ∀ (session : Nat) (w : Serving), host.sessions[session]? = some w →
    Sound registry host.server.ids w.session.store
  follows : ∀ (session : Nat) (w : Serving), host.sessions[session]? = some w →
    Follows protobuf log session w
  known : ∀ seen ∈ log, seen.session < host.sessions.length
  distinct : (sessionsSeen .terminal log).Nodup
  excused : ∀ session ∈ sessionsSeen .apologised log, session ∈ sessionsSeen .recoverable log
  apart : ∀ failed ∈ log, ∀ done ∈ log, failed.session = done.session →
    failed.round = done.round → failed.what = some .terminal → done.what ≠ some .answered

section
variable {protobuf : Protobuf} {registry : ClassRegistry} {server server' : ServerState}
  {w w' : Serving} {what : Option Observation} {log : List Seen} {session : Nat}

/-- The session a turn belongs to, after the turn is in the log. -/
theorem Follows.moved (follows : Follows protobuf log session w)
    (moved : Moved protobuf registry server w server' w' what) (failures completed : Nat) :
    Follows protobuf (log ++ [⟨session, w.round, what, failures, completed⟩]) session w' where
  held := moved.held follows.held
  framed := moved.framed follows.framed
  owed encoded failure writing failed := by
    apply mem_sessionsSeen_snoc.mpr
    rcases moved.owed follows.held writing failed with recovered | same
    · exact Or.inr ⟨recovered, rfl⟩
    · left
      subst same
      exact follows.owed encoded failure writing failed
  ended member := by
    rcases mem_sessionsSeen_snoc.mp member with before | ⟨terminal, -⟩
    · exact (moved.past (follows.ended before)).2
    · dsimp only at terminal
      subst terminal
      exact moved.of_terminal.2
  earlier seen member same := by
    rcases List.mem_append.mp member with before | now
    · exact Nat.le_trans (follows.earlier seen before same) moved.round_le
    · rw [List.mem_singleton.mp now]
      exact moved.round_le
  settled seen member same current found := by
    rcases List.mem_append.mp member with before | now
    · -- the turn has not left the round of an earlier answer
      have reached := follows.earlier seen before same
      have kept : w'.round = w.round := Nat.le_antisymm (current ▸ reached) moved.round_le
      have idle := follows.settled seen before same (current.trans kept) found
      exact moved.idle_round idle kept
    · rw [List.mem_singleton.mp now] at found
      dsimp only at found
      subst found
      exact moved.of_answered.2

/-- A session takes no turn that could be seen after its terminal failure. -/
theorem Follows.live {seen : Observation} (follows : Follows protobuf log session w)
    (moved : Moved protobuf registry server w server' w' (some seen)) :
    session ∉ sessionsSeen .terminal log := by
  intro before
  cases (moved.past (follows.ended before)).1

/-- Nor does a round end by a failure after its request was answered. -/
theorem Follows.unanswered (follows : Follows protobuf log session w)
    (moved : Moved protobuf registry server w server' w' (some .terminal)) {done : Seen}
    (member : done ∈ log) (same : done.session = session) (round : done.round = w.round) :
    done.what ≠ some .answered := by
  intro answered
  have idle := follows.settled done member same round answered
  rw [moved.of_terminal.1] at idle
  cases idle

/-- Turns of the others change nothing of what the log says of a session. -/
theorem Follows.others (follows : Follows protobuf log session w) {seen : Seen}
    (other : seen.session ≠ session) : Follows protobuf (log ++ [seen]) session w := by
  have absent : ∀ what, session ∈ sessionsSeen what (log ++ [seen]) ↔
      session ∈ sessionsSeen what log := by
    intro what
    rw [mem_sessionsSeen_snoc]
    simp only [Ne.symm other, and_false, or_false]
  have older : ∀ found ∈ log ++ [seen], found.session = session → found ∈ log := by
    intro found member same
    rcases List.mem_append.mp member with before | now
    · exact before
    · rw [List.mem_singleton.mp now] at same
      exact absurd same other
  exact {
    held := follows.held
    framed := follows.framed
    owed := fun encoded failure writing failed =>
      (absent _).mpr (follows.owed encoded failure writing failed)
    ended := fun member => follows.ended ((absent _).mp member)
    earlier := fun found member same => follows.earlier found (older found member same) same
    settled := fun found member same => follows.settled found (older found member same) same }

/-- No session fails terminally twice, -/
theorem Follows.distinct (follows : Follows protobuf log session w)
    (moved : Moved protobuf registry server w server' w' what) (failures completed : Nat)
    (distinct : (sessionsSeen .terminal log).Nodup) :
    (sessionsSeen .terminal (log ++ [⟨session, w.round, what, failures, completed⟩])).Nodup := by
  rw [sessionsSeen_append, sessionsSeen_single]
  split
  · rename_i terminal
    dsimp only at terminal
    subst terminal
    apply List.Nodup.append distinct (List.nodup_singleton _)
    rw [List.disjoint_singleton]
    exact follows.live moved
  · rw [List.append_nil]
    exact distinct

/-- every reply that is no answer follows a recoverable failure of its session, -/
theorem Follows.excused (follows : Follows protobuf log session w)
    (moved : Moved protobuf registry server w server' w' what) (failures completed other : Nat)
    (excused : other ∈ sessionsSeen .apologised log → other ∈ sessionsSeen .recoverable log)
    (member : other ∈ sessionsSeen .apologised
      (log ++ [⟨session, w.round, what, failures, completed⟩])) :
    other ∈ sessionsSeen .recoverable
      (log ++ [⟨session, w.round, what, failures, completed⟩]) := by
  apply mem_sessionsSeen_snoc.mpr
  left
  rcases mem_sessionsSeen_snoc.mp member with before | ⟨apologised, same⟩
  · exact excused before
  · dsimp only at apologised same
    subst apologised same
    obtain ⟨encoded, failure, writing, undecoded⟩ := moved.of_apologised
    exact follows.owed encoded failure writing undecoded

/-- and no round both fails and is answered. -/
theorem Follows.apart (follows : Follows protobuf log session w)
    (moved : Moved protobuf registry server w server' w' what) (failures completed : Nat)
    (apart : ∀ failed ∈ log, ∀ done ∈ log, failed.session = done.session →
      failed.round = done.round → failed.what = some .terminal → done.what ≠ some .answered) :
    let longer := log ++ [⟨session, w.round, what, failures, completed⟩]
    ∀ failed ∈ longer, ∀ done ∈ longer, failed.session = done.session →
      failed.round = done.round → failed.what = some .terminal → done.what ≠ some .answered := by
  intro longer failed member done member' same round terminal answered
  rcases List.mem_append.mp member with before | now
  · rcases List.mem_append.mp member' with before' | now'
    · exact apart failed before done before' same round terminal answered
    · rw [List.mem_singleton.mp now'] at same answered
      dsimp only at same answered
      subst answered
      exact follows.live moved (mem_sessionsSeen.mpr ⟨failed, before, same, terminal⟩)
  · rw [List.mem_singleton.mp now] at same round terminal
    dsimp only at same round terminal
    subst terminal
    rcases List.mem_append.mp member' with before' | now'
    · exact follows.unanswered moved before' same.symm round.symm answered
    · rw [List.mem_singleton.mp now'] at answered
      cases answered

/-- A turn of the session `w` in the accounts. -/
theorem Accounts.turn {host : Host} (conforms : protobuf.Conforms)
    (accounts : Accounts protobuf registry host log) (found : host.sessions[session]? = some w)
    (turn : Turn) :
    let done := host.step protobuf registry (.serve session turn)
    Accounts protobuf registry done.1 (log ++ done.2) := by
  have moved := Serving.step_moved conforms (accounts.sound session w found) turn
  simp only [Host.step, found]
  generalize w.step protobuf registry host.server turn = done at moved
  obtain ⟨server, next, what⟩ := done
  dsimp only at moved ⊢
  obtain ⟨counted, served⟩ := moved.counters
  obtain ⟨sound, advances⟩ := moved.sound (accounts.sound session w found)
  have follows := accounts.follows session w found
  have charged : server.statistics.protocolErrors - host.server.statistics.protocolErrors =
      failureCharge what := by omega
  have paid : server.statistics.completed - host.server.statistics.completed =
      completedCharge what := by omega
  rw [charged, paid]
  exact {
    failures := by
      rw [length_failures, ← accounts.failures]
      exact counted
    completed := by
      rw [length_completed, ← accounts.completed]
      exact served
    charges := by
      intro seen member
      rcases List.mem_append.mp member with before | now
      · exact accounts.charges seen before
      · rw [List.mem_singleton.mp now]
        exact ⟨rfl, rfl⟩
    sound := by
      intro other found' present
      rcases World.getElem?_set_cases present with ⟨-, rfl⟩ | ⟨-, old⟩
      · exact sound
      · exact (accounts.sound other found' old).advance advances
    follows := by
      intro other found' present
      rcases World.getElem?_set_cases present with ⟨rfl, rfl⟩ | ⟨different, old⟩
      · exact follows.moved moved _ _
      · exact (accounts.follows other found' old).others (Ne.symm different)
    known := by
      intro seen member
      rw [List.length_set]
      rcases List.mem_append.mp member with before | now
      · exact accounts.known seen before
      · rw [List.mem_singleton.mp now]
        exact (List.getElem?_eq_some_iff.mp found).1
    distinct := follows.distinct moved _ _ accounts.distinct
    excused := fun other => follows.excused moved _ _ other (accounts.excused other)
    apart := follows.apart moved _ _ accounts.apart }

/-- What happens outside the sessions touches neither counter. -/
theorem Accounts.frame {host : Host} (accounts : Accounts protobuf registry host log)
    (ids : server.ids = host.server.ids)
    (failures : server.statistics.protocolErrors = host.server.statistics.protocolErrors)
    (completed : server.statistics.completed = host.server.statistics.completed) :
    Accounts protobuf registry { host with server } log :=
  { accounts with
    failures := failures.trans accounts.failures
    completed := completed.trans accounts.completed
    sound := fun session w found => ids ▸ accounts.sound session w found }

theorem Accounts.accept {host : Host} (accounts : Accounts protobuf registry host log)
    (limits : SessionLimits) :
    Accounts protobuf registry
      { host with sessions := host.sessions ++ [{ session := .start limits }] } log :=
  { accounts with
    sound := by
      intro other w present
      rcases World.getElem?_create_cases present with old | ⟨-, rfl⟩
      · exact accounts.sound other w old
      · exact create_sound registry host.server.ids limits
    follows := by
      intro other w present
      rcases World.getElem?_create_cases present with old | ⟨rfl, rfl⟩
      · exact accounts.follows other w old
      · have unseen : ∀ seen ∈ log, seen.session ≠ host.sessions.length := fun seen member =>
          Nat.ne_of_lt (accounts.known seen member)
        refine ⟨nofun, nofun, nofun, fun member => ?_, fun seen member same => ?_,
          fun seen member same => ?_⟩
        · obtain ⟨seen, present, same, -⟩ := mem_sessionsSeen.mp member
          exact absurd same (unseen seen present)
        · exact absurd same (unseen seen member)
        · exact absurd same (unseen seen member)
    known := by
      intro seen member
      rw [List.length_append]
      exact Nat.lt_add_right _ (accounts.known seen member) }

theorem Accounts.step {host : Host} (conforms : protobuf.Conforms)
    (accounts : Accounts protobuf registry host log) (action : HostAction) :
    Accounts protobuf registry (host.step protobuf registry action).1
      (log ++ (host.step protobuf registry action).2) := by
  cases action with
  | accept limits =>
    rw [Host.step, List.append_nil]
    exact accounts.accept limits
  | acceptFailed error =>
    obtain ⟨failures, completed⟩ := record_counters host.server error
    simp only [Host.step]
    split
    · rw [List.append_nil]
      exact accounts
    · split
      · rw [List.append_nil]
        exact accounts.frame rfl failures completed
      · rw [List.append_nil]
        exact accounts.frame rfl failures completed
  | disconnectFailed error =>
    obtain ⟨failures, completed⟩ := record_counters host.server error
    rw [Host.step, List.append_nil]
    exact accounts.frame rfl failures completed
  | stop =>
    rw [Host.step, List.append_nil]
    exact accounts.frame rfl rfl rfl
  | serve session turn =>
    cases found : host.sessions[session]? with
    | none =>
      simp only [Host.step, found, List.append_nil]
      exact accounts
    | some w => exact accounts.turn conforms found turn

/-- In every run the counters are off by the recoverable failures and their replies. -/
theorem Host.run_accounts (conforms : protobuf.Conforms) (registry : ClassRegistry)
    (first : UInt64) (actions : List HostAction) :
    Accounts protobuf registry (Host.run protobuf registry first actions).1
      (Host.run protobuf registry first actions).2 := by
  have initial : Accounts protobuf registry (Host.start first) [] := by
    refine ⟨rfl, rfl, nofun, ?_, ?_, nofun, List.nodup_nil, nofun, nofun⟩
    · intro session w found
      cases found
    · intro session w found
      cases found
  exact Transition.run_invariant (Host.step protobuf registry)
    (Accounts protobuf registry) _ [] initial
    (fun host log action accounts => accounts.step conforms action) actions

/-- The reply a session of a run is about to send fails only by what the native calls
report, so `Turn.sent` leaves out nothing the stream can return. -/
theorem Host.reply_reports (conforms : protobuf.Conforms) (registry : ClassRegistry)
    (first : UInt64) (actions : List HostAction)
    (found : (Host.run protobuf registry first actions).1.sessions[session]? = some w)
    {encoded : Bytes} (writing : w.session.point = .replying encoded) (s : Transport.PipeStream)
    {preflight : Option NativeFailure} {written : Except NativeFailure Nat}
    {error : Transport.Failure}
    (reported : .sent (.error error) ∈ (s.send encoded (preflight.map Subtype.val)).2 ∨
      .sent (.error error) ∈ (s.wrote (written.mapError Subtype.val)).2) :
    error.kind ≠ .protocolViolation := by
  have accounts := Host.run_accounts conforms registry first actions
  have fits := (accounts.follows session w found).framed encoded writing
  rcases reported with refused | failed
  · rcases s.send_reports fits refused with disconnected | checked
    · rw [disconnected]
      nofun
    · obtain ⟨native, -, rfl⟩ := Option.map_eq_some_iff.mp checked
      exact native.property
  · rcases s.wrote_reports failed with disconnected | broken
    · rw [disconnected]
      nofun
    · cases written with
      | ok count => cases broken
      | error native =>
        cases broken
        exact native.property

/-! ## Clean runs -/

theorem sessionsSeen_eq_nil {what : Observation} :
    sessionsSeen what log = [] ↔ ∀ seen ∈ log, seen.what ≠ some what := by
  simp [sessionsSeen, List.filter_eq_nil_iff]

/-- Without recoverable failures the counters mean what they are documented to. -/
theorem Accounts.meaningful {host : Host} (accounts : Accounts protobuf registry host log)
    (clean : sessionsSeen .recoverable log = []) :
    Meaningful host.server.statistics log := by
  have excused : sessionsSeen .apologised log = [] := by
    apply List.eq_nil_iff_forall_not_mem.mpr
    intro session member
    have recovered := accounts.excused session member
    rw [clean] at recovered
    cases recovered
  have unrecovered := sessionsSeen_eq_nil.mp clean
  have unexcused := sessionsSeen_eq_nil.mp excused
  refine ⟨?_, ?_, ?_, ?_⟩
  · rw [accounts.failures, clean, List.toFinset_card_of_nodup accounts.distinct]
    rfl
  · rw [accounts.completed, excused]
    rfl
  · intro seen member found
    rcases found with recovered | apologised
    · exact absurd recovered (unrecovered seen member)
    · exact absurd apologised (unexcused seen member)
  · intro failed member done member' same round counted
    rw [(accounts.charges failed member).1, (accounts.charges done member').2] at counted
    have terminal : failed.what = some .terminal := by
      have other := unrecovered failed member
      revert counted other
      cases failed.what with
      | none => simp [failureCharge]
      | some what => cases what <;> simp [failureCharge]
    have answered : done.what = some .answered := by
      have other := unexcused done member'
      revert counted other
      cases done.what with
      | none => simp [completedCharge]
      | some what => cases what <;> simp [completedCharge]
    exact accounts.apart failed member done member' same round terminal answered

/-- A recoverable error is seen exactly for a payload that can be answered but not decoded. -/
theorem seenHandled_recoverable :
    w.seenHandled protobuf = some .recoverable ↔
      ∃ payload, w.session.point = .dispatching payload ∧ Recoverable protobuf payload := by
  unfold Serving.seenHandled Recoverable
  cases w.session.point with
  | dispatching payload =>
    cases decoded : decodeRequest protobuf payload with
    | ok request => simp [decoded]
    | error failure =>
      cases answer : reject failure with
      | ok response => simp [decoded, answer]
      | error fatal => simp [decoded, answer]
  | _ => simp

/-- Only the gate shows a recoverable failure. -/
theorem Serving.seen_recoverable {turn : Turn}
    (seen : (w.step protobuf registry server turn).2.2 = some .recoverable) :
    turn = .handled ∧ w.seenHandled protobuf = some .recoverable := by
  cases turn with
  | handled => exact ⟨rfl, seen⟩
  | received payload =>
    change w.seenReceived payload = _ at seen
    unfold Serving.seenReceived at seen
    split at seen
    · split at seen <;> cases seen
    · cases seen
  | sent result =>
    change w.seenSent protobuf result = _ at seen
    unfold Serving.seenSent at seen
    split at seen
    · split at seen <;> cases seen
    · cases seen
  | _ => cases seen

/-- A step is clean exactly if nothing recoverable is seen in it. -/
theorem Host.step_clean_iff (host : Host) (action : HostAction) :
    sessionsSeen .recoverable (host.step protobuf registry action).2 = [] ↔
      action.Clean protobuf host := by
  cases action with
  | serve session turn =>
    rw [sessionsSeen_eq_nil]
    cases found : host.sessions[session]? with
    | none =>
      simp only [Host.step, found]
      refine iff_of_true (fun seen member => by cases member) ?_
      cases turn with
      | handled =>
        intro w payload present
        cases found.symm.trans present
      | _ => trivial
    | some w =>
      simp only [Host.step, found, List.mem_singleton, forall_eq]
      constructor
      · intro unseen
        cases turn with
        | handled =>
          intro other payload present gate recoverable
          cases found.symm.trans present
          exact unseen (seenHandled_recoverable.mpr ⟨payload, gate, recoverable⟩)
        | _ => trivial
      · intro clean seen
        obtain ⟨rfl, handled⟩ := Serving.seen_recoverable seen
        obtain ⟨payload, gate, recoverable⟩ := seenHandled_recoverable.mp handled
        exact clean w payload found gate recoverable
  | acceptFailed error =>
    simp only [Host.step, HostAction.Clean, iff_true]
    split
    · rfl
    · split <;> rfl
  | _ => exact iff_of_true rfl trivial

/-- A run is clean when its log shows no recoverable failure. -/
theorem Host.run_clean_iff (host : Host) (actions : List HostAction) :
    sessionsSeen .recoverable (Transition.run (Host.step protobuf registry) host actions).2 = [] ↔
      CleanRun protobuf registry host actions := by
  induction actions generalizing host with
  | nil => exact iff_of_true rfl trivial
  | cons action rest ih =>
    rw [Transition.run, CleanRun, sessionsSeen_append, List.append_eq_nil_iff,
      Host.step_clean_iff, ih]

end

/-- The statistics mean what they say in every state of exactly those runs in which
no recoverable payload passes the gate. -/
theorem statistics_meaningful_iff (protobuf : Protobuf) (conforms : protobuf.Conforms)
    (registry : ClassRegistry) (first : UInt64) (actions : List HostAction) :
    (∀ front, front <+: actions →
      Meaningful (Host.run protobuf registry first front).1.server.statistics
        (Host.run protobuf registry first front).2) ↔
      CleanRun protobuf registry (Host.start first) actions := by
  rw [← Host.run_clean_iff]
  constructor
  · intro meaningful
    have whole := meaningful actions (List.prefix_refl _)
    have accounts := Host.run_accounts conforms registry first actions
    apply sessionsSeen_eq_nil.mpr
    intro seen member recovered
    have uncounted := (whole.recoverable seen member (Or.inl recovered)).1
    rw [(accounts.charges seen member).1, recovered] at uncounted
    cases uncounted
  · intro clean front part
    apply (Host.run_accounts conforms registry first front).meaningful
    obtain ⟨back, rfl⟩ := part
    rw [Transition.run_append, sessionsSeen_append, List.append_eq_nil_iff] at clean
    exact clean.1

/-- A page request and then a malformed payload: one request and one session. -/
theorem statistics_meaningful_iff_classes :
    let actions : List HostAction :=
      [.accept ⟨4, 4, 4096⟩, .serve 0 .loop,
        .serve 0 (.received (.ok [8, 1, 16, 7, 82, 2, 16, 2])), .serve 0 .handled,
        .serve 0 (.sent (.ok 31)), .serve 0 .loop, .serve 0 (.received (.ok [0x80])),
        .serve 0 .handled]
    let done := Host.run referenceProtobuf builtinRegistry 1 actions
    CleanRun referenceProtobuf builtinRegistry (Host.start 1) actions ∧
      done.1.server.statistics = ⟨1, 1, 0, 0⟩ ∧ Meaningful done.1.server.statistics done.2 := by
  intro actions done
  have clean : CleanRun referenceProtobuf builtinRegistry (Host.start 1) actions := by
    apply (Host.run_clean_iff _ _).mp
    decide +kernel
  refine ⟨clean, by decide +kernel, ?_⟩
  exact (statistics_meaningful_iff referenceProtobuf referenceProtobuf_conforms builtinRegistry 1
    actions).mpr clean actions (List.prefix_refl _)

/-- The payload of version 1 and id 42 without an operation is answered and its
session stays open, yet both counters count it. -/
theorem recoverable_counted_twice :
    let done := Host.run referenceProtobuf builtinRegistry 1
      [.accept ⟨4, 4, 4096⟩, .serve 0 .loop, .serve 0 (.received (.ok [0x08, 1, 0x10, 42])),
        .serve 0 .handled, .serve 0 (.sent (.ok 30))]
    done.1.sessions.map (·.session.point) = [.looping] ∧
      sessionsSeen .terminal done.2 = [] ∧ sessionsSeen .answered done.2 = [] ∧
      done.1.server.statistics.protocolErrors = 1 ∧ done.1.server.statistics.completed = 1 ∧
      ¬ Meaningful done.1.server.statistics done.2 := by
  have counted : (Host.run referenceProtobuf builtinRegistry 1
      [.accept ⟨4, 4, 4096⟩, .serve 0 .loop, .serve 0 (.received (.ok [0x08, 1, 0x10, 42])),
        .serve 0 .handled, .serve 0 (.sent (.ok 30))]).1.server.statistics = ⟨1, 1, 0, 0⟩ := by
    decide +kernel
  have log : (Host.run referenceProtobuf builtinRegistry 1
      [.accept ⟨4, 4, 4096⟩, .serve 0 .loop, .serve 0 (.received (.ok [0x08, 1, 0x10, 42])),
        .serve 0 .handled, .serve 0 (.sent (.ok 30))]).2 =
      [⟨0, 0, none, 0, 0⟩, ⟨0, 1, none, 0, 0⟩, ⟨0, 1, some .recoverable, 1, 0⟩,
        ⟨0, 1, some .apologised, 0, 1⟩] := by
    decide +kernel
  refine ⟨by decide +kernel, ?_, ?_, ?_, ?_, ?_⟩
  · rw [log]
    rfl
  · rw [log]
    rfl
  · rw [counted]
  · rw [counted]
  · intro meaningful
    rw [counted, log] at meaningful
    exact absurd meaningful.failures (by decide)

end PipeForge.Server
