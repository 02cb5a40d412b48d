import PipeForge.Diagnostics.Trace

/-!
# Whole runs of a profiled program

Scopes are constructed and destroyed on any threads and in any order, with `log` and
any number of `finish` calls in between. The state agrees with the history after
every run, so each trace document is complete and closed once.
-/

namespace PipeForge.Diagnostics
open Contracts Library Transition

theorem Live.scope_id {θ : Type} {live : Live θ} {scope : Scope θ}
    (found : live.scope = some scope) : scope.id = live.id := by
  obtain ⟨track, -, rfl⟩ := Option.map_eq_some_iff.mp found
  rfl

variable {θ : Type} [LinearOrder θ]

/-- The live objects with a track are the active scopes. -/
structure Holds (p : Program θ) (h : History θ) : Prop where
  live : p.scopes.filterMap Live.scope = h.active
  ids : (p.scopes.map (·.id)).Nodup
  small : ∀ live ∈ p.scopes, live.id < p.constructed
  used : ∀ scope ∈ h.admitted, scope.id < p.constructed

structure Follows (setup : Setup) (p : Program θ) (h : History θ) : Prop where
  agrees : Agrees setup p.state h
  holds : Holds p h
  legal : Admissible (History.Allowed setup.traceEventLimit) h

namespace Holds
variable {p : Program θ} {h : History θ} (holds : Holds p h)
include holds

/-- Live scopes are told apart by their identifiers. -/
theorem same_object {first second : Live θ} (one : first ∈ p.scopes) (two : second ∈ p.scopes)
    (same : first.id = second.id) : first = second :=
  List.inj_on_of_nodup_map holds.ids one two same

/-- A new object gets an id of its own. -/
theorem construct (state : DiagnosticState θ) (owner : θ) (object : ProfileScope)
    {h' : History θ}
    (live : h'.active = h.active ++ (Live.scope ⟨p.constructed, owner, object⟩).toList)
    (used : ∀ scope ∈ h'.admitted, scope ∈ h.admitted ∨ scope.id = p.constructed) :
    Holds ⟨state, p.scopes ++ [⟨p.constructed, owner, object⟩], p.constructed + 1⟩ h' := by
  constructor
  · rw [live, List.filterMap_append, holds.live]
    cases made : Live.scope ⟨p.constructed, owner, object⟩ with
    | none => simp [made]
    | some scope => simp [made]
  · rw [List.map_append]
    refine List.nodup_append.mpr ⟨holds.ids, List.nodup_singleton _, ?_⟩
    intro earlier old last new equal
    obtain ⟨other, member, rfl⟩ := List.mem_map.mp old
    cases List.mem_singleton.mp new
    exact Nat.ne_of_lt (holds.small other member) equal
  · intro other member
    rcases List.mem_append.mp member with old | new
    · exact Nat.lt_succ_of_lt (holds.small other old)
    · cases List.mem_singleton.mp new
      exact Nat.lt_succ_self _
  · intro scope member
    rcases used scope member with old | new
    · exact Nat.lt_succ_of_lt (holds.used scope old)
    · exact Nat.lt_succ_of_le (Nat.le_of_eq new)

/-- Destroying an object removes its scope, if it has one. -/
theorem remaining {live : Live θ} (member : live ∈ p.scopes) :
    (p.scopes.filter fun other => decide (other.id ≠ live.id)).filterMap Live.scope =
      h.active.filter fun scope => some scope != live.scope := by
  rw [List.filterMap_filter, ← holds.live, List.filter_filterMap]
  apply List.filterMap_congr
  intro other inside
  by_cases same : other.id = live.id
  · cases holds.same_object inside member same
    cases live.scope with
    | none => simp
    | some scope => simp [Option.filter]
  · cases found : other.scope with
    | none => simp
    | some scope =>
      have apart : some scope ≠ live.scope := by
        intro equal
        exact same ((Live.scope_id found).symm.trans (Live.scope_id equal.symm))
      simp [same, apart, Option.filter]

/-- A destroyed scope leaves the others live and active. -/
theorem destroy (state : DiagnosticState θ) {live : Live θ} (member : live ∈ p.scopes)
    {h' : History θ} (active : h'.active = h.active.filter fun scope => some scope != live.scope)
    (admitted : h'.admitted = h.admitted) :
    Holds ⟨state, p.scopes.filter fun other => decide (other.id ≠ live.id), p.constructed⟩ h' := by
  constructor
  · rw [active]
    exact holds.remaining member
  · exact holds.ids.sublist (List.filter_sublist.map _)
  · intro other kept
    exact holds.small other (List.mem_filter.mp kept).1
  · rw [admitted]
    exact holds.used

end Holds

theorem active_nodup {limit : Nat} {h : History θ}
    (legal : Admissible (History.Allowed limit) h) : h.active.Nodup :=
  (List.Nodup.of_map _ (History.admitted_ids legal)).sublist List.filter_sublist

/-- A constructed scope is admitted or refused as the history allows. -/
theorem Follows.construct {setup : Setup} {p : Program θ} {h : History θ}
    (follows : Follows setup p h) (sinks : Nat → Bool) (thread : θ) (name : Bytes) (now : Int) :
    Follows setup (p.step sinks (.construct thread name now)).1
      (h ++ (p.step sinks (.construct thread name now)).2) := by
  obtain ⟨agrees, holds, legal⟩ := follows
  have made : profileScope p.state thread name now =
      ((p.state.beginScope thread).1, ⟨name.take profileNameBytes,
        if (p.state.beginScope thread).2.isSome then now else 0,
        (p.state.beginScope thread).2⟩) := by
    rw [profileScope, if_neg (by simp [agrees.enabled])]
  simp only [Program.step, made]
  rcases agrees.beginScope thread with
    ⟨s, begun, full, refused⟩ | ⟨s, track, begun, going, room, tracked, admitted⟩
  · rw [begun]
    refine ⟨refused, ?_, legal.snoc full⟩
    apply holds.construct
    · exact (History.active_refused h thread).trans (List.append_nil _).symm
    · intro scope member
      have old : scope ∈ History.admitted (h ++ [Observation.refused thread]) := member
      left
      simpa using old
  · rw [begun]
    let scope : Scope θ := ⟨p.constructed, thread, track, name.take profileNameBytes, now⟩
    have fresh : ∀ other ∈ h.admitted, other.id ≠ scope.id := by
      intro other member
      exact Nat.ne_of_lt (holds.used other member)
    have unended : scope ∉ h.endedScopes := by
      intro ended
      exact fresh scope (History.endedScopes_subset legal scope ended) rfl
    refine ⟨admitted scope rfl rfl unended, ?_, legal.snoc ⟨going, room, tracked, fresh⟩⟩
    apply holds.construct
    · exact History.active_admitted unended
    · intro other member
      rw [History.admitted_snoc] at member
      rcases List.mem_append.mp member with old | new
      · exact .inl old
      · cases List.mem_singleton.mp new
        exact .inr rfl

/-- A destroyed scope ends once, and it may be the one the shutdown waited for. -/
theorem Follows.destroy {setup : Setup} {p : Program θ} {h : History θ} {sinks : Nat → Bool}
    (working : ∀ n, sinks n = true) (follows : Follows setup p h) (id : Nat) (now : Int) :
    Follows setup (p.step sinks (.destroy id now)).1
      (h ++ (p.step sinks (.destroy id now)).2) := by
  obtain ⟨agrees, holds, legal⟩ := follows
  cases found : p.scopes.find? fun live => decide (live.id = id) with
  | none =>
    simp only [Program.step, found, List.append_nil]
    exact ⟨agrees, holds, legal⟩
  | some live =>
    have member := List.mem_of_find?_eq_some found
    have named : live.id = id := by simpa using List.find?_some found
    subst named
    cases object : live.scope with
    | none =>
      simp only [Program.step, found, object, List.append_nil]
      refine ⟨agrees, holds.destroy p.state member ?_ rfl, legal⟩
      rw [object]
      exact (List.filter_eq_self.mpr fun _ _ => rfl).symm
    | some scope =>
      have running : scope ∈ h.active := by
        rw [← holds.live]
        exact List.mem_filterMap.mpr ⟨live, member, object⟩
      simp only [Program.step, found, object]
      refine ⟨agrees.endScope working (active_nodup legal) running now, ?_, legal.snoc running⟩
      apply holds.destroy _ member
      · rw [History.active_ended, object]
        apply List.filter_congr
        intro other _
        by_cases same : other = scope
        · simp [same]
        · have apart : some other ≠ some scope := fun equal => same (Option.some.inj equal)
          rw [bne_iff_ne.mpr same, bne_iff_ne.mpr apart]
      · simp

/-- Each action extends a legal history by a legal observation. -/
theorem Follows.step {setup : Setup} {p : Program θ} {h : History θ} {sinks : Nat → Bool}
    (working : ∀ n, sinks n = true) (follows : Follows setup p h) (action : Action θ) :
    Follows setup (p.step sinks action).1 (h ++ (p.step sinks action).2) := by
  cases action with
  | construct thread name now => exact follows.construct sinks thread name now
  | destroy id now => exact follows.destroy working id now
  | log level message =>
    obtain ⟨agrees, holds, legal⟩ := follows
    obtain ⟨operations, logRecords, done⟩ := p.state.log_eq working level message
    simp only [Program.step, done, List.append_nil]
    exact ⟨agrees.logged operations _ logRecords, { holds with }, legal⟩
  | finish =>
    obtain ⟨agrees, holds, legal⟩ := follows
    obtain ⟨done, result⟩ := agrees.finish working (p.state.finish sinks).2
    refine ⟨done, ?_, legal.snoc result⟩
    exact { holds with
      live := holds.live.trans (History.active_finished h _).symm
      used := by
        intro scope member
        have old : scope ∈ History.admitted
            (h ++ [Observation.finished (p.state.finish sinks).2]) := member
        exact holds.used scope (by simpa using old) }

/-- A trace that could be opened starts with an empty history. -/
theorem Follows.start {setup : Setup} {sinks : Nat → Bool} (working : ∀ n, sinks n = true)
    (traced : setup.traces = true) :
    Follows setup (Program.start sinks setup : Program θ) [] := by
  refine ⟨?_, ⟨rfl, List.nodup_nil, nofun, nofun⟩, .nil⟩
  simp only [Program.start, DiagnosticState.start, traced, if_true,
    DiagnosticState.writeTrace_eq _ working]
  rw [DiagnosticState.writeEvent_open _ working rfl]
  have running : ¬ History.Closed ([] : History θ) := not_closed rfl
  constructor
  · exact ⟨rfl, rfl, rfl, rfl, rfl, ⟨rfl, by simp [History.admitted], rfl⟩, rfl, rfl, rfl⟩
  · simp [running]
  · rw [document_open running]
    rfl

/-- Along every run with working sinks the state is the one its history determines. -/
theorem run_follows {setup : Setup} {sinks : Nat → Bool} (working : ∀ n, sinks n = true)
    (traced : setup.traces = true) (actions : List (Action θ)) :
    Follows setup (run (Program.step sinks) (Program.start sinks setup) actions).1
      (run (Program.step sinks) (Program.start sinks setup) actions).2 :=
  run_invariant (Program.step sinks) (Follows setup) _ [] (Follows.start working traced)
    (fun _ _ action follows => follows.step working action) actions

/-! ## What is never undone -/

/-- No member function takes back a failure, opens the trace again or writes to a closed
one. This needs no working sinks. -/
structure Later (s t : DiagnosticState θ) : Prop where
  failed : s.failed = true → t.failed = true
  shut : s.traceOpen = false → t.traceOpen = false ∧ t.traceRecords = s.traceRecords

namespace Later

theorem refl (s : DiagnosticState θ) : Later s s := ⟨fun failed => failed, fun shut => ⟨shut, rfl⟩⟩

theorem trans {s t u : DiagnosticState θ} (first : Later s t) (second : Later t u) : Later s u where
  failed given := second.failed (first.failed given)
  shut given := by
    obtain ⟨closed, same⟩ := first.shut given
    obtain ⟨still, same'⟩ := second.shut closed
    exact ⟨still, same'.trans same⟩

variable (sinks : Nat → Bool) (s : DiagnosticState θ)

theorem operate : Later s (s.operate sinks) where
  failed given := by simp [DiagnosticState.operate, given]
  shut given := ⟨given, rfl⟩

theorem writeEvent (event : Event) : Later s (s.writeEvent sinks event) := by
  unfold DiagnosticState.writeEvent
  split
  · rename_i opened
    exact ⟨(operate sinks s).failed, fun shut => absurd opened (by simp [shut])⟩
  · exact ⟨fun failed => failed, fun shut => ⟨shut, rfl⟩⟩

theorem log (level : LogLevel) (message : Bytes) : Later s (s.log sinks level message) := by
  unfold DiagnosticState.log
  split
  · exact ⟨(operate sinks s).failed, fun shut => ⟨shut, rfl⟩⟩
  · exact refl s

theorem beginScope (thread : θ) : Later s (s.beginScope thread).1 := by
  unfold DiagnosticState.beginScope
  split
  · exact refl s
  · split
    · exact ⟨fun failed => failed, fun shut => ⟨shut, rfl⟩⟩
    · split
      · exact ⟨fun failed => failed, fun shut => ⟨shut, rfl⟩⟩
      · split <;> exact ⟨fun failed => failed, fun shut => ⟨shut, rfl⟩⟩

theorem closeTrace : Later s (s.closeTrace sinks) := by
  unfold DiagnosticState.closeTrace
  split
  · rename_i opened
    refine ⟨fun failed => ?_, fun shut => absurd opened (by simp [shut])⟩
    exact (operate sinks _).failed ((operate sinks s).failed failed)
  · exact refl s

theorem closeLog : Later s (s.closeLog sinks) := by
  unfold DiagnosticState.closeLog
  split
  · exact ⟨(operate sinks s).failed, fun shut => ⟨shut, rfl⟩⟩
  · exact refl s

theorem finalize : Later s (s.finalize sinks).1 := by
  unfold DiagnosticState.finalize
  split
  · exact refl s
  · exact (closeTrace sinks s).trans (closeLog sinks _)

theorem endScope (name : Bytes) (thread : Nat) (start stop : Int) :
    Later s (s.endScope sinks name thread start stop) := by
  have written := writeEvent sinks s (completeEvent s.setup name thread start stop)
  unfold DiagnosticState.endScope
  dsimp only
  generalize s.writeEvent sinks _ = t at written ⊢
  have counted : Later s { t with active := t.active - 1 } := ⟨written.failed, written.shut⟩
  split
  · exact counted.trans (finalize sinks _)
  · exact counted

/-- No action undoes a failure or writes to a closed trace. -/
theorem step (p : Program θ) (action : Action θ) :
    Later p.state (p.step sinks action).1.state := by
  cases action with
  | construct thread name now =>
    simp only [Program.step, profileScope]
    split
    · exact refl _
    · exact beginScope p.state thread
  | destroy id now =>
    simp only [Program.step]
    split
    · exact refl _
    · split
      · exact refl _
      · exact endScope sinks p.state ..
  | log level message => exact log sinks p.state level message
  | finish =>
    have closing : Later p.state { p.state with closing := true } :=
      ⟨fun failed => failed, fun shut => ⟨shut, rfl⟩⟩
    exact closing.trans (finalize sinks _)

end Later

theorem run_later (sinks : Nat → Bool) (p : Program θ) (actions : List (Action θ)) :
    Later p.state (run (Program.step sinks) p actions).1.state :=
  run_invariant (Program.step sinks) (fun q _ => Later p.state q.state) p [] (Later.refl _)
    (fun q _ action later => later.trans (Later.step sinks q action)) actions

/-! ## Failed sinks -/

/-- A failure is reported by `finish`, whenever it happened. -/
theorem finalize_failed (sinks : Nat → Bool) {s : DiagnosticState θ} (failed : s.failed = true) :
    (s.finalize sinks).2 = false := by
  have kept := (Later.finalize sinks s).failed failed
  unfold DiagnosticState.finalize at kept ⊢
  split
  · rfl
  · rename_i idle
    rw [if_neg idle] at kept
    exact congrArg not kept

/-- After a failure no scope is admitted, and `finish` does not succeed. -/
theorem step_failed (sinks : Nat → Bool) (p : Program θ) (failed : p.state.failed = true)
    (action : Action θ) :
    ∀ o ∈ (p.step sinks action).2, o.admits = none ∧ o ≠ .finished true := by
  cases action with
  | construct thread name now =>
    have refused : (profileScope p.state thread name now).2.thread = none := by
      unfold profileScope
      split
      · rfl
      · rw [DiagnosticState.beginScope, if_pos (by simp [failed])]
    simp [Program.step, Live.scope, refused]
  | destroy id now =>
    simp only [Program.step]
    split
    · simp
    · split
      · simp
      · simp
  | log level message => simp [Program.step]
  | finish =>
    have result := finalize_failed sinks (s := { p.state with closing := true }) failed
    simp [Program.step, DiagnosticState.finish, result]

/-- After a sink failed no scope is admitted and every `finish` reports it. -/
theorem run_failed (sinks : Nat → Bool) (p : Program θ) (failed : p.state.failed = true)
    (actions : List (Action θ)) :
    ∀ o ∈ (run (Program.step sinks) p actions).2, o.admits = none ∧ o ≠ .finished true := by
  have both := run_invariant (Program.step sinks)
    (fun q h => q.state.failed = true ∧ ∀ o ∈ h, o.admits = none ∧ o ≠ .finished true) p []
    ⟨failed, nofun⟩ ?_ actions
  · exact both.2
  · intro q h action given
    refine ⟨(Later.step sinks q action).failed given.1, ?_⟩
    exact List.forall_mem_append.mpr ⟨given.2, step_failed sinks q given.1 action⟩

/-! ## Trace documents -/

/-- What a trace file and its history have to do with each other. -/
structure Documented (setup : Setup) (s : DiagnosticState θ) (h : History θ) : Prop where
  records : s.traceRecords = document setup h
  text : ∀ dump, s.traceRecords.flatMap (Record.text dump) =
    Record.text dump .header ++
      List.intercalate [','] ((.processName setup.processId setup.application ::
        h.ended.map (endedEvent setup)).map dump) ++
      if h.Closed then Record.text dump (.trailer h.dropped) else []
  /-- `write_event` never met a reset `trace_`. -/
  safe : s.nullTrace = false
  /-- Each event is that of another admitted scope. -/
  once : h.endedScopes.Nodup ∧ ∀ scope ∈ h.endedScopes, scope ∈ h.admitted
  budget : h.admitted.length ≤ setup.traceEventLimit
  tracks : ∀ first ∈ h.admitted, (1 ≤ first.track ∧ first.track ≤ traceThreadLimit) ∧
    ∀ second ∈ h.admitted, first.thread = second.thread ↔ first.track = second.track
  /-- The attempts counted as dropped are those a limit refused. -/
  refusals : ∀ front thread back, h = front ++ .refused thread :: back →
    History.finishing front = false → History.Full setup.traceEventLimit front thread
  admissions : ∀ front scope back, h = front ++ .admitted scope :: back →
    History.finishing front = false ∧ ¬ History.Full setup.traceEventLimit front scope.thread
  finishes : ∀ front result back, h = front ++ .finished result :: back →
    (result = true ↔ History.active front = [])

theorem Follows.documented {setup : Setup} {p : Program θ} {h : History θ}
    (follows : Follows setup p h) : Documented setup p.state h := by
  obtain ⟨agrees, -, legal⟩ := follows
  have numbered := History.numbered legal
  constructor
  · exact agrees.records
  · intro dump
    rw [agrees.records]
    exact document_text dump setup h
  · exact agrees.safe
  · exact ⟨History.endedScopes_nodup legal, History.endedScopes_subset legal⟩
  · exact History.admitted_le legal
  · intro first member
    obtain ⟨low, high⟩ := numbered.range first member
    exact ⟨⟨low, Nat.le_trans high numbered.few⟩, numbered.exactly first member⟩
  · intro front thread back split
    exact legal.allowed_at split
  · intro front scope back split
    obtain ⟨going, room, -⟩ := legal.allowed_at split
    exact ⟨going, room⟩
  · intro front result back split
    exact legal.allowed_at split

/-- With working sinks the trace file is at all times the document its history determines,
and once it is closed it does not change. -/
theorem trace_closed_once (setup : Setup) (traced : setup.traces = true) (sinks : Nat → Bool)
    (working : ∀ n, sinks n = true) (actions : List (Action θ)) :
    let ran := run (Program.step sinks) (Program.start sinks setup) actions
    Documented setup ran.1.state ran.2 ∧
      (History.Closed ran.2 → ∀ more,
        (run (Program.step sinks) ran.1 more).1.state.traceRecords = ran.1.state.traceRecords) := by
  have follows := run_follows working traced actions
  refine ⟨follows.documented, ?_⟩
  intro closed more
  have shut := follows.agrees.opened
  rw [decide_eq_true closed, Bool.not_true] at shut
  exact ((run_later sinks _ more).shut shut).2

/-- A second scope is over the limit, `finish` comes while the first is running, and the
scope that is left closes the trace. -/
theorem trace_closed_once_deferred :
    let setup : Setup :=
      { application := [112], processId := 7, traceFile := true, traceEventLimit := 1 }
    let sinks : Nat → Bool := fun _ => true
    let actions : List (Action Nat) :=
      [.construct 40 [97] 1000, .construct 41 [98] 2000, .finish, .construct 40 [99] 3000,
        .destroy 0 6000, .finish]
    let ran := run (Program.step sinks) (Program.start sinks setup) actions
    ran.1.state.traceRecords =
      [.header, .event false (.processName 7 [112]), .event true (.complete [97] 7 1 1 5),
        .trailer 1] ∧
      Documented setup ran.1.state ran.2 := by
  refine ⟨by decide, ?_⟩
  exact (trace_closed_once _ rfl (fun _ => true) (fun _ => rfl) _).1

end PipeForge.Diagnostics
