import PipeForge.Diagnostics.State

/-!
# Trace documents

The records in the trace file are a function of what the program observed: the
header, the process metadata, one event for every scope that ended, and the trailer
once the history is closed (`document`). `Agrees` ties the counters, the table of
threads and the file to the history; every member function keeps it and observes only
what `History.Allowed` permits, as long as no sink fails.
-/

namespace PipeForge.Diagnostics
open Contracts Library Transition

section
variable {θ : Type} [DecidableEq θ]

def endedEvent (setup : Setup) (ended : Scope θ × Int) : Event :=
  completeEvent setup ended.1.name ended.1.track ended.1.start ended.2

/-- The trace file without a trailer. -/
def events (setup : Setup) (h : History θ) : List Record :=
  [Record.header, Record.event false (.processName setup.processId setup.application)] ++
    h.ended.map fun ended => Record.event true (endedEvent setup ended)

/-- The trace file after a history. -/
def document (setup : Setup) (h : History θ) : List Record :=
  events setup h ++ if h.Closed then [Record.trailer h.dropped] else []

variable {setup : Setup} {h : History θ}

omit [DecidableEq θ] in
theorem events_same {o : Observation θ} (none : o.ends = none) :
    events setup (h ++ [o]) = events setup h := by
  rw [events, History.ended_snoc, none, Option.toList_none, List.append_nil, events]

/-- Before it is closed the file holds the events so far. -/
theorem document_open (running : ¬ h.Closed) : document setup h = events setup h := by
  rw [document, if_neg running, List.append_nil]

/-- The text of a record; `dump` is the serializer of the JSON library. -/
def Record.text (dump : Event → List Char) : Record → List Char
  | .header => "\x7b\"traceEvents\":[".toList
  | .event comma written => (if comma then [','] else []) ++ dump written
  | .trailer droppedEvents =>
    "],\"displayTimeUnit\":\"ms\",\"otherData\":\x7b\"droppedEvents\":".toList ++
      (toString droppedEvents).toList ++ "\x7d\x7d".toList

theorem text_next (dump : Event → List Char) (written : Event) :
    Record.text dump (.event true written) = ',' :: dump written := rfl

theorem text_first (dump : Event → List Char) (written : Event) :
    Record.text dump (.event false written) = dump written := rfl

/-- Events are separated by commas, none before the first. -/
theorem intercalate_text (dump : Event → List Char) (first : Event) (rest : List Event) :
    List.intercalate [','] ((first :: rest).map dump) =
      dump first ++ (rest.map (Record.event true)).flatMap (Record.text dump) := by
  induction rest generalizing first with
  | nil => simp [List.intercalate]
  | cons second rest ih =>
    have later := ih second
    rw [List.map_cons] at later
    rw [List.map_cons, List.map_cons, List.intercalate_cons_cons, later, List.map_cons,
      List.flatMap_cons, text_next, List.append_assoc, List.singleton_append, List.cons_append]

/-- The file reads as one JSON object: a comma between any two events and nowhere else. -/
theorem document_text (dump : Event → List Char) (setup : Setup) (h : History θ) :
    (document setup h).flatMap (Record.text dump) =
      Record.text dump .header ++
        List.intercalate [','] ((.processName setup.processId setup.application ::
          h.ended.map (endedEvent setup)).map dump) ++
        if h.Closed then Record.text dump (.trailer h.dropped) else [] := by
  have between := intercalate_text dump (.processName setup.processId setup.application)
    (h.ended.map (endedEvent setup))
  rw [List.map_map] at between
  have last : (if h.Closed then [Record.trailer h.dropped] else []).flatMap (Record.text dump) =
      if h.Closed then Record.text dump (.trailer h.dropped) else [] := by
    split
    · rw [List.flatMap_singleton]
    · rfl
  rw [document, events, List.flatMap_append, List.flatMap_append, last, between, List.flatMap_cons,
    List.flatMap_singleton, text_first]
  simp only [List.append_assoc, Function.comp_def]

theorem not_closed (going : h.finishing = false) : ¬ h.Closed := by
  intro closed
  exact Bool.false_ne_true (going.symm.trans closed.1)

end

variable {θ : Type} [LinearOrder θ]

/-! ## The member functions -/

namespace DiagnosticState
variable (s : DiagnosticState θ)

/-- `begin_scope` in three outcomes: dropped, on a known track, on a new one. -/
theorem beginScope_cases (opened : s.traceOpen = true) (closing : s.closing = false)
    (intact : s.failed = false) (thread : θ) :
    ((s.setup.traceEventLimit ≤ s.admitted ∨
        s.threads.find thread = none ∧ traceThreadLimit ≤ s.threads.size) ∧
      s.beginScope thread = ({ s with dropped := s.dropped + 1 }, none)) ∨
    (∃ track, s.threads.find thread = some track ∧ s.admitted < s.setup.traceEventLimit ∧
      s.beginScope thread =
        ({ s with active := s.active + 1, admitted := s.admitted + 1 }, some track)) ∨
    (s.threads.find thread = none ∧ s.admitted < s.setup.traceEventLimit ∧
      s.threads.size < traceThreadLimit ∧
      s.beginScope thread =
        ({ s with
            threads := s.threads.emplace thread (s.threads.size + 1)
            active := s.active + 1
            admitted := s.admitted + 1 }, some (s.threads.size + 1))) := by
  unfold beginScope
  rw [if_neg (by simp [opened, closing, intact])]
  by_cases reached : s.setup.traceEventLimit ≤ s.admitted
  · rw [if_pos reached]
    exact .inl ⟨.inl reached, rfl⟩
  · have room : s.admitted < s.setup.traceEventLimit := by omega
    rw [if_neg reached]
    cases found : s.threads.find thread with
    | some track => exact .inr (.inl ⟨track, rfl, room, rfl⟩)
    | none =>
      by_cases full : traceThreadLimit ≤ s.threads.size
      · dsimp only
        rw [if_pos full]
        exact .inl ⟨.inr ⟨rfl, full⟩, rfl⟩
      · have space : s.threads.size < traceThreadLimit := by omega
        dsimp only
        rw [if_neg full]
        exact .inr (.inr ⟨rfl, room, space, rfl⟩)

variable {sinks : Nat → Bool} (working : ∀ n, sinks n = true)
include working

theorem operate_eq : s.operate sinks = { s with operations := s.operations + 1 } := by
  simp [operate, working]

/-- With working sinks a record is written where the last one ended. -/
theorem writeTrace_eq (record : Record) :
    s.writeTrace sinks record =
      { s with
        operations := s.operations + 1
        traceRecords := s.traceRecords ++ [record] } := by
  rw [writeTrace, operate_eq s working, if_pos (working _)]

theorem writeEvent_open (opened : s.traceOpen = true) (event : Event) :
    s.writeEvent sinks event =
      { s with
        operations := s.operations + 1
        traceRecords := s.traceRecords ++ [.event (!s.firstEvent) event]
        firstEvent := false } := by
  rw [writeEvent, if_pos opened, writeTrace_eq s working]

theorem log_eq (level : LogLevel) (message : Bytes) :
    ∃ operations logRecords, s.log sinks level message = { s with operations, logRecords } := by
  unfold log
  split
  · rw [operate_eq s working]
    exact ⟨_, _, rfl⟩
  · exact ⟨_, _, rfl⟩

/-- With no scope active the trailer is written and both files are closed. -/
theorem finalize_idle (idle : s.active = 0) :
    ∃ operations, s.finalize sinks =
      ({ s with
          operations
          logOpen := false
          traceOpen := false
          traceRecords := s.traceRecords ++ if s.traceOpen then [.trailer s.dropped] else [] },
        !s.failed) := by
  unfold finalize
  rw [if_neg (not_not.mpr idle)]
  simp only [closeTrace, closeLog, operate_eq _ working, writeTrace_eq _ working]
  cases s with | mk setup operations failed logOpen traceOpen =>
  cases traceOpen <;> cases logOpen
  · exact ⟨operations, by simp⟩
  · exact ⟨operations + 1, by simp⟩
  · exact ⟨operations + 2, by simp⟩
  · exact ⟨operations + 3, by simp⟩

end DiagnosticState

/-! ## Agreement with the history -/

/-- The table of threads and the number of admitted scopes. -/
structure Admissions (table : OrderedMap θ Nat) (count : Nat) (h : History θ) : Prop where
  admitted : count = h.admitted.length
  tracks : ∀ thread track, table.find thread = some track ↔
    ∃ scope ∈ h.admitted, scope.thread = thread ∧ scope.track = track
  size : table.size = h.threads.card

/-- All but the trace file. -/
structure Counts (setup : Setup) (s : DiagnosticState θ) (h : History θ) : Prop where
  given : s.setup = setup
  enabled : s.traceEnabled = true
  intact : s.failed = false
  safe : s.nullTrace = false
  started : s.firstEvent = false
  admissions : Admissions s.threads s.admitted h
  active : s.active = h.active.length
  closing : s.closing = h.finishing
  dropped : s.dropped = h.dropped

structure Agrees (setup : Setup) (s : DiagnosticState θ) (h : History θ) : Prop
    extends Counts setup s h where
  opened : s.traceOpen = !decide h.Closed
  records : s.traceRecords = document setup h

namespace Admissions
variable {table : OrderedMap θ Nat} {count : Nat} {h : History θ}
  (admissions : Admissions table count h)
include admissions

theorem same {o : Observation θ} (none : o.admits = none) : Admissions table count (h ++ [o]) := by
  have unchanged : History.admitted (h ++ [o]) = h.admitted := by
    rw [History.admitted_snoc, none, Option.toList_none, List.append_nil]
  constructor
  · rw [unchanged]
    exact admissions.admitted
  · rw [unchanged]
    exact admissions.tracks
  · rw [History.threads, unchanged]
    exact admissions.size

theorem find_none {thread : θ} : table.find thread = none ↔ thread ∉ h.threads := by
  rw [Option.eq_none_iff_forall_ne_some, History.mem_threads]
  constructor
  · intro absent given
    obtain ⟨scope, member, who⟩ := given
    exact absent scope.track ((admissions.tracks thread scope.track).mpr ⟨scope, member, who, rfl⟩)
  · intro absent track found
    obtain ⟨scope, member, who, -⟩ := (admissions.tracks thread track).mp found
    exact absent ⟨scope, member, who⟩

theorem known {scope : Scope θ} (found : table.find scope.thread = some scope.track) :
    Admissions table (count + 1) (h ++ [Observation.admitted scope]) := by
  have present : scope.thread ∈ h.threads := by
    by_contra absent
    rw [admissions.find_none.mpr absent] at found
    cases found
  constructor
  · simp [admissions.admitted]
  · intro thread track
    rw [admissions.tracks, History.admitted_snoc]
    constructor
    · intro given
      obtain ⟨other, member, same⟩ := given
      exact ⟨other, List.mem_append_left _ member, same⟩
    · intro given
      obtain ⟨other, member, who, number⟩ := given
      rcases List.mem_append.mp member with old | new
      · exact ⟨other, old, who, number⟩
      · cases List.mem_singleton.mp new
        subst who number
        exact (admissions.tracks _ _).mp found
  · rw [History.threads_admitted, Finset.insert_eq_of_mem present]
    exact admissions.size

/-- A new thread takes the next number in the table. -/
theorem new {scope : Scope θ} (absent : table.find scope.thread = none)
    (number : scope.track = table.size + 1) :
    Admissions (table.emplace scope.thread (table.size + 1)) (count + 1)
      (h ++ [Observation.admitted scope]) := by
  have missing := admissions.find_none.mp absent
  constructor
  · simp [admissions.admitted]
  · intro thread track
    rw [OrderedMap.find_emplace _ _ _ _ absent, History.admitted_snoc]
    simp only [Observation.admits, Option.toList_some, List.mem_append, List.mem_singleton,
      or_and_right, exists_or, exists_eq_left]
    by_cases mine : thread = scope.thread
    · subst mine
      have none : ¬ ∃ other ∈ h.admitted, other.thread = scope.thread ∧ other.track = track := by
        intro given
        obtain ⟨other, member, who, -⟩ := given
        exact missing (History.mem_threads.mpr ⟨other, member, who⟩)
      simp [none, number]
    · have other : ¬ scope.thread = thread := fun same => mine same.symm
      simp [mine, other, admissions.tracks]
  · rw [OrderedMap.size_emplace _ _ _ absent, History.threads_admitted,
      Finset.card_insert_of_notMem missing, admissions.size]

end Admissions

namespace Agrees
variable {setup : Setup} {s : DiagnosticState θ} {h : History θ} (agrees : Agrees setup s h)
include agrees

theorem running (going : h.finishing = false) : s.traceOpen = true ∧ s.closing = false := by
  refine ⟨?_, by rw [agrees.closing, going]⟩
  rw [agrees.opened, decide_eq_false (not_closed going), Bool.not_false]

/-- A refused attempt is counted before `finish` and ignored after it. -/
theorem refused (thread : θ) :
    Agrees setup (if h.finishing then s else { s with dropped := s.dropped + 1 })
      (h ++ [Observation.refused thread]) := by
  have active : s.active = (History.active (h ++ [Observation.refused thread])).length := by
    rw [History.active_refused]
    exact agrees.active
  have closed : History.Closed (h ++ [Observation.refused thread]) ↔ h.Closed := by
    simp [History.Closed, History.active_refused]
  have closing : s.closing = History.finishing (h ++ [Observation.refused thread]) := by
    simpa using agrees.closing
  have opened : s.traceOpen = !decide (History.Closed (h ++ [Observation.refused thread])) := by
    simpa only [closed] using agrees.opened
  have ended : events setup (h ++ [Observation.refused thread]) = events setup h := events_same rfl
  have dropped := History.dropped_snoc h (.refused thread)
  cases going : h.finishing with
  | true =>
    rw [if_neg (by simp [going])] at dropped
    have records : s.traceRecords = document setup (h ++ [Observation.refused thread]) := by
      simpa only [document, closed, ended, dropped] using agrees.records
    exact { agrees with
      admissions := agrees.admissions.same rfl, active, closing, opened, records
      dropped := agrees.dropped.trans dropped.symm }
  | false =>
    rw [if_pos (by simp [going])] at dropped
    have records : s.traceRecords = document setup (h ++ [Observation.refused thread]) := by
      rw [agrees.records, document_open (not_closed going),
        document_open (mt closed.mp (not_closed going)), ended]
    exact { agrees with
      admissions := agrees.admissions.same rfl, active, closing, opened, records
      dropped := (congrArg (· + 1) agrees.dropped).trans dropped.symm }

theorem entered {scope : Scope θ} {table : OrderedMap θ Nat} (going : h.finishing = false)
    (fresh : scope ∉ h.endedScopes)
    (admissions : Admissions table (s.admitted + 1) (h ++ [Observation.admitted scope])) :
    Agrees setup { s with threads := table, active := s.active + 1, admitted := s.admitted + 1 }
      (h ++ [Observation.admitted scope]) := by
  have still : History.finishing (h ++ [Observation.admitted scope]) = false := by
    simpa using going
  have dropped : History.dropped (h ++ [Observation.admitted scope]) = h.dropped := by
    rw [History.dropped_snoc, if_neg (by simp)]
  have records : s.traceRecords = document setup (h ++ [Observation.admitted scope]) := by
    rw [agrees.records, document_open (not_closed going), document_open (not_closed still),
      events_same rfl]
  obtain ⟨opened, closing⟩ := agrees.running going
  exact { agrees with
    admissions, records
    active := by simp [History.active_admitted fresh, agrees.active]
    closing := closing.trans still.symm
    opened := by simpa [not_closed still] using opened
    dropped := agrees.dropped.trans dropped.symm }

/-- Only the sinks and the ordinary log have changed. -/
theorem logged (operations : Nat) (logOpen : Bool) (logRecords : List (LogLevel × Bytes)) :
    Agrees setup { s with operations, logOpen, logRecords } h :=
  { agrees with }

/-- The limits of the code are the limits of the history. -/
theorem full_iff (thread : θ) :
    h.Full setup.traceEventLimit thread ↔ s.setup.traceEventLimit ≤ s.admitted ∨
      s.threads.find thread = none ∧ traceThreadLimit ≤ s.threads.size := by
  rw [History.Full, agrees.given, agrees.admissions.admitted, agrees.admissions.size,
    agrees.admissions.find_none]

/-- `begin_scope` admits exactly when no limit stands against it. -/
theorem beginScope (thread : θ) :
    (∃ s', s.beginScope thread = (s', none) ∧
      (h.finishing = false → h.Full setup.traceEventLimit thread) ∧
      Agrees setup s' (h ++ [Observation.refused thread])) ∨
    ∃ s' track, s.beginScope thread = (s', some track) ∧ h.finishing = false ∧
      ¬ h.Full setup.traceEventLimit thread ∧ h.Tracked thread track ∧
      ∀ scope : Scope θ, scope.thread = thread → scope.track = track → scope ∉ h.endedScopes →
        Agrees setup s' (h ++ [Observation.admitted scope]) := by
  have table := agrees.admissions
  have refused := agrees.refused thread
  cases going : h.finishing with
  | true =>
    rw [going, if_pos rfl] at refused
    have ignored : s.beginScope thread = (s, none) := by
      rw [DiagnosticState.beginScope, if_pos (by simp [agrees.closing, going])]
    exact .inl ⟨s, ignored, nofun, refused⟩
  | false =>
    rw [going, if_neg Bool.false_ne_true] at refused
    obtain ⟨opened, closing⟩ := agrees.running going
    rw [agrees.full_iff]
    rcases s.beginScope_cases opened closing agrees.intact thread with
      ⟨full, counted⟩ | ⟨track, found, room, admitted⟩ | ⟨found, room, space, admitted⟩
    · exact .inl ⟨_, counted, fun _ => full, refused⟩
    · obtain ⟨other, member, who, number⟩ := (table.tracks thread track).mp found
      refine .inr ⟨_, track, admitted, rfl, ?_, .inl ⟨other, member, who, number⟩, ?_⟩
      · simp [found, room]
      · intro scope who number fresh
        subst who number
        exact agrees.entered going fresh (table.known found)
    · have absent := table.find_none.mp found
      refine .inr ⟨_, s.threads.size + 1, admitted, rfl, ?_, .inr ⟨absent, by rw [table.size]⟩, ?_⟩
      · simp [room, space]
      · intro scope who number fresh
        subst who
        exact agrees.entered going fresh (table.new found number)

end Agrees

/-- `finalize` waits for active scopes and closes the file when there are none. -/
theorem Counts.finalize {setup : Setup} {s : DiagnosticState θ} {h : History θ}
    {sinks : Nat → Bool} (working : ∀ n, sinks n = true) (counts : Counts setup s h)
    (finishing : h.finishing = true)
    (file : s.traceOpen = true ∧ s.traceRecords = events setup h ∨
      s.traceOpen = false ∧ h.Closed ∧ s.traceRecords = document setup h) :
    Agrees setup (s.finalize sinks).1 h ∧ ((s.finalize sinks).2 = true ↔ h.active = []) := by
  by_cases idle : h.active = []
  · have closed : h.Closed := ⟨finishing, idle⟩
    have none : s.active = 0 := by rw [counts.active, idle, List.length_nil]
    obtain ⟨operations, done⟩ := s.finalize_idle working none
    rw [done]
    constructor
    · refine { counts with opened := by simp [closed], records := ?_ }
      rcases file with ⟨opened, records⟩ | ⟨shut, -, records⟩
      · simp only [records, opened, counts.dropped, document, closed, if_true]
      · simp only [records, shut, Bool.false_eq_true, if_false, List.append_nil]
    · simp [counts.intact, idle]
  · have busy : s.active ≠ 0 := by
      rw [counts.active]
      exact mt List.length_eq_zero_iff.mp idle
    have notClosed : ¬ h.Closed := fun closed => idle closed.2
    rw [DiagnosticState.finalize, if_pos busy]
    constructor
    · rcases file with ⟨opened, records⟩ | ⟨-, closed, -⟩
      · exact { counts with
          opened := by simp [opened, notClosed]
          records := by rw [records, document_open notClosed] }
      · exact absurd closed notClosed
    · simp [idle]

namespace Agrees
variable {setup : Setup} {s : DiagnosticState θ} {h : History θ} {sinks : Nat → Bool}

/-- `finish` succeeds exactly if no scope is active. -/
theorem finish (working : ∀ n, sinks n = true) (agrees : Agrees setup s h) (result : Bool) :
    Agrees setup (s.finish sinks).1 (h ++ [Observation.finished result]) ∧
      ((s.finish sinks).2 = true ↔ h.active = []) := by
  have active := History.active_finished h result
  have dropped : History.dropped (h ++ [Observation.finished result]) = h.dropped := by
    rw [History.dropped_snoc, if_neg (by simp)]
  have counts : Counts setup { s with closing := true } (h ++ [Observation.finished result]) :=
    { agrees with
      admissions := agrees.admissions.same rfl
      active := by rw [active]; exact agrees.active
      closing := by simp
      dropped := agrees.dropped.trans dropped.symm }
  have done := counts.finalize working (by simp) ?_
  · rwa [active] at done
  by_cases closed : h.Closed
  · have still : History.Closed (h ++ [Observation.finished result]) :=
      ⟨by simp, active.trans closed.2⟩
    refine .inr ⟨by simp [agrees.opened, closed], still, ?_⟩
    rw [document, if_pos still, dropped, events_same rfl]
    exact agrees.records.trans (by rw [document, if_pos closed])
  · refine .inl ⟨by simp [agrees.opened, closed], ?_⟩
    rw [events_same rfl]
    exact agrees.records.trans (document_open closed)

/-- The end of a scope writes its event, and the last one closes the file if a finish is waiting.
-/
theorem endScope (working : ∀ n, sinks n = true) (agrees : Agrees setup s h)
    (distinct : h.active.Nodup) {scope : Scope θ} (member : scope ∈ h.active) (stop : Int) :
    Agrees setup (s.endScope sinks scope.name scope.track scope.start stop)
      (h ++ [Observation.ended scope stop]) := by
  have busy : ¬ h.Closed := by
    intro closed
    rw [closed.2] at member
    cases member
  have opened : s.traceOpen = true := by
    rw [agrees.opened, decide_eq_false busy, Bool.not_false]
  have fewer : s.active - 1 = (History.active (h ++ [Observation.ended scope stop])).length := by
    rw [History.active_ended, agrees.active, ← List.length_erase_of_mem member,
      distinct.erase_eq_filter]
  have dropped : History.dropped (h ++ [Observation.ended scope stop]) = h.dropped := by
    rw [History.dropped_snoc, if_neg (by simp)]
  have written : s.traceRecords ++
      [.event true (completeEvent s.setup scope.name scope.track scope.start stop)] =
        events setup (h ++ [Observation.ended scope stop]) := by
    rw [agrees.records, document_open busy, agrees.given]
    simp [events, endedEvent]
  unfold DiagnosticState.endScope
  rw [s.writeEvent_open working opened, agrees.started]
  have counts : Counts setup
      { s with
        operations := s.operations + 1
        traceRecords := s.traceRecords ++
          [.event true (completeEvent s.setup scope.name scope.track scope.start stop)]
        firstEvent := false
        active := s.active - 1 } (h ++ [Observation.ended scope stop]) :=
    { agrees with
      started := rfl
      admissions := agrees.admissions.same rfl
      active := fewer
      closing := by simpa using agrees.closing
      dropped := agrees.dropped.trans dropped.symm }
  cases going : h.finishing with
  | true =>
    have closing : s.closing = true := agrees.closing.trans going
    have done := counts.finalize working (by simp [going]) (.inl ⟨opened, written⟩)
    simpa [closing] using done.1
  | false =>
    have closing : s.closing = false := agrees.closing.trans going
    have running : ¬ History.Closed (h ++ [Observation.ended scope stop]) :=
      not_closed (by simp [going])
    have done : Agrees setup _ _ := { counts with
      opened := by simp [opened, running]
      records := written.trans (document_open running).symm }
    simpa [closing] using done

end Agrees

end PipeForge.Diagnostics
