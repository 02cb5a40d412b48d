import PipeForge.Domain.Accounting

/-!
# A store is a view of its history

The abstract store is the list of executed operations with their outcomes. A
value is what an earlier `put_value` returned under its identifier; an object is
replayed from the factory result through the method calls that returned a value.

`Mirrors` relates the concrete maps, with their clone-and-swap updates, to that
history. One step of `execute` extends both sides alike (`effect_replay`), other
sessions extend the history with events the session does not see, so the relation
holds along every run.
-/

namespace PipeForge.Domain
open Contracts Library

/-! ## Reading events -/

/-- The identifier a successful allocation returned. -/
def Event.allocates (event : Event) : Option UInt64 :=
  match event.operation, event.outcome with
  | .putValue _, .valueRecord record => some record.id
  | .createObject _ _, .object snapshot => some snapshot.id
  | _, _ => none

/-- The identifiers of a history in execution order. -/
def allocated (history : List Event) : List UInt64 := history.filterMap Event.allocates

/-- What an event did to the object `id` of a session. -/
inductive Touch where
  | creates (className : Bytes) (arguments : List NamedValue)
  | releases
  | invokes (name : Bytes) (arguments : List NamedValue)
  | other
  deriving DecidableEq, Repr

def Event.touch (session : Nat) (id : UInt64) (event : Event) : Touch :=
  if event.session ≠ session then .other
  else
    match event.operation, event.outcome with
    | .createObject className arguments, .object snapshot =>
      if snapshot.id = id then .creates className arguments else .other
    | .releaseObject target, .released => if target = id then .releases else .other
    | .invokeMethod target name arguments, .value _ =>
      if target = id then .invokes name arguments else .other
    | _, _ => .other

/-- `put_value(data)` was executed in the session and returned `id`. -/
def PutReturned (history : List Event) (session : Nat) (id : UInt64) (data : Value) : Prop :=
  ∃ event ∈ history, event.session = session ∧ event.operation = .putValue data ∧
    event.allocates = some id

/-- The registered class and the factory result for given arguments. -/
def construct (registry : ClassRegistry) (className : Bytes) (arguments : List NamedValue) :
    Option (ClassDefinition × Object) :=
  match registry.find className with
  | none => none
  | some definition =>
    match definition.create with
    | none => none
    | some factory =>
      match factory arguments with
      | .ok (some created) => some (definition, created)
      | _ => none

theorem construct_name {registry : ClassRegistry} {className : Bytes} {arguments : List NamedValue}
    {definition : ClassDefinition} {created : Object}
    (constructed : construct registry className arguments = some (definition, created)) :
    definition.name = className := by
  unfold construct at constructed
  split at constructed
  · cases constructed
  · rename_i found
    split at constructed
    · cases constructed
    · split at constructed
      · cases constructed
        exact (ClassRegistry.find_mem found).2
      · cases constructed

/-- The object as the calls leave it. -/
def afterCalls (created : Object) (calls : List (Bytes × List NamedValue)) : Object :=
  calls.foldl (fun current call => (current.invoke call.1 call.2).2) created

/-- The calls on an object that returned a value, in order. -/
def successfulCalls (session : Nat) (id : UInt64) (history : List Event) :
    List (Bytes × List NamedValue) :=
  history.filterMap fun event =>
    match event.touch session id with
    | .invokes name arguments => some (name, arguments)
    | _ => none

/-- A creation of class `className` that returned `id` and no release since. -/
structure Unreleased (history : List Event) (session : Nat) (id : UInt64) (className : Bytes)
    (arguments : List NamedValue) (later : List Event) : Prop where
  created : ∃ earlier event, history = earlier ++ event :: later ∧
    event.touch session id = .creates className arguments
  kept : ∀ event ∈ later, event.touch session id ≠ .releases

/-- The history says that `id` is an object of `className` in state `state`. -/
def ObjectHistory (registry : ClassRegistry) (history : List Event) (session : Nat) (id : UInt64)
    (className : Bytes) (state : List NamedValue) : Prop :=
  ∃ arguments later definition created, Unreleased history session id className arguments later ∧
    construct registry className arguments = some (definition, created) ∧
    state = (afterCalls created (successfulCalls session id later)).state

/-! ## Replay -/

def replayTouch (registry : ClassRegistry) (current : Option (ClassDefinition × Object)) :
    Touch → Option (ClassDefinition × Object)
  | .creates className arguments => construct registry className arguments
  | .releases => none
  | .invokes name arguments =>
    current.map fun live => (live.1, (live.2.invoke name arguments).2)
  | .other => current

def replay (registry : ClassRegistry) (session : Nat) (id : UInt64) (history : List Event) :
    Option (ClassDefinition × Object) :=
  history.foldl (fun current event => replayTouch registry current (event.touch session id)) none

/-- The fate of an object may be replayed in parts. -/
theorem replay_append (registry : ClassRegistry) (session : Nat) (id : UInt64)
    (history later : List Event) :
    replay registry session id (history ++ later) =
      later.foldl (fun current event => replayTouch registry current (event.touch session id))
        (replay registry session id history) := by
  rw [replay, List.foldl_append]
  rfl

/-- An object begins with the creation that drew its identifier. -/
theorem touch_creates {session : Nat} {id : UInt64} {event : Event} {className : Bytes}
    {arguments : List NamedValue} (creates : event.touch session id = .creates className arguments) :
    event.session = session ∧ event.operation = .createObject className arguments ∧
      event.allocates = some id := by
  unfold Event.touch at creates
  split at creates
  · cases creates
  · rename_i same
    unfold Event.allocates
    split at creates
    · rename_i operation outcome
      split at creates
      · rename_i issued
        cases creates
        rw [operation, outcome]
        exact ⟨not_not.mp same, rfl, congrArg some issued⟩
      · cases creates
    · split at creates <;> cases creates
    · split at creates <;> cases creates
    · cases creates

/-- While nothing creates or releases the object again, replay applies exactly the
successful calls. -/
theorem replay_calls (registry : ClassRegistry) (session : Nat) (id : UInt64)
    (definition : ClassDefinition) (created : Object) (later : List Event)
    (kept : ∀ event ∈ later, event.touch session id ≠ .releases)
    (unique : ∀ event ∈ later, event.allocates ≠ some id) :
    later.foldl (fun current event => replayTouch registry current (event.touch session id))
        (some (definition, created)) =
      some (definition, afterCalls created (successfulCalls session id later)) := by
  induction later generalizing created with
  | nil => rfl
  | cons event rest ih =>
    have restKept := fun other member => kept other (List.mem_cons_of_mem event member)
    have restUnique := fun other member => unique other (List.mem_cons_of_mem event member)
    cases touched : event.touch session id with
    | creates className arguments =>
      exact absurd (touch_creates touched).2.2 (unique event List.mem_cons_self)
    | releases => exact absurd touched (kept event List.mem_cons_self)
    | invokes name arguments =>
      simp only [List.foldl_cons, touched, replayTouch, Option.map_some, successfulCalls,
        List.filterMap_cons, afterCalls]
      exact ih _ restKept restUnique
    | other =>
      simp only [List.foldl_cons, touched, replayTouch, successfulCalls, List.filterMap_cons]
      exact ih _ restKept restUnique

/-- Replay from the creation of an object on. -/
theorem replay_created {registry : ClassRegistry} {session : Nat} {id : UInt64}
    {earlier later : List Event} {event : Event} {className : Bytes} {arguments : List NamedValue}
    {definition : ClassDefinition} {created : Object}
    (creates : event.touch session id = .creates className arguments)
    (constructed : construct registry className arguments = some (definition, created))
    (kept : ∀ other ∈ later, other.touch session id ≠ .releases)
    (unique : ∀ other ∈ later, other.allocates ≠ some id) :
    replay registry session id (earlier ++ event :: later) =
      some (definition, afterCalls created (successfulCalls session id later)) := by
  rw [replay_append, List.foldl_cons, creates]
  simp only [replayTouch, constructed]
  exact replay_calls registry session id definition created later kept unique

/-- Whatever replay yields was created once and not released since. -/
theorem replay_some (registry : ClassRegistry) (session : Nat) (id : UInt64) (history : List Event)
    (definition : ClassDefinition) (object : Object)
    (replayed : replay registry session id history = some (definition, object)) :
    ∃ className arguments later created,
      Unreleased history session id className arguments later ∧
      construct registry className arguments = some (definition, created) ∧
      object = afterCalls created (successfulCalls session id later) := by
  induction history using List.reverseRecOn generalizing object with
  | nil => cases replayed
  | append_singleton history event ih =>
    rw [replay_append] at replayed
    simp only [List.foldl_cons, List.foldl_nil] at replayed
    -- An event that is neither creation nor release extends the calls of the
    -- decomposition found for the shorter history.
    have extend : ∀ live : Object, event.touch session id ≠ .releases →
        replay registry session id history = some (definition, live) →
        afterCalls live (successfulCalls session id [event]) = object →
        ∃ className arguments later created,
          Unreleased (history ++ [event]) session id className arguments later ∧
          construct registry className arguments = some (definition, created) ∧
          object = afterCalls created (successfulCalls session id later) := by
      intro live untouched before applied
      obtain ⟨className, arguments, later, created, ⟨⟨earlier, creation, split, creates⟩, kept⟩,
        constructed, rfl⟩ := ih live before
      refine ⟨className, arguments, later ++ [event], created,
        ⟨⟨earlier, creation, ?_, creates⟩, ?_⟩, constructed, ?_⟩
      · rw [split]
        simp
      · intro other member
        rcases List.mem_append.mp member with old | new
        · exact kept other old
        · rw [List.mem_singleton.mp new]
          exact untouched
      · rw [← applied]
        simp only [successfulCalls, afterCalls, List.filterMap_append, List.foldl_append]
    cases touched : event.touch session id with
    | creates className arguments =>
      simp only [touched, replayTouch] at replayed
      exact ⟨className, arguments, [], object, ⟨⟨history, event, rfl, touched⟩, by simp⟩, replayed,
        rfl⟩
    | releases =>
      simp only [touched, replayTouch] at replayed
      cases replayed
    | invokes name arguments =>
      simp only [touched, replayTouch, Option.map_eq_some_iff, Prod.mk.injEq] at replayed
      obtain ⟨⟨former, live⟩, before, rfl, rfl⟩ := replayed
      refine extend live (by simp [touched]) before ?_
      simp [successfulCalls, touched, afterCalls]
    | other =>
      simp only [touched, replayTouch] at replayed
      refine extend object (by simp [touched]) replayed ?_
      simp [successfulCalls, touched, afterCalls]

/-! ## One executed operation -/

section
variable {registry : ClassRegistry} {store : SessionStore} {ids : IdentifierSource}
  {operation : Operation} {done : Executed}

theorem touch_failed (session owner : Nat) (id : UInt64) (operation : Operation)
    (error : RemoteError) :
    Event.touch session id ⟨owner, operation, .error error⟩ = .other := by
  unfold Event.touch
  split
  · rfl
  · cases operation <;> rfl

theorem touch_read (session owner : Nat) (id : UInt64) {operation : Operation}
    (outcome : Outcome) (reads : Operation.reads operation = true) :
    Event.touch session id ⟨owner, operation, outcome⟩ = .other := by
  unfold Event.touch
  split
  · rfl
  · cases operation <;> first | rfl | cases reads

theorem allocates_failed (owner : Nat) (operation : Operation) (error : RemoteError) :
    Event.allocates ⟨owner, operation, .error error⟩ = none := by
  cases operation <;> rfl

theorem allocates_read (owner : Nat) {operation : Operation} (outcome : Outcome)
    (reads : Operation.reads operation = true) :
    Event.allocates ⟨owner, operation, outcome⟩ = none := by
  cases operation <;> first | rfl | cases reads

/-- Either nothing was drawn from the source, or the event returned the draw. -/
theorem effect_allocates (session : Nat) (effect : Effect registry store ids operation done) :
    (Event.allocates ⟨session, operation, done.outcome⟩ = none ∧ done.ids = ids) ∨
      ∃ id, Event.allocates ⟨session, operation, done.outcome⟩ = some id ∧
        ids.next = (some id, done.ids) := by
  cases effect with
  | failed operation code => exact Or.inl ⟨allocates_failed session operation _, rfl⟩
  | answered operation outcome opened reads success =>
    exact Or.inl ⟨allocates_read session outcome reads, rfl⟩
  | put data id ids' opened valid room fits drawn => exact Or.inr ⟨id, rfl, drawn⟩
  | created className arguments definition factory object id ids' opened named found matched room
      callable made shaped fits drawn => exact Or.inr ⟨id, rfl, drawn⟩
  | released => exact Or.inl ⟨rfl, rfl⟩
  | invoked => exact Or.inl ⟨rfl, rfl⟩

/-- What the object map says about an identifier. -/
def SessionStore.live (store : SessionStore) (id : UInt64) : Option (ClassDefinition × Object) :=
  (store.objects.find id).map fun entry => (entry.definition, entry.instance_)

/-- The object map changes as the event is replayed. -/
theorem effect_replay (sound : Sound registry ids store)
    (effect : Effect registry store ids operation done) (session : Nat) (id : UInt64) :
    done.store.live id = replayTouch registry (store.live id)
      (Event.touch session id ⟨session, operation, done.outcome⟩) := by
  cases effect with
  | failed operation code =>
    simp only [SessionStore.fail, touch_failed, replayTouch]
  | answered operation outcome opened reads success =>
    simp only [SessionStore.answer, touch_read session session id outcome reads, replayTouch]
  | put data drawnId ids' opened valid room fits drawn =>
    simp only [Event.touch, ne_eq, not_true_eq_false, if_false, replayTouch, SessionStore.live]
  | created className arguments definition factory object drawnId ids' opened named found matched
      room callable made shaped fits drawn =>
    have absent := (sound.fresh drawn).2
    simp only [Event.touch, ne_eq, not_true_eq_false, if_false, SessionStore.live,
      OrderedMap.find_emplace _ _ _ _ absent]
    by_cases same : drawnId = id
    · subst same
      simp [replayTouch, construct, found, callable, made]
    · simp [replayTouch, same, Ne.symm same]
  | released target entry opened nonzero found =>
    simp only [Event.touch, ne_eq, not_true_eq_false, if_false, SessionStore.live,
      OrderedMap.find_erase]
    by_cases same : target = id
    · simp [replayTouch, same]
    · simp [replayTouch, same, Ne.symm same]
  | invoked target name arguments entry method data candidate opened nonzero named found declared
      matched called valid kind shaped fits =>
    have present : (store.objects.find target).isSome := by simp [found]
    simp only [Event.touch, ne_eq, not_true_eq_false, if_false, SessionStore.live,
      OrderedMap.find_assign _ _ _ _ present]
    by_cases same : target = id
    · subst same
      simp [replayTouch, found, called]
    · simp [replayTouch, same, Ne.symm same]

/-- The value map gains exactly what the event returned. -/
theorem effect_values (sound : Sound registry ids store)
    (effect : Effect registry store ids operation done) (session : Nat) (id : UInt64)
    (data : Value) :
    done.store.values.find id = some data ↔ store.values.find id = some data ∨
      (operation = .putValue data ∧
        Event.allocates ⟨session, operation, done.outcome⟩ = some id) := by
  cases effect with
  | failed operation code => simp [SessionStore.fail, allocates_failed]
  | answered operation outcome opened reads success =>
    simp [SessionStore.answer, allocates_read session outcome reads]
  | put stored drawnId ids' opened valid room fits drawn =>
    have absent := (sound.fresh drawn).1
    simp only [OrderedMap.find_emplace _ _ _ _ absent, Event.allocates, Operation.putValue.injEq,
      Option.some.injEq]
    by_cases same : id = drawnId
    · subst same
      simp [absent]
    · simp [same, Ne.symm same]
  | created => simp
  | released => simp
  | invoked => simp

theorem effect_closed (effect : Effect registry store ids operation done) :
    done.store.closed = store.closed ∧
      (store.closed = true → done.store = store ∧ done.ids = ids) := by
  cases effect with
  | failed => exact ⟨rfl, fun _ => ⟨rfl, rfl⟩⟩
  | answered => exact ⟨rfl, fun _ => ⟨rfl, rfl⟩⟩
  | put data id ids' opened =>
    exact ⟨rfl, fun closed => absurd closed (by simp [opened])⟩
  | created className arguments definition factory object id ids' opened =>
    exact ⟨rfl, fun closed => absurd closed (by simp [opened])⟩
  | released id entry opened => exact ⟨rfl, fun closed => absurd closed (by simp [opened])⟩
  | invoked id name arguments entry method data candidate opened =>
    exact ⟨rfl, fun closed => absurd closed (by simp [opened])⟩

end

/-! ## Whole runs -/

/-- The maps of an open session are the view of its history; those of a closed one
are empty. -/
structure Mirrors (registry : ClassRegistry) (history : List Event) (session : Nat)
    (store : SessionStore) : Prop where
  values : store.closed = false → ∀ id data,
    store.values.find id = some data ↔ PutReturned history session id data
  objects : store.closed = false → ∀ id, store.live id = replay registry session id history
  emptied : store.closed = true → store.values = .empty ∧ store.objects = .empty ∧ store.used = 0

/-- The invariant that ties a world to the history of the run that led to it. -/
structure Recorded (registry : ClassRegistry) (w : World) (history : List Event) : Prop where
  sound : World.AllSound registry w
  increasing : (allocated history).Pairwise (· < ·)
  issued : ∀ id ∈ allocated history, w.ids.issued id
  known : ∀ event ∈ history, event.session < w.sessions.length
  mirrors : ∀ (session : Nat) (store : SessionStore), w.sessions[session]? = some store →
    Mirrors registry history session store

/-- A session that holds an object is open. -/
theorem Recorded.opened {registry : ClassRegistry} {w : World} {history : List Event}
    (recorded : Recorded registry w history) {session : Nat} {store : SessionStore}
    (reached : w.sessions[session]? = some store) {id : UInt64} {entry : StoredObject}
    (found : store.objects.find id = some entry) : store.closed = false := by
  by_contra shut
  rw [((recorded.mirrors session store reached).emptied (by simpa using shut)).2.1] at found
  cases found

private theorem replay_unseen (registry : ClassRegistry) (session : Nat) (id : UInt64)
    (history : List Event) (event : Event) (unseen : event.session ≠ session) :
    replay registry session id (history ++ [event]) = replay registry session id history := by
  simp [replay_append, Event.touch, unseen, replayTouch]

private theorem putReturned_append (history : List Event) (session : Nat) (id : UInt64)
    (data : Value) (event : Event) :
    PutReturned (history ++ [event]) session id data ↔ PutReturned history session id data ∨
      (event.session = session ∧ event.operation = .putValue data ∧
        event.allocates = some id) := by
  unfold PutReturned
  simp only [List.mem_append, List.mem_singleton]
  constructor
  · rintro ⟨found, old | rfl, facts⟩
    · exact Or.inl ⟨found, old, facts⟩
    · exact Or.inr facts
  · rintro (⟨found, old, facts⟩ | facts)
    · exact ⟨found, Or.inl old, facts⟩
    · exact ⟨event, Or.inr rfl, facts⟩

/-- Events of other sessions do not change what a session's history says. -/
theorem Mirrors.unseen {registry : ClassRegistry} {history : List Event} {session : Nat}
    {store : SessionStore} (mirrors : Mirrors registry history session store) (event : Event)
    (unseen : event.session ≠ session) :
    Mirrors registry (history ++ [event]) session store where
  values opened id data := by
    rw [putReturned_append, mirrors.values opened id data]
    simp [unseen]
  objects opened id := by
    rw [replay_unseen registry session id history event unseen]
    exact mirrors.objects opened id
  emptied := mirrors.emptied

/-- A fresh session has no history. -/
theorem mirrors_create (registry : ClassRegistry) (history : List Event) (session : Nat)
    (unknown : ∀ event ∈ history, event.session ≠ session) (limits : SessionLimits) :
    Mirrors registry history session (SessionStore.create limits) where
  values _ id data := by
    constructor
    · intro found
      cases found
    · rintro ⟨event, member, owner, -⟩
      exact absurd owner (unknown event member)
  objects _ id := by
    symm
    change replay registry session id history = none
    induction history using List.reverseRecOn with
    | nil => rfl
    | append_singleton history event ih =>
      rw [replay_unseen registry session id history event (unknown event (by simp))]
      exact ih fun other member => unknown other (by simp [member])
  emptied closed := by cases closed

/-- One operation keeps the contents in step with the history. -/
theorem effect_mirrors {registry : ClassRegistry} {ids : IdentifierSource} {store : SessionStore}
    {operation : Operation} {done : Executed} {history : List Event} {session : Nat}
    (sound : Sound registry ids store) (mirrors : Mirrors registry history session store)
    (effect : Effect registry store ids operation done) :
    Mirrors registry (history ++ [⟨session, operation, done.outcome⟩]) session done.store where
  values opened id data := by
    rw [(effect_closed effect).1] at opened
    rw [effect_values sound effect session, putReturned_append, mirrors.values opened id data]
    simp
  objects opened id := by
    rw [(effect_closed effect).1] at opened
    rw [effect_replay sound effect session, mirrors.objects opened id, replay_append]
    rfl
  emptied closed := by
    rw [(effect_closed effect).1] at closed
    rw [((effect_closed effect).2 closed).1]
    exact mirrors.emptied closed

private theorem allocated_append (history : List Event) (event : Event) :
    allocated (history ++ [event]) = allocated history ++ (Event.allocates event).toList := by
  cases issued : event.allocates <;> simp [allocated, issued]

/-- A drawn identifier is above everything issued before. -/
theorem issued_lt_next {ids ids' : IdentifierSource} {id old : UInt64}
    (drawn : ids.next = (some id, ids')) (issued : ids.issued old) : old < id := by
  obtain ⟨rfl, live, -⟩ := IdentifierSource.next_spec drawn
  exact issued.2.resolve_left live

/-- One operation of one session keeps the record of all, since identifiers are not reused. -/
theorem effect_recorded {registry : ClassRegistry} {w : World} {history : List Event}
    {session : Nat} {store : SessionStore} {operation : Operation} {done : Executed}
    (recorded : Recorded registry w history) (owner : w.sessions[session]? = some store)
    (effect : Effect registry store w.ids operation done)
    (sound : World.AllSound registry ⟨done.ids, w.sessions.set session done.store⟩) :
    Recorded registry ⟨done.ids, w.sessions.set session done.store⟩
      (history ++ [⟨session, operation, done.outcome⟩]) := by
  have storeSound := recorded.sound session store owner
  have advances := (effect_sound storeSound effect).2
  have inside : session < w.sessions.length := (List.getElem?_eq_some_iff.mp owner).1
  refine ⟨sound, ?_, ?_, ?_, ?_⟩
  · rw [allocated_append]
    rcases effect_allocates session effect with ⟨none, -⟩ | ⟨id, some, drawn⟩
    · simpa [none] using recorded.increasing
    · rw [some, Option.toList_some, List.pairwise_append]
      refine ⟨recorded.increasing, List.pairwise_singleton _ _, ?_⟩
      intro old member new singleton
      rw [List.mem_singleton.mp singleton]
      exact issued_lt_next drawn (recorded.issued old member)
  · intro id member
    rw [allocated_append, List.mem_append] at member
    rcases member with old | new
    · exact IdentifierSource.advances_issued advances (recorded.issued id old)
    · rcases effect_allocates session effect with ⟨none, -⟩ | ⟨drawnId, some, drawn⟩
      · simp [none] at new
      · rw [some, Option.toList_some, List.mem_singleton] at new
        rw [new]
        exact (IdentifierSource.next_spec drawn).2.2.2.1
  · intro event member
    rw [List.length_set]
    rcases List.mem_append.mp member with old | new
    · exact recorded.known event old
    · rw [List.mem_singleton.mp new]
      exact inside
  · intro other found present
    rcases World.getElem?_set_cases present with ⟨rfl, rfl⟩ | ⟨different, old⟩
    · exact effect_mirrors storeSound (recorded.mirrors other store owner) effect
    · exact (recorded.mirrors other found old).unseen _ (Ne.symm different)

theorem step_recorded {registry : ClassRegistry} {w w' : World} {history events : List Event}
    (recorded : Recorded registry w history) (taken : World.Step registry w w' events) :
    Recorded registry w' (history ++ events) := by
  have sound := World.step_sound recorded.sound taken
  cases taken with
  | idle => simpa using recorded
  | create limits =>
    rw [List.append_nil]
    refine { recorded with sound := sound, known := ?_, mirrors := ?_ }
    · intro event member
      have known := recorded.known event member
      simp only [List.length_append, List.length_singleton]
      omega
    · intro session store found
      rcases World.getElem?_create_cases found with old | ⟨rfl, rfl⟩
      · exact recorded.mirrors session store old
      · apply mirrors_create
        intro event member
        exact Nat.ne_of_lt (recorded.known event member)
  | execute session store operation done owner run =>
    have effect := execute_effect registry store w.ids operation
    rw [run] at effect
    exact effect_recorded recorded owner effect sound
  | close session store owner =>
    rw [List.append_nil]
    refine { recorded with sound := sound, known := ?_, mirrors := ?_ }
    · intro event member
      rw [List.length_set]
      exact recorded.known event member
    · intro other found present
      rcases World.getElem?_set_cases present with ⟨rfl, rfl⟩ | ⟨-, old⟩
      · exact ⟨fun opened => (by cases opened), fun opened => (by cases opened),
          fun _ => ⟨rfl, rfl, rfl⟩⟩
      · exact recorded.mirrors other found old

theorem run_recorded (registry : ClassRegistry) (first : UInt64) (actions : List Action) :
    Recorded registry (World.run registry first actions).1 (World.run registry first actions).2 := by
  have start : Recorded registry (World.start first) [] := by
    refine ⟨World.run_sound registry first [], List.Pairwise.nil, ?_, ?_, ?_⟩
    · intro id member
      cases member
    · intro event member
      cases member
    · intro session store found
      simp [World.start] at found
  have whole := Transition.run_invariant (World.step registry) (Recorded registry)
    (World.start first) [] start
    (fun w past action recorded => step_recorded recorded (World.step_spec registry w action))
    actions
  simpa [World.run] using whole

/-! ## Lookups against the history -/

theorem allocated_later {history earlier later : List Event} {event : Event} {id : UInt64}
    (increasing : (allocated history).Pairwise (· < ·)) (split : history = earlier ++ event :: later)
    (issued : event.allocates = some id) : ∀ other ∈ later, other.allocates ≠ some id := by
  intro other member again
  rw [split] at increasing
  simp only [allocated, List.filterMap_append, List.filterMap_cons, issued] at increasing
  obtain ⟨-, tail, -⟩ := List.pairwise_append.mp increasing
  have above := (List.pairwise_cons.mp tail).1 id (List.mem_filterMap.mpr ⟨other, member, again⟩)
  exact UInt64.lt_irrefl _ above

/-- Replay computes what the history says, because identifiers are never reissued. -/
theorem replay_iff {registry : ClassRegistry} {w : World} {history : List Event}
    (recorded : Recorded registry w history) (session : Nat) (id : UInt64) (className : Bytes)
    (state : List NamedValue) :
    ObjectHistory registry history session id className state ↔
      ∃ definition object, replay registry session id history = some (definition, object) ∧
        definition.name = className ∧ object.state = state := by
  constructor
  · rintro ⟨arguments, later, definition, created, ⟨⟨earlier, event, split, creates⟩, kept⟩,
      constructed, rfl⟩
    obtain ⟨-, -, issued⟩ := touch_creates creates
    have unique := allocated_later recorded.increasing split issued
    refine ⟨definition, _, ?_, construct_name constructed, rfl⟩
    rw [split]
    exact replay_created creates constructed kept unique
  · rintro ⟨definition, object, replayed, rfl, rfl⟩
    obtain ⟨className, arguments, later, created, unreleased, constructed, rfl⟩ :=
      replay_some registry session id history definition object replayed
    rw [construct_name constructed]
    exact ⟨arguments, later, definition, created, unreleased, constructed, rfl⟩

/-- Every lookup of a session answers what its history says. -/
structure RefinesHistory (registry : ClassRegistry) (ids : IdentifierSource) (history : List Event)
    (session : Nat) (store : SessionStore) : Prop where
  getValue : ∀ id data, id ≠ 0 →
    ((store.execute registry ids (.getValue id)).outcome = .valueRecord ⟨id, data⟩ ↔
      PutReturned history session id data)
  getValue_missing : ∀ id, id ≠ 0 → (∀ data, ¬ PutReturned history session id data) →
    (store.execute registry ids (.getValue id)).outcome = .error (makeError .notFound)
  getObject : ∀ id className state, id ≠ 0 →
    ((store.execute registry ids (.getObject id)).outcome = .object ⟨id, className, state⟩ ↔
      ObjectHistory registry history session id className state)
  getObject_missing : ∀ id, id ≠ 0 →
    (∀ className arguments later, ¬ Unreleased history session id className arguments later) →
    (store.execute registry ids (.getObject id)).outcome = .error (makeError .notFound)
  getAttribute : ∀ id name className state, id ≠ 0 → validName name false = true →
    ObjectHistory registry history session id className state →
    (store.execute registry ids (.getAttribute id name)).outcome =
      match findNamed state name with
      | some found => .value found.data
      | none => .error (makeError .notFound)
  getAttribute_missing : ∀ id name, id ≠ 0 → validName name false = true →
    (∀ className arguments later, ¬ Unreleased history session id className arguments later) →
    (store.execute registry ids (.getAttribute id name)).outcome = .error (makeError .notFound)

section
variable {registry : ClassRegistry} {w : World} {history : List Event} {session : Nat}
  {store : SessionStore}

/-- A value is found exactly if putting it returned this identifier. -/
theorem getValue_outcome (recorded : Recorded registry w history)
    (owner : w.sessions[session]? = some store) (opened : store.closed = false) (id : UInt64)
    (nonzero : id ≠ 0) :
    (∀ data, store.applyGetValue id = .valueRecord ⟨id, data⟩ ↔
      PutReturned history session id data) ∧
    ((∀ data, ¬ PutReturned history session id data) →
      store.applyGetValue id = .error (makeError .notFound)) := by
  have values := (recorded.mirrors session store owner).values opened id
  simp only [SessionStore.applyGetValue, nonzero, if_false, ← values]
  cases found : store.values.find id with
  | none => simp
  | some stored => simp

/-- An object is found in the state its history gives it, until it is released. -/
theorem getObject_outcome (recorded : Recorded registry w history)
    (owner : w.sessions[session]? = some store) (opened : store.closed = false) (id : UInt64)
    (nonzero : id ≠ 0) :
    (∀ className state, store.applyGetObject id = .object ⟨id, className, state⟩ ↔
      ObjectHistory registry history session id className state) ∧
    ((∀ className arguments later, ¬ Unreleased history session id className arguments later) →
      store.applyGetObject id = .error (makeError .notFound)) := by
  have live := (recorded.mirrors session store owner).objects opened id
  simp only [replay_iff recorded, ← live, SessionStore.live, SessionStore.applyGetObject, nonzero,
    if_false]
  cases found : store.objects.find id with
  | none => simp
  | some entry =>
    have shaped := ((recorded.sound session store owner).objects_sound id entry found).shaped
    refine ⟨?_, fun missing => ?_⟩
    · intro className state
      simp [shaped]
    · rw [SessionStore.live, found] at live
      obtain ⟨className, arguments, later, created, unreleased, -⟩ :=
        replay_some registry session id history entry.definition entry.instance_ live.symm
      exact absurd unreleased (missing className arguments later)

/-- What a session answers is determined by what has been answered before. -/
theorem recorded_refines (recorded : Recorded registry w history)
    (owner : w.sessions[session]? = some store) (opened : store.closed = false)
    (ids : IdentifierSource) : RefinesHistory registry ids history session store := by
  have objects := getObject_outcome recorded owner opened
  have values := getValue_outcome recorded owner opened
  constructor <;> simp only [SessionStore.execute, opened, Bool.false_eq_true, if_false,
    SessionStore.answer]
  · exact fun id data nonzero => (values id nonzero).1 data
  · exact fun id nonzero => (values id nonzero).2
  · exact fun id className state nonzero => (objects id nonzero).1 className state
  · exact fun id nonzero => (objects id nonzero).2
  · intro id name className state nonzero named known
    have answer := ((objects id nonzero).1 className state).mpr known
    simp only [SessionStore.applyGetAttribute, named, Bool.not_true, Bool.false_eq_true, if_false,
      answer]
    cases findNamed state name <;> rfl
  · intro id name nonzero named missing
    have answer := (objects id nonzero).2 missing
    simp only [SessionStore.applyGetAttribute, named, Bool.not_true, Bool.false_eq_true, if_false,
      answer]

end

/-! ## Closed sessions -/

theorem step_closed {registry : ClassRegistry} {w w' : World} {events : List Event}
    (taken : World.Step registry w w' events) {session : Nat}
    (closed : ∃ store, w.sessions[session]? = some store ∧ store.closed = true) :
    ∃ store, w'.sessions[session]? = some store ∧ store.closed = true := by
  obtain ⟨store, owner, shut⟩ := closed
  have inside : session < w.sessions.length := (List.getElem?_eq_some_iff.mp owner).1
  cases taken with
  | idle => exact ⟨store, owner, shut⟩
  | create limits => exact ⟨store, by rw [List.getElem?_append_left inside]; exact owner, shut⟩
  | execute target found operation done present run =>
    have effect := execute_effect registry found w.ids operation
    rw [run] at effect
    by_cases same : target = session
    · subst same
      rw [owner] at present
      cases present
      refine ⟨done.store, List.getElem?_set_self inside, ?_⟩
      rw [(effect_closed effect).1]
      exact shut
    · exact ⟨store, by rw [List.getElem?_set_ne same]; exact owner, shut⟩
  | close target found present =>
    by_cases same : target = session
    · subst same
      exact ⟨found.close, List.getElem?_set_self inside, rfl⟩
    · exact ⟨store, by rw [List.getElem?_set_ne same]; exact owner, shut⟩

/-- Once closed, a session stays closed whatever happens later. -/
theorem run_closed (registry : ClassRegistry) (first : UInt64) (actions later : List Action)
    (session : Nat) (store : SessionStore)
    (reached : (World.run registry first actions).1.sessions[session]? = some store) :
    ∃ shut, (World.run registry first (actions ++ .close session :: later)).1.sessions[session]? =
      some shut ∧ shut.closed = true := by
  have inside := (List.getElem?_eq_some_iff.mp reached).1
  simp only [World.run, Transition.run_append, Transition.run]
  apply Transition.run_invariant (World.step registry)
    (fun w _ => ∃ shut, w.sessions[session]? = some shut ∧ shut.closed = true) _ []
  · unfold World.run at reached
    simp only [World.step, reached]
    exact ⟨store.close, List.getElem?_set_self inside, rfl⟩
  · intro w past action closed
    exact step_closed (World.step_spec registry w action) closed

/-- The lookups of every open session, at any point of any interleaving, answer
what the session's own history says; a closed one denies everything forever and
holds no accounted bytes. -/
theorem store_refines_history (registry : ClassRegistry) (first : UInt64) (actions : List Action)
    (session : Nat) (store : SessionStore)
    (reached : (World.run registry first actions).1.sessions[session]? = some store) :
    (store.closed = false → RefinesHistory registry (World.run registry first actions).1.ids
      (World.run registry first actions).2 session store) ∧
    ∀ later, ∃ shut,
      (World.run registry first (actions ++ .close session :: later)).1.sessions[session]? =
        some shut ∧ shut.accountedBytes = 0 ∧
      ∀ ids operation, shut.execute registry ids operation = shut.fail ids .accessDenied := by
  refine ⟨fun opened => ?_, fun later => ?_⟩
  · exact recorded_refines (run_recorded registry first actions) reached opened _
  · obtain ⟨shut, owner, closed⟩ := run_closed registry first actions later session store reached
    have recorded := run_recorded registry first (actions ++ .close session :: later)
    refine ⟨shut, owner, ((recorded.mirrors session shut owner).emptied closed).2.2, ?_⟩
    intro ids operation
    simp [SessionStore.execute, closed]

theorem store_refines_history_counter :
    ∃ store, (World.run builtinRegistry 1 accountingRun).1.sessions[0]? = some store ∧
      store.closed = false ∧
      RefinesHistory builtinRegistry (World.run builtinRegistry 1 accountingRun).1.ids
        (World.run builtinRegistry 1 accountingRun).2 0 store :=
  ⟨_, rfl, rfl, (store_refines_history builtinRegistry 1 accountingRun 0 _ rfl).1 rfl⟩

end PipeForge.Domain
