import PipeForge.Domain.History

/-!
# Identifiers across sessions

One source numbers the values and objects of all sessions. Because the numbers
only grow, an identifier names one allocation of one session forever: presented
elsewhere, or as the other kind, it is simply not found.
-/

namespace PipeForge.Domain
open Contracts Library

/-! ## One identifier, one allocation -/

/-- No two events of a history draw the same identifier. -/
theorem allocates_unique {history : List Event} (increasing : (allocated history).Pairwise (· < ·))
    {event other : Event} {id : UInt64} (member : event ∈ history) (member' : other ∈ history)
    (issued : event.allocates = some id) (issued' : other.allocates = some id) : event = other := by
  obtain ⟨earlier, later, split⟩ := List.append_of_mem member
  have afterwards := allocated_later increasing split issued
  rw [split, List.mem_append, List.mem_cons] at member'
  rcases member' with before | rfl | behind
  · obtain ⟨front, back, split'⟩ := List.append_of_mem before
    have whole : history = front ++ other :: (back ++ event :: later) := by
      rw [split, split']
      simp
    exact absurd issued (allocated_later increasing whole issued' event (by simp))
  · rfl
  · exact absurd issued' (afterwards other behind)

/-- The object map only holds identifiers its own session's creations returned. -/
theorem live_created {registry : ClassRegistry} {w : World} {history : List Event}
    (recorded : Recorded registry w history) {session : Nat} {store : SessionStore}
    (owner : w.sessions[session]? = some store) (opened : store.closed = false) {id : UInt64}
    {entry : StoredObject} (found : store.objects.find id = some entry) :
    ∃ event ∈ history, event.session = session ∧ event.allocates = some id ∧
      ∃ className arguments, event.operation = .createObject className arguments := by
  have live := (recorded.mirrors session store owner).objects opened id
  rw [SessionStore.live, found] at live
  obtain ⟨className, arguments, later, created, unreleased, -⟩ :=
    replay_some registry session id history entry.definition entry.instance_ live.symm
  obtain ⟨earlier, event, split, creates⟩ := unreleased.created
  obtain ⟨same, operation, issued⟩ := touch_creates creates
  exact ⟨event, by simp [split], same, issued, className, arguments, operation⟩

/-! ## Presenting an identifier -/

/-- The operations that name an object by `id`, with a valid member name. -/
inductive NamesObject (id : UInt64) : Operation → Prop
  | getObject : NamesObject id (.getObject id)
  | releaseObject : NamesObject id (.releaseObject id)
  | getAttribute (name : Bytes) (named : validName name false = true) :
      NamesObject id (.getAttribute id name)
  | invokeMethod (name : Bytes) (arguments : List NamedValue)
      (named : validName name false = true) : NamesObject id (.invokeMethod id name arguments)

/-- An identifier that names no object here is answered with `not_found`, and nothing changes. -/
theorem object_missing (registry : ClassRegistry) {store : SessionStore} (ids : IdentifierSource)
    (opened : store.closed = false) {id : UInt64} (nonzero : id ≠ 0)
    (absent : store.objects.find id = none) {operation : Operation}
    (names : NamesObject id operation) :
    store.execute registry ids operation = store.fail ids .notFound := by
  cases names with
  | getObject =>
    simp [SessionStore.execute, opened, SessionStore.applyGetObject, nonzero, absent,
      SessionStore.answer, SessionStore.fail]
  | releaseObject =>
    simp [SessionStore.execute, opened, SessionStore.applyReleaseObject, nonzero, absent]
  | getAttribute name named =>
    simp [SessionStore.execute, opened, SessionStore.applyGetAttribute, named,
      SessionStore.applyGetObject, nonzero, absent, SessionStore.answer, SessionStore.fail]
  | invokeMethod name arguments named =>
    simp [SessionStore.execute, opened, SessionStore.applyInvokeMethod, named, nonzero, absent]

theorem value_missing (registry : ClassRegistry) {store : SessionStore} (ids : IdentifierSource)
    (opened : store.closed = false) {id : UInt64} (nonzero : id ≠ 0)
    (absent : store.values.find id = none) :
    store.execute registry ids (.getValue id) = store.fail ids .notFound := by
  simp [SessionStore.execute, opened, SessionStore.applyGetValue, nonzero, absent,
    SessionStore.answer, SessionStore.fail]

/-- What a history says about an identifier it issued. -/
structure Owned (registry : ClassRegistry) (w : World) (history : List Event) : Prop where
  /-- Any other open session does not find it. -/
  foreign : ∀ event ∈ history, ∀ id, event.allocates = some id →
    ∀ (session : Nat) (store : SessionStore), w.sessions[session]? = some store →
    session ≠ event.session → store.closed = false →
    ∀ operation, (NamesObject id operation ∨ operation = .getValue id) →
      store.execute registry w.ids operation = store.fail w.ids .notFound
  /-- A value is no object of its own session, while that session is open. -/
  value : ∀ event ∈ history, ∀ id data, event.allocates = some id →
    event.operation = .putValue data →
    ∀ store, w.sessions[event.session]? = some store → store.closed = false →
    ∀ operation, NamesObject id operation →
      store.execute registry w.ids operation = store.fail w.ids .notFound
  /-- An object is no value of its own session, while that session is open. -/
  object : ∀ event ∈ history, ∀ id className arguments, event.allocates = some id →
    event.operation = .createObject className arguments →
    ∀ store, w.sessions[event.session]? = some store → store.closed = false →
      store.execute registry w.ids (.getValue id) = store.fail w.ids .notFound

section
variable {registry : ClassRegistry} {w : World} {history : List Event}

theorem allocates_issued (recorded : Recorded registry w history) {event : Event} {id : UInt64}
    (member : event ∈ history) (issued : event.allocates = some id) : w.ids.issued id :=
  recorded.issued id (List.mem_filterMap.mpr ⟨event, member, issued⟩)

/-- An open session's object is the one allocation of that identifier. -/
theorem object_absent (recorded : Recorded registry w history) {event : Event} {id : UInt64}
    (member : event ∈ history) (issued : event.allocates = some id) {session : Nat}
    {store : SessionStore} (owner : w.sessions[session]? = some store)
    (opened : store.closed = false)
    (apart : session ≠ event.session ∨ ∃ data, event.operation = .putValue data) :
    store.objects.find id = none := by
  cases found : store.objects.find id with
  | none => rfl
  | some entry =>
    obtain ⟨creation, recordedThere, same, issued', className, arguments, operation⟩ :=
      live_created recorded owner opened found
    have equal := allocates_unique recorded.increasing member recordedThere issued issued'
    subst equal
    rcases apart with foreign | ⟨data, put⟩
    · exact absurd same.symm foreign
    · rw [put] at operation
      cases operation

/-- A value is not found under an identifier drawn by another session or for an object. -/
theorem value_absent (recorded : Recorded registry w history) {event : Event} {id : UInt64}
    (member : event ∈ history) (issued : event.allocates = some id) {session : Nat}
    {store : SessionStore} (owner : w.sessions[session]? = some store)
    (opened : store.closed = false)
    (apart : session ≠ event.session ∨
      ∃ className arguments, event.operation = .createObject className arguments) :
    store.values.find id = none := by
  cases found : store.values.find id with
  | none => rfl
  | some data =>
    obtain ⟨put, recordedThere, same, operation, issued'⟩ :=
      ((recorded.mirrors session store owner).values opened id data).mp found
    have equal := allocates_unique recorded.increasing member recordedThere issued issued'
    subst equal
    rcases apart with foreign | ⟨className, arguments, created⟩
    · exact absurd same.symm foreign
    · rw [created] at operation
      cases operation

/-- The record implies ownership: identifiers work for their session and their kind only. -/
theorem recorded_owned (recorded : Recorded registry w history) : Owned registry w history where
  foreign event member id issued session store owner different opened operation presents := by
    have nonzero := (allocates_issued recorded member issued).1
    rcases presents with names | rfl
    · exact object_missing registry w.ids opened nonzero
        (object_absent recorded member issued owner opened (Or.inl different)) names
    · exact value_missing registry w.ids opened nonzero
        (value_absent recorded member issued owner opened (Or.inl different))
  value event member id data issued put store owner opened operation names :=
    object_missing registry w.ids opened (allocates_issued recorded member issued).1
      (object_absent recorded member issued owner opened (Or.inr ⟨data, put⟩)) names
  object event member id className arguments issued created store owner opened :=
    value_missing registry w.ids opened (allocates_issued recorded member issued).1
      (value_absent recorded member issued owner opened (Or.inr ⟨className, arguments, created⟩))

end

/-! ## Exhaustion -/

/-- The source has issued its last identifier and never issues another. -/
structure Exhausted (registry : ClassRegistry) (w : World) : Prop where
  stuck : w.ids.next = (none, w.ids)
  put : ∀ (session : Nat) (store : SessionStore), w.sessions[session]? = some store →
    store.closed = false → ∀ data, validValue data = true →
    store.execute registry w.ids (.putValue data) = store.fail w.ids .quotaExceeded
  create : ∀ (session : Nat) (store : SessionStore), w.sessions[session]? = some store →
    store.closed = false → ∀ className arguments created,
    Constructible registry className arguments created →
    store.execute registry w.ids (.createObject className arguments) =
      store.fail w.ids .quotaExceeded

theorem execute_eq_fail {registry : ClassRegistry} {store : SessionStore} {ids : IdentifierSource}
    {operation : Operation} {code : ErrorCode}
    (failed : (store.execute registry ids operation).outcome = .error (makeError code)) :
    store.execute registry ids operation = store.fail ids code := by
  obtain ⟨found, text, unchanged⟩ := execute_failed failed
  rw [unchanged, SessionStore.fail, SessionStore.fail, text]

/-- When the identifiers are used up, nothing more is created, and the rest goes on. -/
theorem exhausted_of_next {registry : ClassRegistry} {w : World}
    (sound : World.AllSound registry w) (spent : w.ids.next_ = 0) : Exhausted registry w where
  stuck := IdentifierSource.next_exhausted spent
  put session store owner opened data valid := by
    have exact := put_exact (sound session store owner) opened data valid
    exact execute_eq_fail (exact.2 fun condition => condition.2.2 spent)
  create session store owner opened className arguments created constructible := by
    have exact := create_exact (sound session store owner) opened className arguments created
      constructible
    exact execute_eq_fail (exact.2 fun condition => condition.2.2 spent)

/-- The source is spent with the largest identifier. -/
theorem next_zero_of_max {ids : IdentifierSource} (issued : ids.issued maxIdentifier) :
    ids.next_ = 0 := by
  rcases issued.2 with spent | above
  · exact spent
  · rw [UInt64.lt_iff_toNat_lt] at above
    have bound : ids.next_.toNat < 2 ^ 64 := ids.next_.toNat_lt
    have value : maxIdentifier.toNat = 2 ^ 64 - 1 := rfl
    omega

theorem step_spent {registry : ClassRegistry} {w w' : World} {events : List Event}
    (taken : World.Step registry w w' events) (spent : w.ids.next_ = 0) :
    w'.ids.next_ = 0 ∧ allocated events = [] := by
  cases taken with
  | idle => exact ⟨spent, rfl⟩
  | create limits => exact ⟨spent, rfl⟩
  | close session store owner => exact ⟨spent, rfl⟩
  | execute session store operation done owner run =>
    have effect := execute_effect registry store w.ids operation
    rw [run] at effect
    rcases effect_allocates session effect with ⟨none, same⟩ | ⟨id, -, drawn⟩
    · rw [same]
      exact ⟨spent, by simp [allocated, none]⟩
    · rw [IdentifierSource.next_exhausted spent] at drawn
      cases drawn

/-- From a spent source, no later run issues anything. -/
theorem run_spent (registry : ClassRegistry) (w : World) (spent : w.ids.next_ = 0)
    (later : List Action) :
    (Transition.run (World.step registry) w later).1.ids.next_ = 0 ∧
      allocated (Transition.run (World.step registry) w later).2 = [] := by
  have kept := Transition.run_invariant (World.step registry)
    (fun w past => w.ids.next_ = 0 ∧ allocated past = []) w [] ⟨spent, rfl⟩
    (fun w past action before => by
      have taken := step_spent (World.step_spec registry w action) before.1
      refine ⟨taken.1, ?_⟩
      rw [allocated, List.filterMap_append]
      exact List.append_eq_nil_iff.mpr ⟨before.2, taken.2⟩) later
  simpa using kept

/-- Identifiers of all sessions and both kinds are nonzero and strictly increase;
the last one is followed by no other in any continuation; and an identifier is
found only by the open session it was issued to and only as its own kind. -/
theorem identifiers_fresh_and_owned (registry : ClassRegistry) (first : UInt64)
    (actions : List Action) :
    ((allocated (World.run registry first actions).2).Pairwise (· < ·) ∧
      ∀ id ∈ allocated (World.run registry first actions).2, id ≠ 0) ∧
    (maxIdentifier ∈ allocated (World.run registry first actions).2 → ∀ later,
      allocated (World.run registry first (actions ++ later)).2 =
        allocated (World.run registry first actions).2 ∧
      Exhausted registry (World.run registry first (actions ++ later)).1) ∧
    Owned registry (World.run registry first actions).1 (World.run registry first actions).2 := by
  have recorded := run_recorded registry first actions
  refine ⟨⟨recorded.increasing, fun id member => (recorded.issued id member).1⟩, ?_,
    recorded_owned recorded⟩
  intro issued later
  have spent := next_zero_of_max (recorded.issued maxIdentifier issued)
  have rest := run_spent registry _ spent later
  have whole := Transition.run_append (World.step registry) (World.start first) actions later
  have sound := World.run_sound registry first (actions ++ later)
  unfold World.run at *
  rw [whole] at sound ⊢
  refine ⟨?_, exhausted_of_next sound rest.1⟩
  rw [allocated, List.filterMap_append]
  exact List.append_right_eq_self.mpr rest.2

/-- The last identifier goes to a value of the first session. -/
def lastIdentifierRun : List Action :=
  [.create ⟨4, 4, 512⟩, .create ⟨4, 4, 512⟩, .execute 0 (.putValue (.integer 1))]

theorem identifiers_fresh_and_owned_last :
    maxIdentifier ∈ allocated (World.run builtinRegistry maxIdentifier lastIdentifierRun).2 ∧
    Exhausted builtinRegistry
      (World.run builtinRegistry maxIdentifier (lastIdentifierRun ++ [.close 0])).1 := by
  have issued : maxIdentifier ∈
      allocated (World.run builtinRegistry maxIdentifier lastIdentifierRun).2 := by decide +kernel
  exact ⟨issued,
    ((identifiers_fresh_and_owned builtinRegistry maxIdentifier lastIdentifierRun).2.1
      issued [.close 0]).2⟩

/-- Without the condition that the owner is open the last part fails: after `close`
the owner answers a wrong-kind lookup with `access_denied`. -/
theorem closed_owner_denies :
    ¬ ∀ (registry : ClassRegistry) (first : UInt64) (actions : List Action),
      ∀ event ∈ (World.run registry first actions).2, ∀ id data, event.allocates = some id →
        event.operation = .putValue data →
        ∀ store, (World.run registry first actions).1.sessions[event.session]? = some store →
        ∀ operation, NamesObject id operation →
          (store.execute registry (World.run registry first actions).1.ids operation).outcome =
            .error (makeError .notFound) := by
  intro always
  have denied := always builtinRegistry 1
    [.create ⟨4, 4, 512⟩, .execute 0 (.putValue (.integer 7)), .close 0]
    ⟨0, .putValue (.integer 7), .valueRecord ⟨1, .integer 7⟩⟩ (by decide +kernel) 1 (.integer 7)
    rfl rfl _ rfl (.getObject 1) .getObject
  revert denied
  decide +kernel

end PipeForge.Domain
