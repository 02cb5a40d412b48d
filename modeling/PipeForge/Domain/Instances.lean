import PipeForge.Domain.History
import PipeForge.Domain.Refusals

/-!
# Instances of a registered class

What a class guarantees of its own objects holds of every stored one: if the
factory makes objects of a family and a call that returns a value stays in it, the
live objects of that class belong to it at every point of every run. Classes that
also keep the rest of what the store checks of them never make it report an
internal failure. The history agrees: each recorded call that returned a value
returned it on the object that replaying the history up to that call yields.
-/

namespace PipeForge.Domain
open Contracts Library

/-- A family of objects closed under what the class does. -/
structure ClassFamily (definition : ClassDefinition) (family : Object → Prop) : Prop where
  made : ∀ factory arguments object, definition.create = some factory →
    factory arguments = .ok (some object) → family object
  kept : ∀ object name arguments data candidate, family object →
    object.invoke name arguments = (.ok data, candidate) → family candidate

/-- Every live object of the class belongs to the family. -/
def Instances (name : Bytes) (family : Object → Prop) (store : SessionStore) : Prop :=
  ∀ id entry, store.objects.find id = some entry → entry.definition.name = name →
    family entry.instance_

section
variable {registry : ClassRegistry} {definition : ClassDefinition} {family : Object → Prop}

/-- An operation keeps the objects of a class within what its methods can reach. -/
theorem effect_instances {ids : IdentifierSource} {store : SessionStore} {operation : Operation}
    {done : Executed} (registered : registry.find definition.name = some definition)
    (closed : ClassFamily definition family) (sound : Sound registry ids store)
    (instances : Instances definition.name family store)
    (effect : Effect registry store ids operation done) :
    Instances definition.name family done.store := by
  cases effect with
  | failed => exact instances
  | answered => exact instances
  | put => exact instances
  | created className arguments found factory object id ids' opened named listed matched room
      callable made shaped fits drawn =>
    intro key entry present same
    rw [OrderedMap.find_emplace _ _ _ _ (sound.fresh drawn).2] at present
    split at present
    · cases present
      have equal : className = definition.name := (ClassRegistry.find_mem listed).2.symm.trans same
      rw [equal, registered] at listed
      cases listed
      exact closed.made factory arguments object callable made
    · exact instances key entry present same
  | released id entry opened nonzero found =>
    intro key other present same
    rw [OrderedMap.find_erase] at present
    split at present
    · cases present
    · exact instances key other present same
  | invoked id name arguments entry method data candidate opened nonzero named found declared
      matched called valid kind shaped fits =>
    intro key other present same
    rw [OrderedMap.find_assign _ _ _ _ (by simp [found])] at present
    split at present
    · cases present
      exact closed.kept entry.instance_ name arguments data candidate
        (instances id entry found same) called
    · exact instances key other present same

/-- The family holds of all sessions' objects along every run. -/
theorem run_instances (registered : registry.find definition.name = some definition)
    (closed : ClassFamily definition family) (first : UInt64) (actions : List Action)
    (session : Nat) (store : SessionStore)
    (reached : (World.run registry first actions).1.sessions[session]? = some store) :
    Instances definition.name family store := by
  have invariant := Transition.run_invariant (World.step registry)
    (fun w _ => World.AllSound registry w ∧ ∀ (session : Nat) (store : SessionStore),
      w.sessions[session]? = some store → Instances definition.name family store)
    (World.start first) [] ⟨World.run_sound registry first [], by simp [World.start]⟩ ?_ actions
  · exact invariant.2 session store reached
  intro w past action before
  obtain ⟨sound, instances⟩ := before
  have taken := World.step_spec registry w action
  refine ⟨World.step_sound sound taken, ?_⟩
  generalize (World.step registry w action).1 = w' at taken
  generalize (World.step registry w action).2 = events at taken
  intro other found present
  cases taken with
  | idle => exact instances other found present
  | create limits =>
    rcases World.getElem?_create_cases present with old | ⟨-, rfl⟩
    · exact instances other found old
    · intro id entry held
      cases held
  | execute target owned operation done owner run =>
    rcases World.getElem?_set_cases present with ⟨rfl, rfl⟩ | ⟨-, old⟩
    · have effect := execute_effect registry owned w.ids operation
      rw [run] at effect
      exact effect_instances registered closed (sound other owned owner)
        (instances other owned owner) effect
    · exact instances other found old
  | close target owned owner =>
    rcases World.getElem?_set_cases present with ⟨rfl, rfl⟩ | ⟨-, old⟩
    · intro id entry held
      cases held
    · exact instances other found old

/-- A live object of the class was registered from this definition. -/
theorem definition_eq {ids : IdentifierSource} {store : SessionStore}
    (sound : Sound registry ids store) {name : Bytes} (registered : registry.find name = some definition)
    {id : UInt64} {entry : StoredObject} (found : store.objects.find id = some entry)
    (named : entry.definition.name = name) : entry.definition = definition := by
  have listed := (sound.objects_sound id entry found).registered
  rw [named, registered] at listed
  exact (Option.some.inj listed).symm

end

/-! ## Classes that keep their contract -/

/-- The code is not reported as an internal failure. -/
def Expected (code : ErrorCode) : Prop := makeError code ≠ makeError .internalFailure

instance (code : ErrorCode) : Decidable (Expected code) := inferInstanceAs (Decidable (_ ≠ _))

/-- What the store expects of a trusted class whose objects form the family. -/
structure WellBehaved (definition : ClassDefinition) (family : Object → Prop) : Prop extends
    ClassFamily definition family where
  factory_code : ∀ factory arguments error, definition.create = some factory →
    factory arguments = .error error → Expected error.code
  not_null : ∀ factory arguments, definition.create = some factory → factory arguments ≠ .ok none
  made_shaped : ∀ factory arguments object, definition.create = some factory →
    factory arguments = .ok (some object) → stateMatches definition object.state = true
  cloned : ∀ object, family object → object.clone.isSome = true
  method_code : ∀ object name arguments error candidate, family object →
    object.invoke name arguments = (.error error, candidate) → Expected error.code
  called_sound : ∀ object name arguments method data candidate, family object →
    stateMatches definition object.state = true →
    definition.description.methods.find? (fun method => decide (method.name = name)) = some method →
    object.invoke name arguments = (.ok data, candidate) →
    validValue data = true ∧ kindOf data = method.resultKind ∧
      stateMatches definition candidate.state = true

/-- A registry of such classes never leads to an internal failure. -/
theorem never_internal {registry : ClassRegistry}
    (behaved : ∀ definition ∈ registry.definitions, ∃ family, WellBehaved definition family)
    (first : UInt64) (actions : List Action) (session : Nat) (store : SessionStore)
    (reached : (World.run registry first actions).1.sessions[session]? = some store)
    (ids : IdentifierSource) (operation : Operation) :
    (store.execute registry ids operation).outcome ≠ .error (makeError .internalFailure) := by
  intro internal
  have sound := World.run_sound registry first actions session store reached
  -- A live object belongs to the family of the class it was registered with.
  have member : ∀ id entry, store.objects.find id = some entry →
      ∃ family, WellBehaved entry.definition family ∧ family entry.instance_ := by
    intro id entry found
    have registered := (sound.objects_sound id entry found).registered
    obtain ⟨family, behaves⟩ := behaved entry.definition (ClassRegistry.find_mem registered).1
    exact ⟨family, behaves,
      run_instances registered behaves.toClassFamily first actions session store reached id entry
        found rfl⟩
  obtain ⟨code, same, why⟩ := execute_accountable registry store ids operation _ internal
  cases why with
  | closed | fields | missing | quota => exact absurd same (by decide)
  | mismatchedConstructor | mismatchedMethod => exact absurd same (by decide)
  | uncallable className arguments definition found empty =>
    have registrable := registry.valid definition (ClassRegistry.find_mem found).1
    simp [ClassDefinition.registrable, empty] at registrable
  | factory className arguments definition factory error found matched callable failed =>
    obtain ⟨family, behaves⟩ := behaved definition (ClassRegistry.find_mem found).1
    exact behaves.factory_code factory arguments error callable failed same.symm
  | null className arguments definition factory found callable made =>
    obtain ⟨family, behaves⟩ := behaved definition (ClassRegistry.find_mem found).1
    exact behaves.not_null factory arguments callable made
  | misshapen className arguments definition factory created found callable made mismatched =>
    obtain ⟨family, behaves⟩ := behaved definition (ClassRegistry.find_mem found).1
    rw [behaves.made_shaped factory arguments created callable made] at mismatched
    cases mismatched
  | stale _ id entry found mismatched =>
    rw [(sound.objects_sound id entry found).shaped] at mismatched
    cases mismatched
  | uncloned id name arguments entry found null =>
    obtain ⟨family, behaves, belongs⟩ := member id entry found
    have cloned := behaves.cloned _ belongs
    rw [null] at cloned
    cases cloned
  | method id name arguments entry method error candidate found declared matched failed =>
    obtain ⟨family, behaves, belongs⟩ := member id entry found
    exact behaves.method_code _ name arguments error candidate belongs failed same.symm
  | broken id name arguments entry method data candidate found declared called mismatched =>
    obtain ⟨family, behaves, belongs⟩ := member id entry found
    exact mismatched (behaves.called_sound _ name arguments method data candidate belongs
      (sound.objects_sound id entry found).shaped declared called)

/-! ## Recorded calls -/

/-- Each recorded call that returned a value did so on the object the history before
it replays to. -/
def Performed (registry : ClassRegistry) (history : List Event) : Prop :=
  ∀ earlier event later, history = earlier ++ event :: later →
    ∀ session id name arguments, event.touch session id = .invokes name arguments →
      ∃ definition object data, replay registry session id earlier = some (definition, object) ∧
        (object.invoke name arguments).1 = .ok data

/-- A history may be extended by a call that succeeded on the object as it was. -/
theorem performed_snoc {registry : ClassRegistry} {history : List Event} {event : Event}
    (before : Performed registry history)
    (last : ∀ session id name arguments, event.touch session id = .invokes name arguments →
      ∃ definition object data, replay registry session id history = some (definition, object) ∧
        (object.invoke name arguments).1 = .ok data) : Performed registry (history ++ [event]) := by
  intro earlier other later split
  rcases List.eq_nil_or_concat later with rfl | ⟨front, final, rfl⟩
  · obtain ⟨rfl, same⟩ := List.append_inj' split rfl
    cases same
    exact last
  · have split' : history ++ [event] = (earlier ++ other :: front) ++ [final] := by
      rw [split]
      simp
    obtain ⟨same, -⟩ := List.append_inj' split' rfl
    exact before earlier other front same

/-- The call a single event records. -/
theorem effect_performed {registry : ClassRegistry} {ids : IdentifierSource} {store : SessionStore}
    {operation : Operation} {done : Executed} {history : List Event} {owner : Nat}
    (mirrors : Mirrors registry history owner store)
    (effect : Effect registry store ids operation done) (session : Nat) (id : UInt64) (name : Bytes)
    (arguments : List NamedValue)
    (touched : Event.touch session id ⟨owner, operation, done.outcome⟩ = .invokes name arguments) :
    ∃ definition object data, replay registry session id history = some (definition, object) ∧
      (object.invoke name arguments).1 = .ok data := by
  have same : owner = session := by
    by_contra different
    simp [Event.touch, different] at touched
  subst same
  cases effect with
  | failed operation code =>
    rw [SessionStore.fail, touch_failed] at touched
    cases touched
  | answered operation outcome opened reads =>
    rw [SessionStore.answer, touch_read owner owner id outcome reads] at touched
    cases touched
  | put =>
    simp only [Event.touch, ne_eq, not_true_eq_false, if_false] at touched
    cases touched
  | created =>
    simp only [Event.touch, ne_eq, not_true_eq_false, if_false] at touched
    split at touched <;> cases touched
  | released =>
    simp only [Event.touch, ne_eq, not_true_eq_false, if_false] at touched
    split at touched <;> cases touched
  | invoked target called arguments' entry method data candidate opened nonzero named found declared
      matched ran valid kind shaped fits =>
    simp only [Event.touch, ne_eq, not_true_eq_false, if_false] at touched
    split at touched
    · rename_i equal
      cases touched
      subst equal
      have live := mirrors.objects opened target
      rw [SessionStore.live, found] at live
      exact ⟨entry.definition, entry.instance_, data, live.symm, congrArg Prod.fst ran⟩
    · cases touched

/-- Every call in a history succeeded on the state its object had then. -/
theorem run_performed (registry : ClassRegistry) (first : UInt64) (actions : List Action) :
    Performed registry (World.run registry first actions).2 := by
  have invariant := Transition.run_invariant (World.step registry)
    (fun w history => Recorded registry w history ∧ Performed registry history)
    (World.start first) [] ⟨run_recorded registry first [], ?_⟩ ?_ actions
  · simpa [World.run] using invariant.2
  · intro earlier event later split
    simp at split
  · intro w past action before
    have taken := World.step_spec registry w action
    refine ⟨step_recorded before.1 taken, ?_⟩
    generalize (World.step registry w action).1 = w' at taken
    generalize (World.step registry w action).2 = events at taken
    cases taken with
    | idle => simpa using before.2
    | create limits => simpa using before.2
    | close target owned owner => simpa using before.2
    | execute target owned operation done owner run =>
      have effect := execute_effect registry owned w.ids operation
      rw [run] at effect
      exact performed_snoc before.2
        (effect_performed (before.1.mirrors target owned owner) effect)

end PipeForge.Domain
