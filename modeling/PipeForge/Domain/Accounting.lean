import PipeForge.Domain.World
import PipeForge.Domain.Builtins

/-!
# Exact quota accounting and failure atomicity

`used_` is maintained incrementally; `heldBytes` recomputes it from what is
stored. They agree in every reachable state, so the unsigned differences in the
quota checks are true differences and the checks refuse exactly what does not
fit. A refused or failed operation leaves store and identifier source alone.
-/

namespace PipeForge.Domain
open Contracts Library

namespace SessionStore

/-- Logical bytes of the contents, from the current state of every instance. -/
def heldBytes (store : SessionStore) : Nat :=
  store.values.total valueCharge +
    store.objects.total fun entry => objectCharge entry.definition.name entry.instance_.state

end SessionStore

/-- The accounting facts of one store. -/
structure Accounted (store : SessionStore) : Prop where
  used : store.used = store.heldBytes
  charge : ∀ id entry, store.objects.find id = some entry →
    entry.charge = objectCharge entry.definition.name entry.instance_.state
  bytes : store.used ≤ store.limits.bytes ∧ store.limits.bytes ≤ maxSessionBytes
  values : store.values.size ≤ store.limits.values ∧ store.limits.values ≤ maxStoredValues
  objects : store.objects.size ≤ store.limits.objects ∧ store.limits.objects ≤ maxStoredObjects
  remaining : SizeT.sub store.limits.bytes store.used = store.limits.bytes - store.used
  retained : ∀ id entry, store.objects.find id = some entry → entry.charge ≤ store.used ∧
    SizeT.sub store.used entry.charge = store.used - entry.charge
  budget : ∀ id entry, store.objects.find id = some entry →
    store.used - entry.charge ≤ store.limits.bytes ∧
    SizeT.sub store.limits.bytes (SizeT.sub store.used entry.charge) =
      store.limits.bytes - (store.used - entry.charge)

section
variable {registry : ClassRegistry} {ids : IdentifierSource} {store : SessionStore}

/-- The counter of used bytes is the sum of what is charged for the contents. -/
theorem Sound.held (sound : Sound registry ids store) : store.used = store.heldBytes := by
  have same : store.objects.total (·.charge) =
      store.objects.total fun entry => objectCharge entry.definition.name entry.instance_.state := by
    apply OrderedMap.total_congr
    rintro ⟨id, entry⟩ member
    exact (sound.objects_sound id entry ((OrderedMap.find_eq_some_iff _ _ _).mpr member)).charge
  rw [SessionStore.heldBytes, ← same]
  exact sound.used

/-- The accounting a client could do on its own from what it stored. -/
theorem Sound.accounted (sound : Sound registry ids store) : Accounted store where
  used := sound.held
  charge id entry found := (sound.objects_sound id entry found).charge
  bytes := ⟨sound.used_le, sound.bytes_le⟩
  values := ⟨sound.values_le, sound.values_limit⟩
  objects := ⟨sound.objects_le, sound.objects_limit⟩
  remaining := sound.remaining_eq
  retained _ _ found := ⟨sound.charge_le found, sound.retained_eq found⟩
  budget _ _ found :=
    ⟨Nat.le_trans (Nat.sub_le _ _) sound.used_le, sound.budget_eq found⟩

/-! ## Exact refusal -/

/-- An operation that can only be stopped by a quota either returns `success` and
its condition holds, or returns `quota_exceeded` and it does not. -/
def ExactQuota (outcome : Outcome) (success : Outcome → Prop) (condition : Prop) : Prop :=
  (success outcome ↔ condition) ∧
    (¬ condition → outcome = .error (makeError .quotaExceeded))

theorem exactQuota_of_cases {outcome : Outcome} {success : Outcome → Prop} {condition : Prop}
    (admitted : condition → success outcome)
    (refused : ¬ condition → outcome = .error (makeError .quotaExceeded))
    (apart : ¬ success (.error (makeError .quotaExceeded))) :
    ExactQuota outcome success condition := by
  refine ⟨⟨fun succeeded => ?_, admitted⟩, refused⟩
  by_contra blocked
  rw [refused blocked] at succeeded
  exact apart succeeded

/-- What `create_object` checks besides the quotas. -/
structure Constructible (registry : ClassRegistry) (className : Bytes) (arguments : List NamedValue)
    (created : Object) : Prop where
  named : validName className false = true
  made : ∃ definition factory, registry.find className = some definition ∧
    validArguments arguments definition.description.constructorParameters = true ∧
    definition.create = some factory ∧ factory arguments = .ok (some created) ∧
    stateMatches definition created.state = true

/-- What `invoke_method` checks besides the byte quota. -/
structure Invocable (store : SessionStore) (id : UInt64) (name : Bytes)
    (arguments : List NamedValue) (entry : StoredObject) (data : Value) (candidate : Object) :
    Prop where
  nonzero : id ≠ 0
  named : validName name false = true
  found : store.objects.find id = some entry
  declared : ∃ method, entry.definition.description.methods.find?
      (fun method => decide (method.name = name)) = some method ∧
    validArguments arguments method.parameters = true ∧ kindOf data = method.resultKind
  cloned : entry.instance_.clone.isSome = true
  called : entry.instance_.invoke name arguments = (.ok data, candidate)
  valid : validValue data = true
  shaped : stateMatches entry.definition candidate.state = true

/-- The quota decision of each allocating operation in terms of `heldBytes`. -/
structure RefusesExactly (registry : ClassRegistry) (ids : IdentifierSource) (store : SessionStore) :
    Prop where
  put : ∀ data, validValue data = true →
    ExactQuota (store.execute registry ids (.putValue data)).outcome
      (fun outcome => ∃ id, outcome = .valueRecord ⟨id, data⟩)
      (store.values.size < store.limits.values ∧
        store.heldBytes + valueCharge data ≤ store.limits.bytes ∧ ids.next_ ≠ 0)
  create : ∀ className arguments created, Constructible registry className arguments created →
    ExactQuota (store.execute registry ids (.createObject className arguments)).outcome
      (fun outcome => ∃ id, outcome = .object ⟨id, className, created.state⟩)
      (store.objects.size < store.limits.objects ∧
        store.heldBytes + objectCharge className created.state ≤ store.limits.bytes ∧
        ids.next_ ≠ 0)
  invoke : ∀ id name arguments entry data candidate,
    Invocable store id name arguments entry data candidate →
    ExactQuota (store.execute registry ids (.invokeMethod id name arguments)).outcome
      (fun outcome => outcome = .value data)
      (store.heldBytes - objectCharge entry.definition.name entry.instance_.state +
        objectCharge entry.definition.name candidate.state ≤ store.limits.bytes)

theorem IdentifierSource.next_live (live : ids.next_ ≠ 0) :
    ∃ ids', ids.next = (some ids.next_, ids') := by
  simp [IdentifierSource.next, live]

theorem IdentifierSource.next_exhausted (exhausted : ids.next_ = 0) : ids.next = (none, ids) := by
  simp [IdentifierSource.next, exhausted]

/-- A valid value is stored exactly if there is a slot, room for its charge and an identifier
left. -/
theorem put_exact (sound : Sound registry ids store) (opened : store.closed = false) (data : Value)
    (valid : validValue data = true) :
    ExactQuota (store.execute registry ids (.putValue data)).outcome
      (fun outcome => ∃ id, outcome = .valueRecord ⟨id, data⟩)
      (store.values.size < store.limits.values ∧
        store.heldBytes + valueCharge data ≤ store.limits.bytes ∧ ids.next_ ≠ 0) := by
  have order := sound.used_le
  simp only [SessionStore.execute, opened, Bool.false_eq_true, if_false,
    SessionStore.applyPutValue, valid, Bool.not_true, sound.remaining_eq, ← sound.held]
  apply exactQuota_of_cases
  · rintro ⟨room, fits, live⟩
    obtain ⟨ids', drawn⟩ := IdentifierSource.next_live live
    have admitted : ¬ (store.values.size ≥ store.limits.values ∨
        valueCharge data > store.limits.bytes - store.used) := by omega
    simp only [if_neg admitted, drawn]
    exact ⟨_, rfl⟩
  · intro blocked
    split
    · rfl
    · rename_i admitted
      have exhausted : ids.next_ = 0 := by
        by_contra live
        exact blocked ⟨by omega, by omega, live⟩
      simp only [IdentifierSource.next_exhausted exhausted]
      rfl
  · rintro ⟨id, same⟩
    cases same

/-- An object that can be constructed is created under the same three conditions. -/
theorem create_exact (sound : Sound registry ids store) (opened : store.closed = false)
    (className : Bytes) (arguments : List NamedValue) (created : Object)
    (constructible : Constructible registry className arguments created) :
    ExactQuota (store.execute registry ids (.createObject className arguments)).outcome
      (fun outcome => ∃ id, outcome = .object ⟨id, className, created.state⟩)
      (store.objects.size < store.limits.objects ∧
        store.heldBytes + objectCharge className created.state ≤ store.limits.bytes ∧
        ids.next_ ≠ 0) := by
  have order := sound.used_le
  obtain ⟨named, definition, factory, found, matched, callable, made, shaped⟩ := constructible
  simp only [SessionStore.execute, opened, Bool.false_eq_true, if_false,
    SessionStore.applyCreateObject, named, Bool.not_true, found, matched, callable, made, shaped,
    sound.remaining_eq, ← sound.held]
  apply exactQuota_of_cases
  · rintro ⟨room, fits, live⟩
    obtain ⟨ids', drawn⟩ := IdentifierSource.next_live live
    have counted : ¬ store.objects.size ≥ store.limits.objects := by omega
    have charged : ¬ objectCharge className created.state > store.limits.bytes - store.used := by
      omega
    simp only [if_neg counted, if_neg charged, drawn]
    exact ⟨_, rfl⟩
  · intro blocked
    split
    · rfl
    · split
      · rfl
      · have exhausted : ids.next_ = 0 := by
          by_contra live
          exact blocked ⟨by omega, by omega, live⟩
        simp only [IdentifierSource.next_exhausted exhausted]
        rfl
  · rintro ⟨id, same⟩
    cases same

/-- A method call that succeeded is kept exactly if the new state fits once the old one is given
back. -/
theorem invoke_exact (sound : Sound registry ids store) (opened : store.closed = false)
    (id : UInt64) (name : Bytes) (arguments : List NamedValue) (entry : StoredObject) (data : Value)
    (candidate : Object) (invocable : Invocable store id name arguments entry data candidate) :
    ExactQuota (store.execute registry ids (.invokeMethod id name arguments)).outcome
      (fun outcome => outcome = .value data)
      (store.heldBytes - objectCharge entry.definition.name entry.instance_.state +
        objectCharge entry.definition.name candidate.state ≤ store.limits.bytes) := by
  obtain ⟨nonzero, named, found, ⟨method, declared, matched, kind⟩, cloned, called, valid, shaped⟩ :=
    invocable
  obtain ⟨copy, copied⟩ := Option.isSome_iff_exists.mp cloned
  have same := Object.clone_eq copied
  subst same
  have order := sound.used_le
  rw [← (sound.objects_sound id entry found).charge, ← sound.held]
  simp only [SessionStore.execute, opened, Bool.false_eq_true, if_false,
    SessionStore.applyInvokeMethod, nonzero, named, found, declared, matched, copied, called, valid,
    kind, shaped, sound.budget_eq found, decide_false, Bool.not_true, Bool.or_self, bne_self_eq_false]
  apply exactQuota_of_cases
  · intro fits
    rw [if_neg (by omega)]
  · intro blocked
    rw [if_pos (by omega)]
    rfl
  · intro impossible
    cases impossible

end

/-- In every state of every run of sessions sharing one source, the accounting is
exact, nothing underflows, and each allocating operation is refused exactly when
its quota, recomputed from the contents, does not hold. -/
theorem quota_accounting_exact (registry : ClassRegistry) (first : UInt64) (actions : List Action)
    (session : Nat) (store : SessionStore)
    (reached : (World.run registry first actions).1.sessions[session]? = some store) :
    Accounted store ∧ (store.closed = false →
      RefusesExactly registry (World.run registry first actions).1.ids store) := by
  have sound := World.run_sound registry first actions session store reached
  refine ⟨sound.accounted, fun opened => ⟨?_, ?_, ?_⟩⟩
  · exact fun data valid => put_exact sound opened data valid
  · exact fun className arguments created constructible =>
      create_exact sound opened className arguments created constructible
  · exact fun id name arguments entry data candidate invocable =>
      invoke_exact sound opened id name arguments entry data candidate invocable

/-- Two sessions over the built-in classes: a value and an invoked counter in the
first, a value of the second in between. -/
def accountingRun : List Action :=
  [.create ⟨4, 4, 512⟩, .create ⟨1, 0, 200⟩,
   .execute 0 (.putValue (.text (ascii "abc"))),
   .execute 1 (.putValue (.integer 7)),
   .execute 0 (.createObject (ascii "Counter") [⟨ascii "initial", .integer 5⟩]),
   .execute 0 (.invokeMethod 3 (ascii "increment") [⟨ascii "delta", .integer 2⟩])]

theorem quota_accounting_exact_counter :
    ∃ store, (World.run builtinRegistry 1 accountingRun).1.sessions[0]? = some store ∧
      store.used = 407 ∧ Accounted store ∧
      (store.closed = false →
        RefusesExactly builtinRegistry (World.run builtinRegistry 1 accountingRun).1.ids store) :=
  ⟨_, rfl, by decide +kernel,
    quota_accounting_exact builtinRegistry 1 accountingRun 0 _ rfl⟩

/-! ## Failure atomicity -/

/-- Every error exit of `execute` is a `fail`. -/
theorem execute_failed {registry : ClassRegistry} {store : SessionStore} {ids : IdentifierSource}
    {operation : Operation} {error : RemoteError}
    (failed : (store.execute registry ids operation).outcome = .error error) :
    ∃ code, error = makeError code ∧ store.execute registry ids operation = store.fail ids code := by
  have effect := execute_effect registry store ids operation
  generalize store.execute registry ids operation = done at effect failed
  cases effect with
  | failed operation code =>
    cases failed
    exact ⟨code, rfl, rfl⟩
  | answered operation outcome opened reads success => exact absurd failed (success error)
  | put => cases failed
  | created => cases failed
  | released => cases failed
  | invoked => cases failed

/-- An error carries a fixed text and changes neither the store (contents,
instances, charges, accounting, closed flag) nor the shared source. -/
theorem failure_atomic (registry : ClassRegistry) (store : SessionStore) (ids : IdentifierSource)
    (operation : Operation) (error : RemoteError)
    (failed : (store.execute registry ids operation).outcome = .error error) :
    (store.execute registry ids operation).store = store ∧
      (store.execute registry ids operation).ids = ids ∧ ∃ code, error = makeError code := by
  obtain ⟨code, text, unchanged⟩ := execute_failed failed
  rw [unchanged]
  exact ⟨rfl, rfl, code, text⟩

/-- A class whose method spoils the instance it runs on and then fails with a
text of its own. -/
def spoilingDefinition : ClassDefinition where
  description :=
    { name := ascii "Spoiler"
      attributes := [⟨ascii "value", .integer, false⟩]
      methods := [⟨ascii "spoil", [], .integer⟩]
      constructorParameters := [] }
  create := some fun _ => .ok (some
    { State := Int64
      current := 0
      stateOf := fun value => [⟨ascii "value", .integer value⟩]
      cloneOf := some
      invokeOf := fun value _ _ => (.error ⟨.timeout, ascii "spoiled"⟩, value + 1)
      clone_exact := Object.copy_exact })
  maxStateBytes := maxObjectStateBytes

def spoilingRegistry : ClassRegistry := (ClassRegistry.empty.add spoilingDefinition).2

/-- The spoiled candidate is discarded and its text replaced. -/
theorem failure_atomic_spoiled :
    ∃ store, (World.run spoilingRegistry 1 [.create ⟨1, 1, 512⟩,
        .execute 0 (.createObject (ascii "Spoiler") [])]).1.sessions[0]? = some store ∧
      store.objects.size = 1 ∧
      (store.execute spoilingRegistry ⟨2⟩ (.invokeMethod 1 (ascii "spoil") [])).outcome =
        .error ⟨.timeout, ascii "Operation timed out"⟩ ∧
      (store.execute spoilingRegistry ⟨2⟩ (.invokeMethod 1 (ascii "spoil") [])).store = store ∧
      (store.execute spoilingRegistry ⟨2⟩ (.invokeMethod 1 (ascii "spoil") [])).ids = ⟨2⟩ := by
  have fails : ∀ store : SessionStore, (store.execute spoilingRegistry ⟨2⟩
      (.invokeMethod 1 (ascii "spoil") [])).outcome =
        .error ⟨.timeout, ascii "Operation timed out"⟩ →
      (store.execute spoilingRegistry ⟨2⟩ (.invokeMethod 1 (ascii "spoil") [])).store = store ∧
      (store.execute spoilingRegistry ⟨2⟩ (.invokeMethod 1 (ascii "spoil") [])).ids = ⟨2⟩ := by
    intro store failed
    obtain ⟨same, kept, -⟩ := failure_atomic spoilingRegistry store ⟨2⟩ _ _ failed
    exact ⟨same, kept⟩
  exact ⟨_, rfl, by decide +kernel, by decide +kernel, fails _ (by decide +kernel)⟩

end PipeForge.Domain
