import PipeForge.Domain.Registry
import PipeForge.Library.OrderedMap
import PipeForge.Library.SizeT

/-!
# Session-owned repositories

`identifier_source` and `session_store` of domain.cpp. A store borrows the frozen
registry and the shared identifier source, so both are arguments of `execute`,
and the source is threaded through its result. Every `apply` overload keeps the
order of the checks in the source; the quota arithmetic is unsigned and wraps.

`Effect` says once what an executed operation can do to the store and to the
source. The invariants, the atomicity of failures and the history of a session
are all derived from `execute_effect`.
-/

namespace PipeForge.Domain
open Contracts Library

def maxStoredValues : Nat := 100
def maxStoredObjects : Nat := 100
def maxSessionBytes : Nat := 8 * 1024 * 1024
def recordCharge : Nat := 128
def pageByteBudget : Nat := maxPayloadBytes / 2

/-- Zero marks exhaustion, so an identifier is never zero and nothing wraps. -/
structure IdentifierSource where
  next_ : UInt64
  deriving DecidableEq, Repr

def maxIdentifier : UInt64 := 18446744073709551615

def IdentifierSource.next (ids : IdentifierSource) : Option UInt64 × IdentifierSource :=
  if ids.next_ = 0 then (none, ids)
  else (some ids.next_, ⟨if ids.next_ = maxIdentifier then 0 else ids.next_ + 1⟩)

structure SessionLimits where
  values : Nat
  objects : Nat
  bytes : Nat
  deriving DecidableEq, Repr

structure StoredObject where
  definition : ClassDefinition
  instance_ : Object
  charge : Nat

structure SessionStore where
  limits : SessionLimits
  values : OrderedMap UInt64 Value
  objects : OrderedMap UInt64 StoredObject
  used : Nat
  closed : Bool

/-- What one executed operation returns and leaves behind. -/
structure Executed where
  outcome : Outcome
  store : SessionStore
  ids : IdentifierSource

def valueCharge (data : Value) : Nat := recordCharge + valueBytes data

def stateCharge (state : List NamedValue) : Nat :=
  (state.map fun field => recordCharge + field.name.length + valueBytes field.data).sum

def objectCharge (className : Bytes) (state : List NamedValue) : Nat :=
  recordCharge + className.length + stateCharge state

def stateMatches (definition : ClassDefinition) (state : List NamedValue) : Bool :=
  if state.length != definition.description.attributes.length || !validNamedValues state then false
  else if !definition.description.attributes.all fun field => namedOfKind state field.name field.kind
    then false
  else decide (stateCharge state ≤ definition.maxStateBytes)

namespace SessionStore

/-- The constructor clamps the requested limits. -/
def create (limits : SessionLimits) : SessionStore :=
  { limits := ⟨min limits.values maxStoredValues, min limits.objects maxStoredObjects,
      min limits.bytes maxSessionBytes⟩
    values := .empty
    objects := .empty
    used := 0
    closed := false }

def close (store : SessionStore) : SessionStore :=
  { store with objects := .empty, values := .empty, used := 0, closed := true }

def accountedBytes (store : SessionStore) : Nat := store.used

/-- Return an error without touching anything. -/
def fail (store : SessionStore) (ids : IdentifierSource) (code : ErrorCode) : Executed :=
  ⟨.error (makeError code), store, ids⟩

/-- Return a result of a read-only operation. -/
def answer (store : SessionStore) (ids : IdentifierSource) (outcome : Outcome) : Executed :=
  ⟨outcome, store, ids⟩

def applyListClasses (registry : ClassRegistry) (after : Bytes) (limit : UInt32) : Outcome :=
  match registry.list after limit with
  | .ok page => .classes page
  | .error error => .error error

def applyDescribeClass (registry : ClassRegistry) (name : Bytes) : Outcome :=
  if !validName name false then .error (makeError .invalidRequest)
  else
    match registry.find name with
    | none => .error (makeError .notFound)
    | some definition => .description definition.description

def applyPutValue (store : SessionStore) (ids : IdentifierSource) (data : Value) : Executed :=
  if !validValue data then store.fail ids .invalidRequest
  else if store.values.size ≥ store.limits.values ∨
      valueCharge data > SizeT.sub store.limits.bytes store.used then
    store.fail ids .quotaExceeded
  else
    match ids.next with
    | (none, _) => store.fail ids .quotaExceeded
    | (some id, ids) =>
      ⟨.valueRecord ⟨id, data⟩,
        { store with
          values := store.values.emplace id data
          used := SizeT.add store.used (valueCharge data) }, ids⟩

def applyGetValue (store : SessionStore) (id : UInt64) : Outcome :=
  if id = 0 then .error (makeError .invalidRequest)
  else
    match store.values.find id with
    | none => .error (makeError .notFound)
    | some data => .valueRecord ⟨id, data⟩

/-- The page loop: `(values, remaining)` once the limit, the byte budget or the
end of the map is reached. -/
def fillPage (limit : Nat) : Nat → Nat → List (UInt64 × Value) →
    List ValueRecord × List (UInt64 × Value)
  | _, _, [] => ([], [])
  | taken, bytes, (id, data) :: rest =>
    if taken < limit then
      if valueCharge data > SizeT.sub pageByteBudget bytes then ([], (id, data) :: rest)
      else
        let later := fillPage limit (taken + 1) (bytes + valueCharge data) rest
        (⟨id, data⟩ :: later.1, later.2)
    else ([], (id, data) :: rest)

def applyListValues (store : SessionStore) (after : UInt64) (limit : UInt32) : Outcome :=
  if !validPageSize limit then .error (makeError .invalidRequest)
  else
    let page := fillPage limit.toNat 0 0 (store.values.after after)
    -- `page.values.back()` is evaluated only while entries remain.
    let next := if page.2.isEmpty then 0 else ((page.1.getLast?).map (·.id)).getD 0
    .values ⟨page.1, next⟩

def applyCreateObject (store : SessionStore) (registry : ClassRegistry) (ids : IdentifierSource)
    (className : Bytes) (arguments : List NamedValue) : Executed :=
  if !validName className false then store.fail ids .invalidRequest
  else
    match registry.find className with
    | none => store.fail ids .notFound
    | some definition =>
      if !validArguments arguments definition.description.constructorParameters then
        store.fail ids .invalidRequest
      else if store.objects.size ≥ store.limits.objects then store.fail ids .quotaExceeded
      else
        match definition.create with
        -- `add` rejects an empty factory; calling one would throw.
        | none => store.fail ids .internalFailure
        | some create =>
          match create arguments with
          | .error error => store.fail ids error.code
          | .ok none => store.fail ids .internalFailure
          | .ok (some created) =>
            if !stateMatches definition created.state then store.fail ids .internalFailure
            else if objectCharge className created.state >
                SizeT.sub store.limits.bytes store.used then store.fail ids .quotaExceeded
            else
              match ids.next with
              | (none, _) => store.fail ids .quotaExceeded
              | (some id, ids) =>
                ⟨.object ⟨id, className, created.state⟩,
                  { store with
                    objects := store.objects.emplace id
                      ⟨definition, created, objectCharge className created.state⟩
                    used := SizeT.add store.used (objectCharge className created.state) }, ids⟩

def applyGetObject (store : SessionStore) (id : UInt64) : Outcome :=
  if id = 0 then .error (makeError .invalidRequest)
  else
    match store.objects.find id with
    | none => .error (makeError .notFound)
    | some entry =>
      if !stateMatches entry.definition entry.instance_.state then
        .error (makeError .internalFailure)
      else .object ⟨id, entry.definition.name, entry.instance_.state⟩

def applyReleaseObject (store : SessionStore) (ids : IdentifierSource) (id : UInt64) : Executed :=
  if id = 0 then store.fail ids .invalidRequest
  else
    match store.objects.find id with
    | none => store.fail ids .notFound
    | some entry =>
      ⟨.released, { store with
        used := SizeT.sub store.used entry.charge
        objects := store.objects.erase id }, ids⟩

def applyGetAttribute (store : SessionStore) (id : UInt64) (name : Bytes) : Outcome :=
  if !validName name false then .error (makeError .invalidRequest)
  else
    match store.applyGetObject id with
    | .object snapshot =>
      match findNamed snapshot.state name with
      | none => .error (makeError .notFound)
      | some found => .value found.data
    | other => other

def applyInvokeMethod (store : SessionStore) (ids : IdentifierSource) (id : UInt64) (name : Bytes)
    (arguments : List NamedValue) : Executed :=
  if id = 0 || !validName name false then store.fail ids .invalidRequest
  else
    match store.objects.find id with
    | none => store.fail ids .notFound
    | some entry =>
      match entry.definition.description.methods.find? fun method => decide (method.name = name) with
      | none => store.fail ids .notFound
      | some method =>
        if !validArguments arguments method.parameters then store.fail ids .invalidRequest
        else
          match entry.instance_.clone with
          | none => store.fail ids .internalFailure
          | some copy =>
            match copy.invoke name arguments with
            | (.error error, _) => store.fail ids error.code
            | (.ok data, candidate) =>
              if !validValue data || kindOf data != method.resultKind ||
                  !stateMatches entry.definition candidate.state then
                store.fail ids .internalFailure
              else
                let charge := objectCharge entry.definition.name candidate.state
                let retained := SizeT.sub store.used entry.charge
                if charge > SizeT.sub store.limits.bytes retained then
                  store.fail ids .quotaExceeded
                else
                  ⟨.value data, { store with
                    objects := store.objects.assign id
                      { entry with instance_ := candidate, charge := charge }
                    used := SizeT.add retained charge }, ids⟩

def execute (store : SessionStore) (registry : ClassRegistry) (ids : IdentifierSource)
    (operation : Operation) : Executed :=
  if store.closed then store.fail ids .accessDenied
  else
    match operation with
    | .listClasses after limit => store.answer ids (applyListClasses registry after limit)
    | .describeClass name => store.answer ids (applyDescribeClass registry name)
    | .putValue data => store.applyPutValue ids data
    | .getValue id => store.answer ids (store.applyGetValue id)
    | .listValues after limit => store.answer ids (store.applyListValues after limit)
    | .createObject className arguments =>
      store.applyCreateObject registry ids className arguments
    | .getObject id => store.answer ids (store.applyGetObject id)
    | .releaseObject id => store.applyReleaseObject ids id
    | .getAttribute id name => store.answer ids (store.applyGetAttribute id name)
    | .invokeMethod id name arguments => store.applyInvokeMethod ids id name arguments

end SessionStore

/-! ## What an operation can do -/

/-- The operations that never write. -/
def Operation.reads : Operation → Bool
  | .listClasses _ _ | .describeClass _ | .getValue _ | .listValues _ _ | .getObject _
  | .getAttribute _ _ => true
  | _ => false

/-- Every way `execute` can end on a given store and source, with the checks that
were passed on the way. -/
inductive Effect (registry : ClassRegistry) (store : SessionStore) (ids : IdentifierSource) :
    Operation → Executed → Prop
  | failed (operation : Operation) (code : ErrorCode) :
      Effect registry store ids operation (store.fail ids code)
  | answered (operation : Operation) (outcome : Outcome) (opened : store.closed = false)
      (reads : Operation.reads operation = true) (success : ∀ error, outcome ≠ .error error) :
      Effect registry store ids operation (store.answer ids outcome)
  | put (data : Value) (id : UInt64) (ids' : IdentifierSource) (opened : store.closed = false)
      (valid : validValue data = true) (room : store.values.size < store.limits.values)
      (fits : valueCharge data ≤ SizeT.sub store.limits.bytes store.used)
      (drawn : ids.next = (some id, ids')) :
      Effect registry store ids (.putValue data) ⟨.valueRecord ⟨id, data⟩,
        { store with
          values := store.values.emplace id data
          used := SizeT.add store.used (valueCharge data) }, ids'⟩
  | created (className : Bytes) (arguments : List NamedValue) (definition : ClassDefinition)
      (factory : ObjectFactory) (object : Object) (id : UInt64) (ids' : IdentifierSource)
      (opened : store.closed = false) (named : validName className false = true)
      (found : registry.find className = some definition)
      (matched : validArguments arguments definition.description.constructorParameters = true)
      (room : store.objects.size < store.limits.objects)
      (callable : definition.create = some factory) (made : factory arguments = .ok (some object))
      (shaped : stateMatches definition object.state = true)
      (fits : objectCharge className object.state ≤ SizeT.sub store.limits.bytes store.used)
      (drawn : ids.next = (some id, ids')) :
      Effect registry store ids (.createObject className arguments)
        ⟨.object ⟨id, className, object.state⟩,
        { store with
          objects := store.objects.emplace id
            ⟨definition, object, objectCharge className object.state⟩
          used := SizeT.add store.used (objectCharge className object.state) }, ids'⟩
  | released (id : UInt64) (entry : StoredObject) (opened : store.closed = false)
      (nonzero : id ≠ 0) (found : store.objects.find id = some entry) :
      Effect registry store ids (.releaseObject id) ⟨.released,
        { store with
          used := SizeT.sub store.used entry.charge
          objects := store.objects.erase id }, ids⟩
  | invoked (id : UInt64) (name : Bytes) (arguments : List NamedValue) (entry : StoredObject)
      (method : Method) (data : Value) (candidate : Object) (opened : store.closed = false)
      (nonzero : id ≠ 0) (named : validName name false = true)
      (found : store.objects.find id = some entry)
      (declared : entry.definition.description.methods.find?
        (fun method => decide (method.name = name)) = some method)
      (matched : validArguments arguments method.parameters = true)
      (called : entry.instance_.invoke name arguments = (.ok data, candidate))
      (valid : validValue data = true) (kind : kindOf data = method.resultKind)
      (shaped : stateMatches entry.definition candidate.state = true)
      (fits : objectCharge entry.definition.name candidate.state ≤
        SizeT.sub store.limits.bytes (SizeT.sub store.used entry.charge)) :
      Effect registry store ids (.invokeMethod id name arguments) ⟨.value data,
        { store with
          objects := store.objects.assign id
            { entry with
              instance_ := candidate
              charge := objectCharge entry.definition.name candidate.state }
          used := SizeT.add (SizeT.sub store.used entry.charge)
            (objectCharge entry.definition.name candidate.state) }, ids⟩

section
variable (registry : ClassRegistry) (store : SessionStore) (ids : IdentifierSource)

/-- `put_value` stores under a fresh identifier, or fails and changes nothing. -/
theorem putValue_effect (opened : store.closed = false) (data : Value) :
    Effect registry store ids (.putValue data) (store.applyPutValue ids data) := by
  unfold SessionStore.applyPutValue
  split
  · exact .failed _ _
  · rename_i valid
    split
    · exact .failed _ _
    · rename_i quota
      split
      · exact .failed _ _
      · rename_i id ids' drawn
        simp only [not_or, Nat.not_le, Nat.not_lt] at quota
        exact .put data id ids' opened (by simpa using valid) quota.1 quota.2 drawn

/-- `create_object` stores what the factory made, or fails and changes nothing. -/
theorem createObject_effect (opened : store.closed = false) (className : Bytes)
    (arguments : List NamedValue) :
    Effect registry store ids (.createObject className arguments)
      (store.applyCreateObject registry ids className arguments) := by
  unfold SessionStore.applyCreateObject
  split
  · exact .failed _ _
  · rename_i named
    split
    · exact .failed _ _
    · rename_i definition found
      split
      · exact .failed _ _
      · rename_i matched
        split
        · exact .failed _ _
        · rename_i room
          split
          · exact .failed _ _
          · rename_i factory callable
            split
            · exact .failed _ _
            · exact .failed _ _
            · rename_i object made
              split
              · exact .failed _ _
              · rename_i shaped
                split
                · exact .failed _ _
                · rename_i fits
                  split
                  · exact .failed _ _
                  · rename_i id ids' drawn
                    exact .created className arguments definition factory object id ids' opened
                      (by simpa using named) found (by simpa using matched) (Nat.lt_of_not_le room)
                      callable made (by simpa using shaped) (Nat.le_of_not_lt fits) drawn

/-- `release_object` gives back the charge of what it erases. -/
theorem releaseObject_effect (opened : store.closed = false) (id : UInt64) :
    Effect registry store ids (.releaseObject id) (store.applyReleaseObject ids id) := by
  unfold SessionStore.applyReleaseObject
  split
  · exact .failed _ _
  · rename_i nonzero
    split
    · exact .failed _ _
    · rename_i entry found
      exact .released id entry opened nonzero found

/-- `invoke_method` replaces the object by the changed copy only if everything has succeeded. -/
theorem invokeMethod_effect (opened : store.closed = false) (id : UInt64) (name : Bytes)
    (arguments : List NamedValue) :
    Effect registry store ids (.invokeMethod id name arguments)
      (store.applyInvokeMethod ids id name arguments) := by
  unfold SessionStore.applyInvokeMethod
  split
  · exact .failed _ _
  · rename_i checks
    simp only [Bool.or_eq_true, decide_eq_true_eq, Bool.not_eq_true', not_or,
      Bool.not_eq_false] at checks
    split
    · exact .failed _ _
    · rename_i entry found
      split
      · exact .failed _ _
      · rename_i method declared
        split
        · exact .failed _ _
        · rename_i matched
          split
          · exact .failed _ _
          · rename_i copy cloned
            split
            · exact .failed _ _
            · rename_i data candidate called
              split
              · exact .failed _ _
              · rename_i output
                simp only [Bool.or_eq_true, Bool.not_eq_true', bne_iff_ne, ne_eq, not_or,
                  Bool.not_eq_false, not_not] at output
                dsimp only
                split
                · exact .failed _ _
                · rename_i fits
                  rw [Object.clone_eq cloned] at called
                  exact .invoked id name arguments entry method data candidate opened checks.1
                    checks.2 found declared (by simpa using matched) called output.1.1 output.1.2
                    output.2 (Nat.le_of_not_lt fits)

/-- An answer is a success or carries one of the fixed error texts. -/
def FixedError (outcome : Outcome) : Prop :=
  ∀ error, outcome = .error error → ∃ code, error = makeError code

theorem answer_effect (opened : store.closed = false) (operation : Operation)
    (reads : Operation.reads operation = true) (outcome : Outcome) (fixed : FixedError outcome) :
    Effect registry store ids operation (store.answer ids outcome) := by
  by_cases failure : ∃ error, outcome = .error error
  · obtain ⟨error, rfl⟩ := failure
    obtain ⟨code, rfl⟩ := fixed error rfl
    exact .failed operation code
  · exact .answered operation outcome opened reads fun error same => failure ⟨error, same⟩

theorem listClasses_fixed (after : Bytes) (limit : UInt32) :
    FixedError (SessionStore.applyListClasses registry after limit) := by
  intro error same
  unfold SessionStore.applyListClasses ClassRegistry.list at same
  split at same
  · cases same
  · rename_i listed
    split at listed
    · cases listed
      cases same
      exact ⟨_, rfl⟩
    · cases listed

theorem describeClass_fixed (name : Bytes) :
    FixedError (SessionStore.applyDescribeClass registry name) := by
  intro error same
  unfold SessionStore.applyDescribeClass at same
  split at same
  · cases same
    exact ⟨_, rfl⟩
  · split at same
    · cases same
      exact ⟨_, rfl⟩
    · cases same

theorem getValue_fixed (id : UInt64) : FixedError (store.applyGetValue id) := by
  intro error same
  unfold SessionStore.applyGetValue at same
  split at same
  · cases same
    exact ⟨_, rfl⟩
  · split at same
    · cases same
      exact ⟨_, rfl⟩
    · cases same

theorem listValues_fixed (after : UInt64) (limit : UInt32) :
    FixedError (store.applyListValues after limit) := by
  intro error same
  unfold SessionStore.applyListValues at same
  split at same
  · cases same
    exact ⟨_, rfl⟩
  · cases same

theorem getObject_fixed (id : UInt64) : FixedError (store.applyGetObject id) := by
  intro error same
  unfold SessionStore.applyGetObject at same
  split at same
  · cases same
    exact ⟨_, rfl⟩
  · split at same
    · cases same
      exact ⟨_, rfl⟩
    · split at same
      · cases same
        exact ⟨_, rfl⟩
      · cases same

theorem getAttribute_fixed (id : UInt64) (name : Bytes) :
    FixedError (store.applyGetAttribute id name) := by
  intro error same
  unfold SessionStore.applyGetAttribute at same
  split at same
  · cases same
    exact ⟨_, rfl⟩
  · split at same
    · split at same
      · cases same
        exact ⟨_, rfl⟩
      · cases same
    · exact getObject_fixed store id error same

/-- The one case analysis of `execute`; every later proof splits on `Effect`. -/
theorem execute_effect (operation : Operation) :
    Effect registry store ids operation (store.execute registry ids operation) := by
  unfold SessionStore.execute
  split
  · exact .failed _ _
  · rename_i opened
    have opened : store.closed = false := by simpa using opened
    cases operation with
    | listClasses after limit =>
      exact answer_effect _ _ _ opened _ rfl _ (listClasses_fixed registry after limit)
    | describeClass name =>
      exact answer_effect _ _ _ opened _ rfl _ (describeClass_fixed registry name)
    | putValue data => exact putValue_effect registry store ids opened data
    | getValue id => exact answer_effect _ _ _ opened _ rfl _ (getValue_fixed store id)
    | listValues after limit =>
      exact answer_effect _ _ _ opened _ rfl _ (listValues_fixed store after limit)
    | createObject className arguments =>
      exact createObject_effect registry store ids opened className arguments
    | getObject id => exact answer_effect _ _ _ opened _ rfl _ (getObject_fixed store id)
    | releaseObject id => exact releaseObject_effect registry store ids opened id
    | getAttribute id name =>
      exact answer_effect _ _ _ opened _ rfl _ (getAttribute_fixed store id name)
    | invokeMethod id name arguments =>
      exact invokeMethod_effect registry store ids opened id name arguments

end

end PipeForge.Domain
