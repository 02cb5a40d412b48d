import PipeForge.Domain.Store

/-!
# Why a store refuses

`Refused` is the counterpart of `Effect` for failures: every code an operation can
return, with the check that failed. `fieldsValid` collects the checks a store makes
of the operation alone, before or independently of what it holds.
-/

namespace PipeForge.Domain
open Contracts Library

/-- The checks of `session_store::apply` that do not depend on the contents. The
argument lists are checked by `valid_arguments`, once the class or method is known. -/
def fieldsValid : Operation → Bool
  | .listClasses after limit => validName after true && validPageSize limit
  | .describeClass name => validName name false
  | .putValue data => validValue data
  | .getValue id => id != 0
  | .listValues _ limit => validPageSize limit
  | .createObject className arguments => validName className false && validNamedValues arguments
  | .getObject id => id != 0
  | .releaseObject id => id != 0
  | .getAttribute id name => id != 0 && validName name false
  | .invokeMethod id name arguments =>
    id != 0 && validName name false && validNamedValues arguments

/-- Every way an operation can be refused, with its code. -/
inductive Refused (registry : ClassRegistry) (store : SessionStore) : Operation → ErrorCode → Prop
  | closed (operation : Operation) (shut : store.closed = true) :
      Refused registry store operation .accessDenied
  | fields (operation : Operation) (invalid : fieldsValid operation = false) :
      Refused registry store operation .invalidRequest
  | missing (operation : Operation) : Refused registry store operation .notFound
  | quota (operation : Operation) : Refused registry store operation .quotaExceeded
  | mismatchedConstructor (className : Bytes) (arguments : List NamedValue)
      (definition : ClassDefinition) (found : registry.find className = some definition)
      (mismatched : validArguments arguments definition.description.constructorParameters = false) :
      Refused registry store (.createObject className arguments) .invalidRequest
  | mismatchedMethod (id : UInt64) (name : Bytes) (arguments : List NamedValue)
      (entry : StoredObject) (method : Method) (found : store.objects.find id = some entry)
      (declared : entry.definition.description.methods.find?
        (fun method => decide (method.name = name)) = some method)
      (mismatched : validArguments arguments method.parameters = false) :
      Refused registry store (.invokeMethod id name arguments) .invalidRequest
  | uncallable (className : Bytes) (arguments : List NamedValue) (definition : ClassDefinition)
      (found : registry.find className = some definition) (empty : definition.create = none) :
      Refused registry store (.createObject className arguments) .internalFailure
  | factory (className : Bytes) (arguments : List NamedValue) (definition : ClassDefinition)
      (factory : ObjectFactory) (error : RemoteError)
      (found : registry.find className = some definition)
      (matched : validArguments arguments definition.description.constructorParameters = true)
      (callable : definition.create = some factory) (failed : factory arguments = .error error) :
      Refused registry store (.createObject className arguments) error.code
  | null (className : Bytes) (arguments : List NamedValue) (definition : ClassDefinition)
      (factory : ObjectFactory) (found : registry.find className = some definition)
      (callable : definition.create = some factory) (made : factory arguments = .ok none) :
      Refused registry store (.createObject className arguments) .internalFailure
  | misshapen (className : Bytes) (arguments : List NamedValue) (definition : ClassDefinition)
      (factory : ObjectFactory) (created : Object)
      (found : registry.find className = some definition)
      (callable : definition.create = some factory) (made : factory arguments = .ok (some created))
      (mismatched : stateMatches definition created.state = false) :
      Refused registry store (.createObject className arguments) .internalFailure
  | stale (operation : Operation) (id : UInt64) (entry : StoredObject)
      (found : store.objects.find id = some entry)
      (mismatched : stateMatches entry.definition entry.instance_.state = false) :
      Refused registry store operation .internalFailure
  | uncloned (id : UInt64) (name : Bytes) (arguments : List NamedValue) (entry : StoredObject)
      (found : store.objects.find id = some entry) (null : entry.instance_.clone = none) :
      Refused registry store (.invokeMethod id name arguments) .internalFailure
  | method (id : UInt64) (name : Bytes) (arguments : List NamedValue) (entry : StoredObject)
      (method : Method) (error : RemoteError) (candidate : Object)
      (found : store.objects.find id = some entry)
      (declared : entry.definition.description.methods.find?
        (fun method => decide (method.name = name)) = some method)
      (matched : validArguments arguments method.parameters = true)
      (failed : entry.instance_.invoke name arguments = (.error error, candidate)) :
      Refused registry store (.invokeMethod id name arguments) error.code
  | broken (id : UInt64) (name : Bytes) (arguments : List NamedValue) (entry : StoredObject)
      (method : Method) (data : Value) (candidate : Object)
      (found : store.objects.find id = some entry)
      (declared : entry.definition.description.methods.find?
        (fun method => decide (method.name = name)) = some method)
      (called : entry.instance_.invoke name arguments = (.ok data, candidate))
      (mismatched : ¬ (validValue data = true ∧ kindOf data = method.resultKind ∧
        stateMatches entry.definition candidate.state = true)) :
      Refused registry store (.invokeMethod id name arguments) .internalFailure

/-- The outcome is no error, or one `Refused` accounts for. -/
def Accountable (registry : ClassRegistry) (store : SessionStore) (operation : Operation)
    (outcome : Outcome) : Prop :=
  ∀ error, outcome = .error error →
    ∃ code, error = makeError code ∧ Refused registry store operation code

section
variable {registry : ClassRegistry} {store : SessionStore} {operation : Operation}

theorem Accountable.refused {code : ErrorCode} (why : Refused registry store operation code) :
    Accountable registry store operation (.error (makeError code)) := by
  intro error same
  cases same
  exact ⟨code, rfl, why⟩

theorem Accountable.succeeded {outcome : Outcome} (success : ∀ error, outcome ≠ .error error) :
    Accountable registry store operation outcome :=
  fun error same => absurd same (success error)

theorem listClasses_accountable (after : Bytes) (limit : UInt32) :
    Accountable registry store (.listClasses after limit)
      (SessionStore.applyListClasses registry after limit) := by
  unfold SessionStore.applyListClasses ClassRegistry.list
  split
  · exact .succeeded (by simp)
  · rename_i error listed
    split at listed
    · rename_i checks
      cases listed
      apply Accountable.refused
      apply Refused.fields
      simp only [Bool.or_eq_true, Bool.not_eq_true'] at checks
      rcases checks with invalid | invalid <;> simp [fieldsValid, invalid]
    · cases listed

theorem describeClass_accountable (name : Bytes) :
    Accountable registry store (.describeClass name)
      (SessionStore.applyDescribeClass registry name) := by
  unfold SessionStore.applyDescribeClass
  split
  · rename_i invalid
    exact .refused (.fields _ (by simpa [fieldsValid] using invalid))
  · split
    · exact .refused (.missing _)
    · exact .succeeded (by simp)

/-- `put_value` refuses an invalid value or for want of quota. -/
theorem putValue_accountable (ids : IdentifierSource) (data : Value) :
    Accountable registry store (.putValue data) (store.applyPutValue ids data).outcome := by
  unfold SessionStore.applyPutValue
  split
  · rename_i invalid
    exact .refused (.fields _ (by simpa [fieldsValid] using invalid))
  · split
    · exact .refused (.quota _)
    · split
      · exact .refused (.quota _)
      · exact .succeeded (by simp)

theorem getValue_accountable (id : UInt64) :
    Accountable registry store (.getValue id) (store.applyGetValue id) := by
  unfold SessionStore.applyGetValue
  split
  · rename_i zero
    exact .refused (.fields _ (by simp [fieldsValid, zero]))
  · split
    · exact .refused (.missing _)
    · exact .succeeded (by simp)

theorem listValues_accountable (after : UInt64) (limit : UInt32) :
    Accountable registry store (.listValues after limit) (store.applyListValues after limit) := by
  unfold SessionStore.applyListValues
  split
  · rename_i invalid
    exact .refused (.fields _ (by simpa [fieldsValid] using invalid))
  · exact .succeeded (by simp)

/-- `create_object` refuses for its fields, its class, its arguments, the object's own reasons or
quota. -/
theorem createObject_accountable (ids : IdentifierSource) (className : Bytes)
    (arguments : List NamedValue) :
    Accountable registry store (.createObject className arguments)
      (store.applyCreateObject registry ids className arguments).outcome := by
  unfold SessionStore.applyCreateObject
  split
  · rename_i invalid
    exact .refused (.fields _ (by simp_all [fieldsValid]))
  · split
    · exact .refused (.missing _)
    · rename_i definition found
      split
      · rename_i mismatched
        exact .refused (.mismatchedConstructor _ _ definition found (by simpa using mismatched))
      · rename_i matched
        split
        · exact .refused (.quota _)
        · split
          · rename_i empty
            exact .refused (.uncallable _ _ definition found empty)
          · rename_i factory callable
            split
            · rename_i error failed
              exact .refused (.factory _ _ definition factory error found (by simpa using matched)
                callable failed)
            · rename_i made
              exact .refused (.null _ _ definition factory found callable made)
            · rename_i created made
              split
              · rename_i mismatched
                exact .refused (.misshapen _ _ definition factory created found callable made
                  (by simpa using mismatched))
              · split
                · exact .refused (.quota _)
                · split
                  · exact .refused (.quota _)
                  · exact .succeeded (by simp)

/-- `get_object` and `get_attribute` look the object up alike. -/
theorem getObject_accountable (id : UInt64) (invalid : id = 0 → fieldsValid operation = false) :
    Accountable registry store operation (store.applyGetObject id) := by
  unfold SessionStore.applyGetObject
  split
  · rename_i zero
    exact .refused (.fields _ (invalid zero))
  · split
    · exact .refused (.missing _)
    · rename_i entry found
      split
      · rename_i mismatched
        exact .refused (.stale _ id entry found (by simpa using mismatched))
      · exact .succeeded (by simp)

theorem releaseObject_accountable (ids : IdentifierSource) (id : UInt64) :
    Accountable registry store (.releaseObject id) (store.applyReleaseObject ids id).outcome := by
  unfold SessionStore.applyReleaseObject
  split
  · rename_i zero
    exact .refused (.fields _ (by simp [fieldsValid, zero]))
  · split
    · exact .refused (.missing _)
    · exact .succeeded (by simp)

/-- `get_attribute` tells a missing object or attribute from invalid fields. -/
theorem getAttribute_accountable (id : UInt64) (name : Bytes) :
    Accountable registry store (.getAttribute id name) (store.applyGetAttribute id name) := by
  unfold SessionStore.applyGetAttribute
  split
  · rename_i invalid
    exact .refused (.fields _ (by simp_all [fieldsValid]))
  · split
    · split
      · exact .refused (.missing _)
      · exact .succeeded (by simp)
    · exact getObject_accountable id (fun zero => by simp [fieldsValid, zero])

/-- The result is named, not projected from: its last decision compares wrapped
differences, which are not to be evaluated. -/
theorem invokeMethod_accountable (ids : IdentifierSource) (id : UInt64) (name : Bytes)
    (arguments : List NamedValue) (done : Executed)
    (run : store.applyInvokeMethod ids id name arguments = done) :
    Accountable registry store (.invokeMethod id name arguments) done.outcome := by
  unfold SessionStore.applyInvokeMethod at run
  split at run
  · rename_i checks
    subst run
    apply Accountable.refused
    apply Refused.fields
    simp only [Bool.or_eq_true, decide_eq_true_eq, Bool.not_eq_true'] at checks
    rcases checks with zero | invalid
    · simp [fieldsValid, zero]
    · simp [fieldsValid, invalid]
  · split at run
    · subst run
      exact .refused (.missing _)
    · rename_i entry found
      split at run
      · subst run
        exact .refused (.missing _)
      · rename_i method declared
        split at run
        · rename_i mismatched
          subst run
          exact .refused (.mismatchedMethod _ _ _ entry method found declared
            (by simpa using mismatched))
        · rename_i matched
          split at run
          · rename_i null
            subst run
            exact .refused (.uncloned _ _ _ entry found null)
          · rename_i copy cloned
            have same := Object.clone_eq cloned
            subst same
            split at run
            · rename_i error candidate failed
              subst run
              exact .refused (.method _ _ _ entry method error candidate found declared
                (by simpa using matched) failed)
            · rename_i data candidate called
              split at run
              · rename_i checks
                subst run
                refine .refused (.broken _ _ _ entry method data candidate found declared called ?_)
                intro sound
                obtain ⟨valid, kind, shaped⟩ := sound
                simp [valid, kind, shaped] at checks
              · dsimp only at run
                split at run
                · subst run
                  exact .refused (.quota _)
                · subst run
                  exact .succeeded (by simp)

/-- Every error of a store has a reason. -/
theorem execute_accountable (registry : ClassRegistry) (store : SessionStore)
    (ids : IdentifierSource) (operation : Operation) :
    Accountable registry store operation (store.execute registry ids operation).outcome := by
  unfold SessionStore.execute
  split
  · rename_i shut
    exact .refused (.closed _ shut)
  · cases operation with
    | listClasses after limit => exact listClasses_accountable after limit
    | describeClass name => exact describeClass_accountable name
    | putValue data => exact putValue_accountable ids data
    | getValue id => exact getValue_accountable id
    | listValues after limit => exact listValues_accountable after limit
    | createObject className arguments => exact createObject_accountable ids className arguments
    | getObject id => exact getObject_accountable id (fun zero => by simp [fieldsValid, zero])
    | releaseObject id => exact releaseObject_accountable ids id
    | getAttribute id name => exact getAttribute_accountable id name
    | invokeMethod id name arguments => exact invokeMethod_accountable ids id name arguments _ rfl

/-! ## The checks are the store's -/

theorem validArguments_unlisted {arguments : List NamedValue}
    (invalid : validNamedValues arguments = false) (parameters : List Parameter) :
    validArguments arguments parameters = false := by
  simp [validArguments, invalid]

/-- Creation with invalid fields is refused, and the store stays as it was. -/
theorem applyCreateObject_invalid {className : Bytes} {arguments : List NamedValue}
    (invalid : fieldsValid (.createObject className arguments) = false) (ids : IdentifierSource) :
    ∃ code, (code = .invalidRequest ∨ code = .notFound) ∧
      store.applyCreateObject registry ids className arguments = store.fail ids code := by
  by_cases named : validName className false = true
  · have listed : validNamedValues arguments = false := by
      simpa [fieldsValid, named] using invalid
    cases found : registry.find className with
    | none =>
      refine ⟨.notFound, Or.inr rfl, ?_⟩
      simp [SessionStore.applyCreateObject, named, found]
    | some definition =>
      refine ⟨.invalidRequest, Or.inl rfl, ?_⟩
      simp [SessionStore.applyCreateObject, named, found, validArguments_unlisted listed]
  · refine ⟨.invalidRequest, Or.inl rfl, ?_⟩
    simp [SessionStore.applyCreateObject, named]

theorem applyInvokeMethod_invalid {id : UInt64} {name : Bytes} {arguments : List NamedValue}
    (invalid : fieldsValid (.invokeMethod id name arguments) = false) (ids : IdentifierSource) :
    ∃ code, (code = .invalidRequest ∨ code = .notFound) ∧
      store.applyInvokeMethod ids id name arguments = store.fail ids code := by
  by_cases addressed : id = 0 ∨ validName name false = false
  · refine ⟨.invalidRequest, Or.inl rfl, ?_⟩
    simp [SessionStore.applyInvokeMethod, addressed]
  · obtain ⟨nonzero, named⟩ := not_or.mp addressed
    rw [Bool.not_eq_false] at named
    have listed : validNamedValues arguments = false := by
      simpa [fieldsValid, nonzero, named] using invalid
    cases found : store.objects.find id with
    | none =>
      refine ⟨.notFound, Or.inr rfl, ?_⟩
      simp [SessionStore.applyInvokeMethod, nonzero, named, found]
    | some entry =>
      cases declared : entry.definition.description.methods.find?
          (fun method => decide (method.name = name)) with
      | none =>
        refine ⟨.notFound, Or.inr rfl, ?_⟩
        simp [SessionStore.applyInvokeMethod, nonzero, named, found, declared]
      | some method =>
        refine ⟨.invalidRequest, Or.inl rfl, ?_⟩
        simp [SessionStore.applyInvokeMethod, nonzero, named, found, declared,
          validArguments_unlisted listed]

/-- An open store refuses every operation that fails the checks, with the code for
them unless the class or the target of a call with bad arguments is missing. -/
theorem execute_invalid_fields (opened : store.closed = false)
    (invalid : fieldsValid operation = false) (ids : IdentifierSource) :
    ∃ code, (code = .invalidRequest ∨ code = .notFound) ∧
      store.execute registry ids operation = store.fail ids code := by
  unfold SessionStore.execute
  rw [if_neg (by simp [opened])]
  cases operation with
  | listClasses after limit =>
    refine ⟨.invalidRequest, Or.inl rfl, ?_⟩
    have checks : (!validName after true || !validPageSize limit) = true := by
      rw [← Bool.not_and]
      exact congrArg not invalid
    simp only [SessionStore.applyListClasses, ClassRegistry.list, checks, if_true]
    rfl
  | describeClass name =>
    refine ⟨.invalidRequest, Or.inl rfl, ?_⟩
    have checks : validName name false = false := invalid
    simp only [SessionStore.applyDescribeClass, checks, Bool.not_false, if_true]
    rfl
  | putValue data =>
    refine ⟨.invalidRequest, Or.inl rfl, ?_⟩
    have checks : validValue data = false := invalid
    simp only [SessionStore.applyPutValue, checks, Bool.not_false, if_true]
  | getValue id | getObject id | releaseObject id =>
    have zero : id = 0 := by simpa [fieldsValid] using invalid
    subst zero
    exact ⟨.invalidRequest, Or.inl rfl, rfl⟩
  | listValues after limit =>
    refine ⟨.invalidRequest, Or.inl rfl, ?_⟩
    have checks : validPageSize limit = false := invalid
    simp only [SessionStore.applyListValues, checks, Bool.not_false, if_true]
    rfl
  | createObject className arguments =>
    exact applyCreateObject_invalid invalid ids
  | getAttribute id name =>
    refine ⟨.invalidRequest, Or.inl rfl, ?_⟩
    by_cases named : validName name false = true
    · have zero : id = 0 := by simpa [fieldsValid, named] using invalid
      simp only [SessionStore.applyGetAttribute, SessionStore.applyGetObject, named, zero,
        Bool.not_true, Bool.false_eq_true, if_false, if_true]
      rfl
    · simp only [SessionStore.applyGetAttribute, named, Bool.not_false, if_true]
      rfl
  | invokeMethod id name arguments =>
    exact applyInvokeMethod_invalid invalid ids

end

end PipeForge.Domain
